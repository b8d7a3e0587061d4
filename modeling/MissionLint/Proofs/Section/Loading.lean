import MissionLint.Section.Reader
import MissionLint.Proofs.Data.LongInteger

namespace MissionLint

/-!
# Documents that are sections

A document is read as a section when its variables, its events and their commands have the
kinds that they should have.  The section then has one event for each entry, with one
command for each entry, in their order.  Any other document is refused as input, with two
exceptions.  Commands that are null or a number cannot be gone through, and no check is made
before that.  And a value that becomes a text, or that a refusal shows, cannot be written when
it holds an integer past the digit limit.
-/

/-! ## What a section is read from -/

/-- A value without members. -/
inductive Data.IsScalar : Data → Prop
  | null : IsScalar .null
  | number (value : Number) : IsScalar (.number value)

/-- A text is what a value is displayed as. -/
def Data.DisplaysAs (value : Data) (text : Text) : Prop :=
  value.display = .ok text

/-- An entry that gives a command: it has the command's name, and a list of parameters
unless these are missing or nothing. -/
structure SectionCommand.ReadFrom (entry : Data) (command : SectionCommand) : Prop where
  name : ScriptSection.textField? entry "command" = some command.command
  parameters : ∃ items,
    ((ScriptSection.fieldOf? entry "parameters").filter Data.isSomething).getD (.list []) =
        .list items ∧
      List.Forall₂ Data.DisplaysAs items command.parameters

/-- An entry that gives an event: it has the event's name, its condition unless that is
missing or nothing, and one entry for each command. -/
structure SectionEvent.ReadFrom (entry : Data) (event : SectionEvent) : Prop where
  name : ScriptSection.textField? entry "name" = some event.name
  condition :
    Option.Rel Data.DisplaysAs
      ((ScriptSection.fieldOf? entry "condition").filter Data.isSomething) event.condition
  commands : ∃ entries,
    Settings.membersOf? ((ScriptSection.fieldOf? entry "commands").getD (.list [])) =
        some entries ∧
      List.Forall₂ SectionCommand.ReadFrom entries event.commands

/-- An entry of an event whose commands cannot be gone through. -/
structure SectionEvent.LacksCommands (entry : Data) : Prop where
  named : ∃ name, ScriptSection.textField? entry "name" = some name
  scalar : ∃ commands,
    ScriptSection.fieldOf? entry "commands" = some commands ∧ commands.IsScalar

/-- An entry of a command whose parameters cannot be written. -/
structure SectionCommand.StopsAtInteger (entry : Data) : Prop where
  named : ∃ name, ScriptSection.textField? entry "command" = some name
  long : ∃ parameters,
    ScriptSection.fieldOf? entry "parameters" = some parameters ∧ parameters.HasLongInteger

/-- An entry of an event in which something has to be written and cannot: the entry itself
when it has no name, the parameters of a command after commands that are read, or the
condition after all commands. -/
inductive SectionEvent.StopsAtInteger (entry : Data) : Prop
  | unnamed (lacksName : ScriptSection.textField? entry "name" = none)
      (long : entry.HasLongInteger)
  | command {name : Text} {before after : List Data} {command : Data}
      (named : ScriptSection.textField? entry "name" = some name)
      (areCommands :
        Settings.membersOf? ((ScriptSection.fieldOf? entry "commands").getD (.list [])) =
          some (before ++ command :: after))
      (earlier : ∀ other ∈ before, ∃ read, SectionCommand.ReadFrom other read)
      (stops : SectionCommand.StopsAtInteger command)
  | condition {name : Text} {entries : List Data} {commands : List SectionCommand}
      {condition : Data}
      (named : ScriptSection.textField? entry "name" = some name)
      (areCommands :
        Settings.membersOf? ((ScriptSection.fieldOf? entry "commands").getD (.list [])) =
          some entries)
      (read : List.Forall₂ SectionCommand.ReadFrom entries commands)
      (isCondition : ScriptSection.fieldOf? entry "condition" = some condition)
      (long : condition.HasLongInteger)

namespace ScriptSection

/-- A document that gives a section: a record with the variables and with one entry for each
event. -/
structure ReadFrom (document : Data) (script : ScriptSection) : Prop where
  isRecord : ∃ fields, document = .record fields
  declared :
    (fieldOf? document "variables").getD (.record []) =
      .record (script.declared.map fun entry => (entry.1, entry.2.toData))
  events : ∃ entries,
    (fieldOf? document "events").getD (.list []) = .list entries ∧
      List.Forall₂ SectionEvent.ReadFrom entries script.events

/-- A document of which all is read up to an event whose commands cannot be gone through. -/
structure StopsAtCommands (document : Data) : Prop where
  declared : ∃ declared : List (Text × SectionValue),
    (fieldOf? document "variables").getD (.record []) =
      .record (declared.map fun entry => (entry.1, entry.2.toData))
  events : ∃ before entry after,
    fieldOf? document "events" = some (.list (before ++ entry :: after)) ∧
      (∀ earlier ∈ before, ∃ event, SectionEvent.ReadFrom earlier event) ∧
      SectionEvent.LacksCommands entry

/-- A document of which all is read up to something that has to be written and cannot: a
variable with an unsupported value, or something in an event. -/
inductive StopsAtInteger (document : Data) : Prop
  | declared {before after : List (Text × Data)} {entry : Text × Data}
      (given : fieldOf? document "variables" = some (.record (before ++ entry :: after)))
      (earlier : ∀ other ∈ before, ∃ value : SectionValue, other.2 = value.toData)
      (unsupported : ∀ value : SectionValue, entry.2 ≠ value.toData)
      (long : entry.2.HasLongInteger)
  | event {declared : List (Text × SectionValue)} {before after : List Data} {entry : Data}
      (isDeclared :
        (fieldOf? document "variables").getD (.record []) =
          .record (declared.map fun entry => (entry.1, entry.2.toData)))
      (events : fieldOf? document "events" = some (.list (before ++ entry :: after)))
      (earlier : ∀ other ∈ before, ∃ event, SectionEvent.ReadFrom other event)
      (stops : SectionEvent.StopsAtInteger entry)

/-! ## Reading -/

/-- A value is read as the text that it is displayed as. -/
theorem displayOf_eq_ok_iff
    {value : Data}
    {text : Text} :
    displayOf value = .ok text ↔ value.DisplaysAs text := by
  unfold displayOf Data.DisplaysAs
  cases value.display <;>
    simp [Except.mapError]

/-- Texts and numbers are the values that a variable can have. -/
theorem valueOf_eq_ok_iff
    {key : Text}
    {given : Data}
    {value : SectionValue} :
    valueOf key given = .ok value ↔ given = value.toData := by
  have notRefused (problem : Text → InputProblem) : refuse given problem ≠ .ok value := by
    unfold refuse
    split <;>
      simp
  cases given <;> cases value <;>
    simp [valueOf, SectionValue.toData, notRefused]

/-- Variables are read one by one, each under its key. -/
theorem mapM_valueOf_eq_ok_iff
    {fields : List (Text × Data)}
    {declared : List (Text × SectionValue)} :
    fields.mapM (fun entry => do return (entry.1, ← valueOf entry.1 entry.2)) = .ok declared ↔
      fields = declared.map fun entry => (entry.1, entry.2.toData) := by
  rw [Outcome.mapM_eq_ok_iff_forall₂, ← List.forall₂_eq_eq_eq, List.forall₂_map_right_iff]
  have entry_iff (given : Text × Data) (entry : Text × SectionValue) :
      (do return (given.1, ← valueOf given.1 given.2) : Except Failure _) = .ok entry ↔
        given = (entry.1, entry.2.toData) := by
    rw [Prod.ext_iff, ← @valueOf_eq_ok_iff given.1]
    cases valueOf given.1 given.2 <;>
      simp [bind, Except.bind, pure, Except.pure, Prod.ext_iff]
  simp only [entry_iff]

/-- Variables are read from a record of texts and numbers, or from nothing. -/
theorem variablesOf_eq_ok_iff
    {given : Option Data}
    {declared : List (Text × SectionValue)} :
    variablesOf given = .ok declared ↔
      given.getD (.record []) = .record (declared.map fun entry => (entry.1, entry.2.toData)) := by
  unfold variablesOf
  split
  · cases declared <;>
      simp
  · simp only [mapM_valueOf_eq_ok_iff, Option.getD_some, Data.record.injEq]
  case _ value notRecord =>
    simp only [reduceCtorEq, Option.getD_some, false_iff]
    exact notRecord _

/-- Parameters are read from a list of values that can be displayed, or from nothing. -/
theorem parametersOf_eq_ok_iff
    {command : Text}
    {given : Option Data}
    {parameters : List Text} :
    parametersOf command given = .ok parameters ↔
      ∃ items,
        (given.filter Data.isSomething).getD (.list []) = .list items ∧
          List.Forall₂ Data.DisplaysAs items parameters := by
  have nothing_iff :
      (.ok [] : Except Failure (List Text)) = .ok parameters ↔
        ∃ items, Data.list [] = .list items ∧ List.Forall₂ Data.DisplaysAs items parameters := by
    cases parameters <;>
      simp
  cases given with
  | none =>
      exact nothing_iff
  | some value =>
      by_cases isSomething : value.isSomething = true
      · have notRefused (problem : Text → InputProblem) :
            refuse value problem ≠ .ok parameters := by
          unfold refuse
          split <;>
            simp
        cases value <;>
          simp [parametersOf, isSomething, Option.filter, notRefused,
            Outcome.mapM_eq_ok_iff_forall₂, displayOf_eq_ok_iff]
      · simp [parametersOf, isSomething, Option.filter, nothing_iff]

/-- A command is read from an entry that gives it. -/
theorem commandOf_eq_ok_iff
    {event : Text}
    {entry : Data}
    {command : SectionCommand} :
    commandOf event entry = .ok command ↔ command.ReadFrom entry := by
  unfold commandOf
  constructor
  · intro returns
    split at returns
    · cases returns
    case _ name isName =>
      obtain ⟨parameters, areParameters, isCommand⟩ := Outcome.exists_of_bind returns
      cases isCommand
      exact ⟨isName, parametersOf_eq_ok_iff.mp areParameters⟩
  · rintro ⟨isName, areParameters⟩
    simp only [isName, parametersOf_eq_ok_iff.mpr areParameters]
    rfl

/-- Commands are read from the members of a value, one from each. -/
theorem commandsOf_eq_ok_iff
    {event : Text}
    {given : Option Data}
    {commands : List SectionCommand} :
    commandsOf event given = .ok commands ↔
      ∃ entries,
        Settings.membersOf? (given.getD (.list [])) = some entries ∧
          List.Forall₂ SectionCommand.ReadFrom entries commands := by
  cases given with
  | none =>
      simp [commandsOf, Settings.membersOf?, eq_comm]
  | some value =>
      simp only [commandsOf, Option.getD_some]
      cases Settings.membersOf? value with
      | none =>
          simp
      | some entries =>
          simp [Outcome.mapM_eq_ok_iff_forall₂, commandOf_eq_ok_iff]

/-- A condition that is something is read as it is displayed. -/
theorem conditionOf_eq_map
    {given : Option Data}
    {condition : Data}
    (kept : given.filter Data.isSomething = some condition) :
    conditionOf given = (displayOf condition).map some := by
  unfold conditionOf
  rw [kept]
  rfl

/-- A condition is read from a value that can be displayed, or there is none. -/
theorem conditionOf_eq_ok_iff
    {given : Option Data}
    {condition : Option Text} :
    conditionOf given = .ok condition ↔
      Option.Rel Data.DisplaysAs (given.filter Data.isSomething) condition := by
  cases kept : given.filter Data.isSomething with
  | none =>
      unfold conditionOf
      rw [kept]
      cases condition <;>
        simp [pure, Except.pure]
  | some value =>
      rw [conditionOf_eq_map kept]
      cases condition with
      | none =>
          cases displayOf value <;>
            simp [Except.map]
      | some text =>
          rw [Option.rel_some_some, ← displayOf_eq_ok_iff]
          cases displayOf value <;>
            simp [Except.map]

/-- An event is read from an entry that gives it. -/
theorem eventOf_eq_ok_iff
    {entry : Data}
    {event : SectionEvent} :
    eventOf entry = .ok event ↔ event.ReadFrom entry := by
  unfold eventOf
  constructor
  · intro returns
    split at returns
    · unfold refuse at returns
      split at returns <;>
        cases returns
    case _ name isName =>
      obtain ⟨commands, areCommands, goesOn⟩ := Outcome.exists_of_bind returns
      obtain ⟨condition, isCondition, isEvent⟩ := Outcome.exists_of_bind goesOn
      cases isEvent
      exact ⟨isName, conditionOf_eq_ok_iff.mp isCondition, commandsOf_eq_ok_iff.mp areCommands⟩
  · rintro ⟨isName, isCondition, areCommands⟩
    simp only [isName, commandsOf_eq_ok_iff.mpr areCommands,
      conditionOf_eq_ok_iff.mpr isCondition]
    rfl

/-- Events are read from a list, one from each of its entries, or there are none. -/
theorem eventsOf_eq_ok_iff
    {given : Option Data}
    {events : List SectionEvent} :
    eventsOf given = .ok events ↔
      ∃ entries,
        given.getD (.list []) = .list entries ∧
          List.Forall₂ SectionEvent.ReadFrom entries events := by
  unfold eventsOf
  split
  · simp [eq_comm]
  · simp [Outcome.mapM_eq_ok_iff_forall₂, eventOf_eq_ok_iff]
  case _ value notList =>
    simp only [reduceCtorEq, Option.getD_some, false_iff]
    rintro ⟨entries, isList, _⟩
    exact notList entries isList

/-- The documents that are read as a section are those that give it. -/
theorem ofData_eq_ok_iff
    {document : Data}
    {script : ScriptSection} :
    ofData document = .ok script ↔ script.ReadFrom document := by
  constructor
  · intro returns
    unfold ofData at returns
    split at returns
    · obtain ⟨declared, areDeclared, goesOn⟩ := Outcome.exists_of_bind returns
      obtain ⟨events, areEvents, isScript⟩ := Outcome.exists_of_bind goesOn
      cases isScript
      exact ⟨⟨_, rfl⟩, variablesOf_eq_ok_iff.mp areDeclared, eventsOf_eq_ok_iff.mp areEvents⟩
    · cases returns
  · rintro ⟨⟨fields, rfl⟩, areDeclared, areEvents⟩
    have declared := variablesOf_eq_ok_iff.mpr areDeclared
    have events := eventsOf_eq_ok_iff.mpr areEvents
    simp only [fieldOf?] at declared events
    simp only [ofData, declared, events]
    rfl

/-! ## Refusing and stopping -/

/-- What has no members is null or a number. -/
theorem membersOf?_eq_none_iff
    {value : Data} :
    Settings.membersOf? value = none ↔ value.IsScalar := by
  constructor
  · intro lacks
    cases value with
    | null =>
        exact .null
    | number value =>
        exact .number value
    | _ =>
        cases lacks
  · rintro (_ | _) <;>
      rfl

/-- A failure that refuses the input, unless something stops the reading: then it is the limit
of what can be written. -/
def RefusesUnless (stops : Prop) (failure : Failure) : Prop :=
  (∃ problem, failure = .input problem) ∨ failure = .unwritable .writing ∧ stops

/-- What stops a part of the reading stops the whole of it. -/
theorem RefusesUnless.imp
    {stops others : Prop}
    {failure : Failure}
    (refuses : RefusesUnless stops failure)
    (isStop : stops → others) :
    RefusesUnless others failure :=
  Or.imp_right (And.imp_right isStop) refuses

/-- A value is displayed unless it holds an integer past the digit limit. -/
theorem displayOf_eq_error_iff
    {value : Data}
    {failure : Failure} :
    displayOf value = .error failure ↔
      failure = .unwritable .writing ∧ value.HasLongInteger := by
  unfold displayOf
  constructor
  · intro fails
    cases outcome : value.display with
    | ok text =>
        rw [outcome] at fails
        cases fails
    | error limit =>
        rw [outcome] at fails
        cases fails
        obtain ⟨rfl, long⟩ := Data.display_eq_error_iff.mp outcome
        exact ⟨rfl, long⟩
  · rintro ⟨rfl, long⟩
    rw [Data.display_eq_error_iff.mpr ⟨rfl, long⟩]
    rfl

/-- A value that is shown is refused, unless it cannot be written. -/
theorem refusesUnless_of_refuse
    {value : Data}
    {problem : Text → InputProblem}
    {failure : Failure}
    (fails : (refuse value problem : Except Failure Value) = .error failure) :
    RefusesUnless value.HasLongInteger failure := by
  unfold refuse at fails
  split at fails
  · cases fails
    exact .inl ⟨_, rfl⟩
  case _ limit unwritten =>
    cases fails
    obtain ⟨rfl, long⟩ := Data.literal_eq_error_iff.mp unwritten
    exact .inr ⟨rfl, long⟩

/-- A value that cannot be written stops the reading where it should be shown. -/
theorem refuse_of_hasLongInteger
    {value : Data}
    (long : value.HasLongInteger)
    (problem : Text → InputProblem) :
    (refuse value problem : Except Failure Value) = .error (.unwritable .writing) := by
  rw [refuse, Data.literal_eq_error_iff.mpr ⟨rfl, long⟩]

/-- A value that is neither a text nor a number is shown and refused. -/
theorem valueOf_of_unsupported
    {given : Data}
    (unsupported : ∀ value : SectionValue, given ≠ value.toData)
    (key : Text) :
    valueOf key given = refuse given (.variableValue key) := by
  cases given with
  | text value =>
      exact absurd rfl (unsupported (.text value))
  | number value =>
      exact absurd rfl (unsupported (.number value))
  | _ =>
      rfl

/-- The first variable with an unsupported value is refused, unless the value cannot be
written. -/
theorem refusesUnless_of_variablesOf
    {given : Option Data}
    {failure : Failure}
    (fails : variablesOf given = .error failure) :
    RefusesUnless
      (∃ before entry after,
        given = some (.record (before ++ entry :: after)) ∧
          (∀ other ∈ before, ∃ value : SectionValue, other.2 = value.toData) ∧
          (∀ value : SectionValue, entry.2 ≠ value.toData) ∧ entry.2.HasLongInteger)
      failure := by
  unfold variablesOf at fails
  split at fails
  · cases fails
  case _ fields =>
    obtain ⟨before, entry, after, rfl, earlierReturn, atEntry⟩ :=
      Outcome.mapM_eq_error_iff.mp fails
    have earlier : ∀ other ∈ before, ∃ value : SectionValue, other.2 = value.toData := by
      intro other isEarlier
      obtain ⟨_, returns⟩ := earlierReturn other isEarlier
      obtain ⟨value, isValue, _⟩ := Outcome.exists_of_bind returns
      exact ⟨value, valueOf_eq_ok_iff.mp isValue⟩
    rcases Outcome.eq_error_or_exists_of_bind atEntry with refused | ⟨_, _, returned⟩
    · have unsupported (value : SectionValue) : entry.2 ≠ value.toData := by
        intro isValue
        rw [valueOf_eq_ok_iff.mpr isValue] at refused
        cases refused
      rw [valueOf_of_unsupported unsupported] at refused
      exact (refusesUnless_of_refuse refused).imp fun long =>
        ⟨before, entry, after, rfl, earlier, unsupported, long⟩
    · cases returned
  · cases fails
    exact .inl ⟨_, rfl⟩

/-- Parameters are refused, unless they cannot be written. -/
theorem refusesUnless_of_parametersOf
    {command : Text}
    {given : Option Data}
    {failure : Failure}
    (fails : parametersOf command given = .error failure) :
    RefusesUnless (∃ parameters, given = some parameters ∧ parameters.HasLongInteger) failure := by
  unfold parametersOf at fails
  split at fails
  · cases fails
  case _ value =>
    split at fails
    · cases fails
    · split at fails
      case _ items =>
        obtain ⟨before, item, after, rfl, _, atItem⟩ := Outcome.mapM_eq_error_iff.mp fails
        obtain ⟨rfl, long⟩ := displayOf_eq_error_iff.mp atItem
        exact .inr ⟨rfl, _, rfl, .item (by simp) long⟩
      · exact (refusesUnless_of_refuse fails).imp fun long => ⟨value, rfl, long⟩

/-- Parameters that cannot be written stop the reading, be they a list or not. -/
theorem parametersOf_of_hasLongInteger
    {parameters : Data}
    (long : parameters.HasLongInteger)
    (command : Text) :
    parametersOf command (some parameters) = .error (.unwritable .writing) := by
  have isSomething := long.isSomething
  simp only [parametersOf, isSomething, Bool.not_true, Bool.false_eq_true, if_false]
  split
  case _ items =>
    obtain ⟨item, isItem, itemLong⟩ := Data.hasLongInteger_list_iff.mp long
    refine Outcome.mapM_eq_error_of_mem ?_ isItem (displayOf_eq_error_iff.mpr ⟨rfl, itemLong⟩)
    intro other _ failure fails
    exact (displayOf_eq_error_iff.mp fails).1
  · exact refuse_of_hasLongInteger long _

/-- A command is refused, unless its parameters cannot be written. -/
theorem refusesUnless_of_commandOf
    {event : Text}
    {entry : Data}
    {failure : Failure}
    (fails : commandOf event entry = .error failure) :
    RefusesUnless (SectionCommand.StopsAtInteger entry) failure := by
  unfold commandOf at fails
  split at fails
  · cases fails
    exact .inl ⟨_, rfl⟩
  case _ name isName =>
    rcases Outcome.eq_error_or_exists_of_bind fails with refused | ⟨_, _, returned⟩
    · exact (refusesUnless_of_parametersOf refused).imp fun long => ⟨⟨name, isName⟩, long⟩
    · cases returned

/-- Parameters that cannot be written stop the reading of their command. -/
theorem commandOf_of_stopsAtInteger
    {entry : Data}
    (stops : SectionCommand.StopsAtInteger entry)
    (event : Text) :
    commandOf event entry = .error (.unwritable .writing) := by
  obtain ⟨⟨name, isName⟩, parameters, areParameters, long⟩ := stops
  simp only [commandOf, isName, areParameters, parametersOf_of_hasLongInteger long]
  rfl

/-- Commands that can be gone through are refused at the first that is not read, unless its
parameters cannot be written. -/
theorem refusesUnless_or_scalar_of_commandsOf
    {event : Text}
    {given : Option Data}
    {failure : Failure}
    (fails : commandsOf event given = .error failure) :
    RefusesUnless
        (∃ before command after,
          Settings.membersOf? (given.getD (.list [])) = some (before ++ command :: after) ∧
            (∀ other ∈ before, ∃ read, SectionCommand.ReadFrom other read) ∧
            SectionCommand.StopsAtInteger command)
        failure ∨
      ∃ commands, given = some commands ∧ commands.IsScalar := by
  unfold commandsOf at fails
  split at fails
  · cases fails
  case _ commands =>
    split at fails
    case _ members areMembers =>
      obtain ⟨before, command, after, rfl, earlierReturn, atCommand⟩ :=
        Outcome.mapM_eq_error_iff.mp fails
      refine .inl ((refusesUnless_of_commandOf atCommand).imp fun stops => ?_)
      refine ⟨before, command, after, areMembers, fun other isEarlier => ?_, stops⟩
      exact (earlierReturn other isEarlier).imp fun _ => commandOf_eq_ok_iff.mp
    case _ lacks =>
      exact .inr ⟨commands, rfl, membersOf?_eq_none_iff.mp lacks⟩

/-- Parameters that cannot be written stop the reading of the commands. -/
theorem commandsOf_of_stopsAtInteger
    {given : Option Data}
    {before after : List Data}
    {command : Data}
    (areCommands :
      Settings.membersOf? (given.getD (.list [])) = some (before ++ command :: after))
    (earlier : ∀ other ∈ before, ∃ read, SectionCommand.ReadFrom other read)
    (stops : SectionCommand.StopsAtInteger command)
    (event : Text) :
    commandsOf event given = .error (.unwritable .writing) := by
  cases given with
  | none =>
      simp [Settings.membersOf?] at areCommands
  | some value =>
      rw [Option.getD_some] at areCommands
      simp only [commandsOf, areCommands]
      refine Outcome.mapM_eq_error_iff.mpr
        ⟨before, command, after, rfl, ?_, commandOf_of_stopsAtInteger stops event⟩
      intro other isEarlier
      exact (earlier other isEarlier).imp fun _ => commandOf_eq_ok_iff.mpr

/-- A condition fails to be read only when it cannot be written. -/
theorem hasLongInteger_of_conditionOf
    {given : Option Data}
    {failure : Failure}
    (fails : conditionOf given = .error failure) :
    failure = .unwritable .writing ∧
      ∃ condition, given = some condition ∧ condition.HasLongInteger := by
  cases kept : given.filter Data.isSomething with
  | none =>
      unfold conditionOf at fails
      rw [kept] at fails
      cases fails
  | some condition =>
      rw [conditionOf_eq_map kept] at fails
      obtain ⟨rfl, long⟩ := displayOf_eq_error_iff.mp (Outcome.eq_error_of_map fails)
      exact ⟨rfl, condition, (Option.filter_eq_some_iff.mp kept).1, long⟩

/-- A condition that cannot be written is not read. -/
theorem conditionOf_of_hasLongInteger
    {condition : Data}
    (long : condition.HasLongInteger) :
    conditionOf (some condition) = .error (.unwritable .writing) := by
  have kept : (some condition).filter Data.isSomething = some condition :=
    Option.filter_eq_some_iff.mpr ⟨rfl, long.isSomething⟩
  rw [conditionOf_eq_map kept, displayOf_eq_error_iff.mpr ⟨rfl, long⟩]
  rfl

/-- An event is refused, unless something in it cannot be written or its commands cannot be
gone through. -/
theorem refusesUnless_or_lacksCommands_of_eventOf
    {entry : Data}
    {failure : Failure}
    (fails : eventOf entry = .error failure) :
    RefusesUnless (SectionEvent.StopsAtInteger entry) failure ∨
      SectionEvent.LacksCommands entry := by
  unfold eventOf at fails
  split at fails
  case _ lacksName =>
    exact .inl ((refusesUnless_of_refuse fails).imp fun long => .unnamed lacksName long)
  case _ name isName =>
    rcases Outcome.eq_error_or_exists_of_bind fails with refused | ⟨commands, areRead, goesOn⟩
    · rcases refusesUnless_or_scalar_of_commandsOf refused with refuses | scalar
      · refine .inl (refuses.imp ?_)
        rintro ⟨before, command, after, areCommands, earlier, stops⟩
        exact .command isName areCommands earlier stops
      · exact .inr ⟨⟨name, isName⟩, scalar⟩
    · rcases Outcome.eq_error_or_exists_of_bind goesOn with unread | ⟨_, _, returned⟩
      · obtain ⟨rfl, condition, isCondition, long⟩ := hasLongInteger_of_conditionOf unread
        obtain ⟨entries, areCommands, read⟩ := commandsOf_eq_ok_iff.mp areRead
        exact .inl (.inr ⟨rfl, .condition isName areCommands read isCondition long⟩)
      · cases returned

/-- Commands that cannot be gone through stop the reading of their event. -/
theorem exists_kind_of_lacksCommands
    {entry : Data}
    (lacks : SectionEvent.LacksCommands entry) :
    ∃ kind, eventOf entry = .error (.kind (.notIterable kind)) := by
  obtain ⟨⟨name, isName⟩, commands, areCommands, scalar⟩ := lacks
  refine ⟨commands.kindName, ?_⟩
  simp only [eventOf, isName, commandsOf, areCommands, membersOf?_eq_none_iff.mpr scalar]
  rfl

/-- What cannot be written stops the reading of its event. -/
theorem eventOf_of_stopsAtInteger
    {entry : Data}
    (stops : SectionEvent.StopsAtInteger entry) :
    eventOf entry = .error (.unwritable .writing) := by
  unfold eventOf
  cases stops with
  | unnamed lacksName long =>
      simp only [lacksName]
      exact refuse_of_hasLongInteger long _
  | command named areCommands earlier stops =>
      simp only [named, commandsOf_of_stopsAtInteger areCommands earlier stops]
      rfl
  | condition named areCommands read isCondition long =>
      simp only [named, commandsOf_eq_ok_iff.mpr ⟨_, areCommands, read⟩, isCondition,
        conditionOf_of_hasLongInteger long]
      rfl

/-- A document is refused, unless something in it cannot be written or the commands of an
event cannot be gone through. -/
theorem refusesUnless_or_stopsAtCommands_of_ofData
    {document : Data}
    {failure : Failure}
    (fails : ofData document = .error failure) :
    RefusesUnless (StopsAtInteger document) failure ∨ StopsAtCommands document := by
  unfold ofData at fails
  split at fails
  case _ fields =>
    rcases Outcome.eq_error_or_exists_of_bind fails with refused | ⟨declared, areRead, goesOn⟩
    · refine .inl ((refusesUnless_of_variablesOf refused).imp ?_)
      rintro ⟨before, entry, after, given, earlier, unsupported, long⟩
      exact .declared given earlier unsupported long
    · have isDeclared := variablesOf_eq_ok_iff.mp areRead
      rcases Outcome.eq_error_or_exists_of_bind goesOn with refused | ⟨_, _, returned⟩
      · unfold eventsOf at refused
        split at refused
        · cases refused
        case _ entries given =>
          obtain ⟨before, entry, after, rfl, earlierReturn, atEntry⟩ :=
            Outcome.mapM_eq_error_iff.mp refused
          have earlier : ∀ other ∈ before, ∃ event, SectionEvent.ReadFrom other event := by
            intro other isEarlier
            exact (earlierReturn other isEarlier).imp fun _ => eventOf_eq_ok_iff.mp
          rcases refusesUnless_or_lacksCommands_of_eventOf atEntry with refuses | lacks
          · exact .inl (refuses.imp fun stops => .event isDeclared given earlier stops)
          · exact .inr ⟨⟨declared, isDeclared⟩, before, entry, after, given, earlier, lacks⟩
        · cases refused
          exact .inl (.inl ⟨_, rfl⟩)
      · cases returned
  · cases fails
    exact .inl (.inl ⟨_, rfl⟩)

/-- A document whose events are read up to one ends as that one does. -/
theorem ofData_of_event_fails
    {document : Data}
    {declared : List (Text × SectionValue)}
    (isDeclared :
      (fieldOf? document "variables").getD (.record []) =
        .record (declared.map fun entry => (entry.1, entry.2.toData)))
    {before after : List Data}
    {entry : Data}
    (given : fieldOf? document "events" = some (.list (before ++ entry :: after)))
    (earlier : ∀ other ∈ before, ∃ event, SectionEvent.ReadFrom other event)
    {failure : Failure}
    (atEntry : eventOf entry = .error failure) :
    ofData document = .error failure := by
  have stopped : (before ++ entry :: after).mapM eventOf = .error failure := by
    refine Outcome.mapM_eq_error_iff.mpr ⟨before, entry, after, rfl, ?_, atEntry⟩
    intro other isEarlier
    exact (earlier other isEarlier).imp fun _ => eventOf_eq_ok_iff.mpr
  cases document with
  | record fields =>
      have areRead := variablesOf_eq_ok_iff.mpr isDeclared
      simp only [fieldOf?] at given areRead
      simp only [ofData, areRead, given, eventsOf, stopped]
      rfl
  | _ =>
      cases given

/-- Commands that cannot be gone through end the reading of a document. -/
theorem exists_kind_of_stopsAtCommands
    {document : Data}
    (stops : StopsAtCommands document) :
    ∃ kind, ofData document = .error (.kind (.notIterable kind)) := by
  obtain ⟨⟨declared, isDeclared⟩, before, entry, after, given, earlier, lacks⟩ := stops
  obtain ⟨kind, atEntry⟩ := exists_kind_of_lacksCommands lacks
  exact ⟨kind, ofData_of_event_fails isDeclared given earlier atEntry⟩

/-- What cannot be written ends the reading of a document. -/
theorem ofData_of_stopsAtInteger
    {document : Data}
    (stops : StopsAtInteger document) :
    ofData document = .error (.unwritable .writing) := by
  cases stops with
  | @declared before after entry given earlier unsupported long =>
      have atEntry : valueOf entry.1 entry.2 = .error (.unwritable .writing) := by
        rw [valueOf_of_unsupported unsupported]
        exact refuse_of_hasLongInteger long _
      have stopped :
          (before ++ entry :: after).mapM
              (fun entry => do return (entry.1, ← valueOf entry.1 entry.2)) =
            .error (.unwritable .writing) := by
        refine Outcome.mapM_eq_error_iff.mpr ⟨before, entry, after, rfl, ?_, ?_⟩
        · intro other isEarlier
          obtain ⟨value, isValue⟩ := earlier other isEarlier
          rw [valueOf_eq_ok_iff.mpr isValue]
          exact ⟨_, rfl⟩
        · rw [atEntry]
          rfl
      cases document with
      | record fields =>
          simp only [fieldOf?] at given
          simp only [ofData, given, variablesOf, stopped]
          rfl
      | _ =>
          cases given
  | event isDeclared given earlier stops =>
      exact ofData_of_event_fails isDeclared given earlier (eventOf_of_stopsAtInteger stops)

/-- A document is read as the section that it gives, or it is refused as input. -/
def LoadsOrRefuses (document : Data) : Prop :=
  (∃ script, ofData document = .ok script ∧ script.ReadFrom document) ∨
    ∃ problem, ofData document = .error (.input problem)

/-- A document that fails in another way is neither read nor refused as input. -/
theorem not_loadsOrRefuses_of_fails
    {document : Data}
    {failure : Failure}
    (fails : ofData document = .error failure)
    (noInput : ∀ problem, failure ≠ .input problem) :
    ¬LoadsOrRefuses document := by
  rintro (⟨_, returns, _⟩ | ⟨problem, refuses⟩)
  · cases fails.symm.trans returns
  · exact noInput problem (Except.error.inj (fails.symm.trans refuses))

/-- Reading a document returns the section that it gives or refuses it as input, unless all
of it is read up to an event whose commands are null or a number, or up to something that has
to be written and holds an integer past the digit limit.  In the first case, and only then, it
ends with a value that cannot be gone through, and in the second, and only then, with the
limit. -/
theorem loadsOrRefuses_iff
    (document : Data) :
    (LoadsOrRefuses document ↔ ¬StopsAtCommands document ∧ ¬StopsAtInteger document) ∧
      (StopsAtCommands document ↔
        ∃ kind, ofData document = .error (.kind (.notIterable kind))) ∧
      (StopsAtInteger document ↔ ofData document = .error (.unwritable .writing)) ∧
      ∀ script, ofData document = .ok script ↔ script.ReadFrom document := by
  refine ⟨⟨?_, ?_⟩, ⟨exists_kind_of_stopsAtCommands, ?_⟩, ⟨ofData_of_stopsAtInteger, ?_⟩,
    fun _ => ofData_eq_ok_iff⟩
  · intro loads
    constructor
    · intro stops
      obtain ⟨kind, fails⟩ := exists_kind_of_stopsAtCommands stops
      exact not_loadsOrRefuses_of_fails fails (by rintro problem ⟨⟩) loads
    · intro stops
      exact not_loadsOrRefuses_of_fails (ofData_of_stopsAtInteger stops)
        (by rintro problem ⟨⟩) loads
  · rintro ⟨goesOn, fits⟩
    cases outcome : ofData document with
    | ok script =>
        exact .inl ⟨script, outcome, ofData_eq_ok_iff.mp outcome⟩
    | error failure =>
        rcases refusesUnless_or_stopsAtCommands_of_ofData outcome with
          (⟨problem, rfl⟩ | ⟨_, stops⟩) | stops
        · exact .inr ⟨problem, outcome⟩
        · exact absurd stops fits
        · exact absurd stops goesOn
  · rintro ⟨kind, fails⟩
    rcases refusesUnless_or_stopsAtCommands_of_ofData fails with
      (⟨problem, isInput⟩ | ⟨isLimit, _⟩) | stops
    · cases isInput
    · cases isLimit
    · exact stops
  · intro fails
    rcases refusesUnless_or_stopsAtCommands_of_ofData fails with
      (⟨problem, isInput⟩ | ⟨_, stops⟩) | stops
    · cases isInput
    · exact stops
    · obtain ⟨kind, isKind⟩ := exists_kind_of_stopsAtCommands stops
      cases fails.symm.trans isKind

/-- Null in place of an event's commands is neither read nor refused as input. -/
theorem not_loadsOrRefuses_of_null_commands :
    ¬LoadsOrRefuses
      (.record [("events", .list [.record [("name", .text "A"), ("commands", .null)]])]) := by
  have fails :
      ofData (.record [("events", .list [.record [("name", .text "A"), ("commands", .null)]])]) =
        .error (.kind (.notIterable "NoneType")) := by
    rfl
  exact not_loadsOrRefuses_of_fails fails (by rintro problem ⟨⟩)

/-- A long integer in place of an event is neither read nor refused as input. -/
theorem not_loadsOrRefuses_of_long_entry
    {integer : Int}
    (long : 10 ^ digitLimit ≤ integer.natAbs) :
    ¬LoadsOrRefuses (.record [("events", .list [.number (.integer integer)])]) := by
  have stops : StopsAtInteger (.record [("events", .list [.number (.integer integer)])]) :=
    @StopsAtInteger.event _ [] [] [] _ rfl rfl (by simp) (.unnamed rfl (.integer long))
  exact not_loadsOrRefuses_of_fails (ofData_of_stopsAtInteger stops) (by rintro problem ⟨⟩)

end ScriptSection

end MissionLint
