import Mathlib.Data.List.Basic
import MissionLint.Section
import MissionLint.Proofs.EventGraph.References
import MissionLint.Proofs.Outcome
import MissionLint.Proofs.Script.Collection

namespace MissionLint

/-!
# Reading back a section

A section is written event by event: a guard when the event has a condition, an
opener, and the commands.  Read back, the events keep their names, and their guards
are found.  But a block goes on up to the next opener, so that the guard of an event
is read as the last command of the event before it.
-/

/-- A line on which nothing but its author's code is found: it does not break, and
it has neither a comment nor a guard. -/
structure IsPlainLine (line : Text) : Prop where
  oneLine : ('\n' : CodePoint) ∉ line
  uncommented : ('#' : CodePoint) ∉ line
  unguarded : ∀ trigger ∈ Trigger.inCode line, trigger.isGuard = false

/-- A condition that can stand in a guard. -/
structure IsPlainCondition (condition : Text) : Prop where
  oneLine : ('\n' : CodePoint) ∉ condition
  uncommented : ('#' : CodePoint) ∉ condition
  unended : ∀ rest, rest <:+ condition → Trigger.endsCondition rest = false

/-- An event with a name, whose condition and commands are plain and none of whose
commands declares a variable with a type. -/
structure SectionEvent.IsPlain (event : SectionEvent) : Prop where
  named : Text.isName event.name = true
  condition : ∀ condition, event.condition = some condition → IsPlainCondition condition
  commands : ∀ command ∈ event.commands, IsPlainLine command.toLine
  untyped : ∀ command ∈ event.commands, Outline.isTypedDeclaration command.toLine = false

/-- A section with plain lines and events of different names.  The value of each variable can
be written. -/
structure ScriptSection.IsPlain (script : ScriptSection) : Prop where
  declared : ∀ entry ∈ script.declared,
    ∃ written, entry.2.write = .ok written ∧
      IsPlainLine (ScriptSection.variableLine entry written)
  events : ∀ event ∈ script.events, event.IsPlain
  distinct : (script.events.map SectionEvent.name).Nodup

namespace SectionEvent

/-- The guard that leads to an event.  An empty condition is none. -/
def guard? (event : SectionEvent) : Option Trigger :=
  (event.condition.filter fun condition => !condition.isEmpty).map
    fun condition => ⟨.onWhen, condition, event.name⟩

/-- The line of the guard. -/
def guardLines (event : SectionEvent) : List Text :=
  event.guard?.toList.map fun trigger => Trigger.guardCode trigger.condition trigger.target

/-- An event is written as its guard, its opener and its commands. -/
theorem toLines_eq
    (event : SectionEvent) :
    event.toLines =
      event.guardLines ++ (event.name ++ "::") :: event.commands.map SectionCommand.toLine := by
  unfold toLines guardLines guard?
  rcases event.condition with _ | _ | ⟨first, rest⟩ <;>
    simp [Trigger.guardCode, Option.filter]

/-- The guard of an event leads to it. -/
theorem target_of_guard?
    {event : SectionEvent}
    {trigger : Trigger}
    (guarded : event.guard? = some trigger) :
    trigger.target = event.name := by
  obtain ⟨condition, _, rfl⟩ := Option.map_eq_some_iff.mp guarded
  rfl

/-- A guard line is written for the condition of the event. -/
theorem exists_of_mem_guardLines
    {event : SectionEvent}
    {line : Text}
    (member : line ∈ event.guardLines) :
    ∃ condition, event.condition = some condition ∧
      line = Trigger.guardCode condition event.name := by
  obtain ⟨trigger, guarded, rfl⟩ := List.mem_map.mp member
  obtain ⟨condition, isCondition, rfl⟩ :=
    Option.map_eq_some_iff.mp (Option.mem_toList.mp guarded)
  exact ⟨condition, (Option.filter_eq_some_iff.mp isCondition).1, rfl⟩

/-- The guard of a plain event is read as a command. -/
theorem IsPlain.isCommand_of_mem_guardLines
    {event : SectionEvent}
    (plain : event.IsPlain)
    {line : Text}
    (member : line ∈ event.guardLines) :
    Line.IsCommand line := by
  obtain ⟨condition, isCondition, rfl⟩ := exists_of_mem_guardLines member
  have plainCondition := plain.condition condition isCondition
  have shape :
      Trigger.guardCode condition event.name =
        ("when(" ++ condition ++ ")[" ++ event.name) ++ [(']' : CodePoint)] :=
    rfl
  have uncommented : ('#' : CodePoint) ∉ Trigger.guardCode condition event.name := by
    have notInName : ('#' : CodePoint) ∉ event.name :=
      Text.not_mem_of_isName plain.named (by decide)
    have notInText : ('#' : CodePoint) ∉ ("when(" : Text) ∧ ('#' : CodePoint) ∉ (")[" : Text) ∧
        ('#' : CodePoint) ∉ ("]" : Text) := by
      decide
    simp [Trigger.guardCode, plainCondition.uncommented, notInName, notInText]
  have parenthesis : ('(' : CodePoint) ∈ Trigger.guardCode condition event.name := by
    simp only [Trigger.guardCode, List.append_assoc]
    exact List.mem_append_left _ (by decide)
  refine ⟨?_, ?_, ?_, ?_⟩
  · intro number
    rw [shape] at uncommented ⊢
    exact Line.code_ofRaw_concat uncommented (by decide) number
  · exact List.ne_nil_of_mem (Text.mem_strip parenthesis (by decide))
  · exact Opener.ofCode?_eq_none parenthesis (by decide)
  · apply Outline.isTypedDeclaration_eq_false
    simp only [Trigger.guardCode, List.append_assoc]
    rfl

/-- A plain command is written as a command line. -/
theorem IsPlain.isCommand_toLine
    {event : SectionEvent}
    (plain : event.IsPlain)
    {command : SectionCommand}
    (member : command ∈ event.commands) :
    Line.IsCommand command.toLine := by
  obtain ⟨body, shape⟩ : ∃ body, command.toLine = body ++ [(';' : CodePoint)] := by
    unfold SectionCommand.toLine
    split
    · exact ⟨_, rfl⟩
    · exact ⟨_, rfl⟩
  have uncommented := (plain.commands command member).uncommented
  have untyped := plain.untyped command member
  rw [shape] at uncommented untyped ⊢
  have semicolon : (';' : CodePoint) ∈ body ++ [(';' : CodePoint)] := by
    simp
  exact
    { code_eq := Line.code_ofRaw_concat uncommented (by decide)
      notBlank := List.ne_nil_of_mem (Text.mem_strip semicolon (by decide))
      notOpener := Opener.ofCode?_eq_none semicolon (by decide)
      untyped := untyped }

/-- The commands that are read for each event: its own and the next guard. -/
def readBack : List SectionEvent → List (SectionEvent × List Text)
  | [] => []
  | event :: rest =>
      (event, event.commands.map SectionCommand.toLine ++ rest.head?.toList.flatMap guardLines) ::
        readBack rest

/-- What is read back is an event of the section. -/
theorem mem_of_mem_readBack
    {events : List SectionEvent}
    {read : SectionEvent × List Text}
    (member : read ∈ readBack events) :
    read.1 ∈ events := by
  induction events with
  | nil =>
      cases member
  | cons event rest inductionHypothesis =>
      rcases List.mem_cons.mp member with rfl | inRest
      · exact List.mem_cons_self
      · exact List.mem_cons_of_mem event (inductionHypothesis inRest)

/-- An edge that a command of an event writes. -/
def Writes (event : SectionEvent) (edge : Edge) : Prop :=
  edge.source = event.name ∧
    ∃ command ∈ event.commands,
      (edge.target, edge.kind) ∈ EventGraph.references command.toLine

end SectionEvent

namespace Outline

/-- After an opener a block takes the commands of its event.  The lines that follow
are those of the other events. -/
theorem blocksFrom_opener_commands
    {event : SectionEvent}
    (plain : event.IsPlain)
    (current : Option Event)
    (first : Nat)
    (others : List Text) :
    ∃ block following,
      blocksFrom current
          (Line.numberFrom first
            ((event.name ++ "::") :: event.commands.map SectionCommand.toLine ++ others)) =
        current.toList ++ blocksFrom (some block) (Line.numberFrom following others) ∧
      block.contents = (event.name, event.commands.map SectionCommand.toLine) := by
  have commands : ∀ raw ∈ event.commands.map SectionCommand.toLine, Line.IsCommand raw := by
    intro raw member
    obtain ⟨command, isCommand, rfl⟩ := List.mem_map.mp member
    exact plain.isCommand_toLine isCommand
  rw [List.cons_append, Line.numberFrom, blocksFrom_opener plain.named, Line.numberFrom_append,
    blocksFrom_some_append commands]
  refine ⟨_, _, rfl, ?_⟩
  simp [Event.contents, Line.map_code_numberFrom commands]

/-- An open block takes the guard of the next event, and the blocks of the events
follow. -/
theorem contents_blocksFrom_some
    {events : List SectionEvent}
    (plain : ∀ event ∈ events, event.IsPlain)
    (block : Event)
    (first : Nat) :
    (blocksFrom (some block)
        (Line.numberFrom first (events.flatMap SectionEvent.toLines))).map Event.contents =
      (block.name,
          block.commands.map Line.code ++ events.head?.toList.flatMap SectionEvent.guardLines) ::
        (SectionEvent.readBack events).map fun read => (read.1.name, read.2) := by
  induction events generalizing block first with
  | nil =>
      simp [Line.numberFrom, blocksFrom, SectionEvent.readBack, Event.contents]
  | cons event rest inductionHypothesis =>
      have eventPlain := plain event List.mem_cons_self
      have restPlain : ∀ later ∈ rest, later.IsPlain := fun later member =>
        plain later (List.mem_cons_of_mem event member)
      have guards : ∀ raw ∈ event.guardLines, Line.IsCommand raw := fun raw member =>
        eventPlain.isCommand_of_mem_guardLines member
      rw [List.flatMap_cons, SectionEvent.toLines_eq, List.append_assoc, Line.numberFrom_append,
        blocksFrom_some_append guards]
      obtain ⟨opened, following, collects, contents⟩ :=
        blocksFrom_opener_commands eventPlain
          (some { block with commands := block.commands ++ Line.numberFrom first event.guardLines })
          (first + event.guardLines.length) (rest.flatMap SectionEvent.toLines)
      rw [collects, List.map_append, inductionHypothesis restPlain]
      simp only [Event.contents, Prod.mk.injEq] at contents
      simp [Event.contents, contents.1, contents.2, Line.map_code_numberFrom guards,
        SectionEvent.readBack]

/-- Before the first opener a guard is passed over. -/
theorem contents_blocksFrom_none
    {events : List SectionEvent}
    (plain : ∀ event ∈ events, event.IsPlain)
    (first : Nat) :
    (blocksFrom none
        (Line.numberFrom first (events.flatMap SectionEvent.toLines))).map Event.contents =
      (SectionEvent.readBack events).map fun read => (read.1.name, read.2) := by
  cases events with
  | nil =>
      rfl
  | cons event rest =>
      have eventPlain := plain event List.mem_cons_self
      have restPlain : ∀ later ∈ rest, later.IsPlain := fun later member =>
        plain later (List.mem_cons_of_mem event member)
      have noOpener :
          ∀ raw ∈ event.guardLines, ∀ number,
            Opener.ofCode? (Line.ofRaw number raw).code = none := by
        intro raw member number
        have command := eventPlain.isCommand_of_mem_guardLines member
        rw [command.code_eq, command.notOpener]
      rw [List.flatMap_cons, SectionEvent.toLines_eq, List.append_assoc, Line.numberFrom_append,
        blocksFrom_none_append noOpener]
      obtain ⟨opened, following, collects, contents⟩ :=
        blocksFrom_opener_commands eventPlain none (first + event.guardLines.length)
          (rest.flatMap SectionEvent.toLines)
      rw [collects, Option.toList_none, List.nil_append, contents_blocksFrom_some restPlain]
      simp only [Event.contents, Prod.mk.injEq] at contents
      simp [contents.1, contents.2, SectionEvent.readBack]

end Outline

/-- The guards in a line as it is read. -/
def guardsIn (raw : Text) : List Trigger :=
  (Trigger.inCode (Line.ofRaw 0 raw).code).filter Trigger.isGuard

/-- The guards of lines do not depend on their numbers. -/
theorem Outline.guards_numberFrom
    (first : Nat)
    (raws : List Text) :
    guards (Line.numberFrom first raws) = raws.flatMap guardsIn := by
  induction raws generalizing first with
  | nil =>
      rfl
  | cons raw rest inductionHypothesis =>
      have others := inductionHypothesis (first + 1)
      rw [List.flatMap_cons, ← others]
      rfl

/-- A plain line has no guard. -/
theorem IsPlainLine.guardsIn_eq_nil
    {line : Text}
    (plain : IsPlainLine line) :
    guardsIn line = [] := by
  obtain ⟨tail, shape, isReturn⟩ := Text.exists_eq_trimEndWhile_append (· == '\r') line
  have returns : ∀ c ∈ tail, c = '\r' := fun c member => beq_iff_eq.mp (isReturn c member)
  have same : Trigger.inCode (Line.ofRaw 0 line).code = Trigger.inCode line := by
    rw [Line.code_ofRaw plain.uncommented, ← Trigger.inCode_append_returns returns, ← shape]
  rw [guardsIn, same, List.filter_eq_nil_iff]
  intro trigger member
  simp [plain.unguarded trigger member]

/-- The lines of an event have its guard and no other. -/
theorem SectionEvent.IsPlain.flatMap_guardsIn_toLines
    {event : SectionEvent}
    (plain : event.IsPlain) :
    event.toLines.flatMap guardsIn = event.guard?.toList := by
  have inGuards : event.guardLines.flatMap guardsIn = event.guard?.toList := by
    cases guarded : event.guard? with
    | none =>
        simp [guardLines, guarded]
    | some trigger =>
        obtain ⟨condition, isCondition, rfl⟩ := Option.map_eq_some_iff.mp guarded
        have plainCondition :=
          plain.condition condition (Option.filter_eq_some_iff.mp isCondition).1
        have isCommand : Line.IsCommand (Trigger.guardCode condition event.name) :=
          plain.isCommand_of_mem_guardLines (by simp [guardLines, guarded])
        have reads :=
          Trigger.inCode_guardCode plainCondition.oneLine plainCondition.unended plain.named
        simp [guardLines, guarded, guardsIn, isCommand.code_eq, reads, Trigger.isGuard]
  have inOpener : guardsIn (event.name ++ "::") = [] := by
    have absent : ('(' : CodePoint) ∉ event.name ++ ("::" : Text) := by
      rw [List.mem_append, not_or]
      exact ⟨Text.not_mem_of_isName plain.named (by decide), by decide⟩
    rw [guardsIn, Line.code_ofRaw_opener plain.named, Trigger.inCode_eq_nil absent]
    rfl
  have inCommands :
      (event.commands.map SectionCommand.toLine).flatMap guardsIn = [] := by
    rw [List.flatMap_eq_nil_iff]
    intro line member
    obtain ⟨command, isCommand, rfl⟩ := List.mem_map.mp member
    exact (plain.commands command isCommand).guardsIn_eq_nil
  rw [toLines_eq, List.flatMap_append, List.flatMap_cons, inGuards, inOpener, inCommands]
  simp

/-- The guard of an event is the first one that leads to its name. -/
theorem SectionEvent.find?_filterMap_guard?
    {events : List SectionEvent}
    (distinct : (events.map SectionEvent.name).Nodup)
    {event : SectionEvent}
    (member : event ∈ events) :
    (events.filterMap guard?).find? (fun trigger => trigger.target == event.name) =
      event.guard? := by
  induction events with
  | nil =>
      cases member
  | cons head rest inductionHypothesis =>
      obtain ⟨fresh, restDistinct⟩ := List.nodup_cons.mp distinct
      have apart : ∀ later ∈ rest, later.name ≠ head.name := fun later inRest same =>
        fresh (List.mem_map.mpr ⟨later, inRest, same⟩)
      rcases List.mem_cons.mp member with rfl | inRest
      · have notInRest :
            (rest.filterMap guard?).find? (fun trigger => trigger.target == event.name) = none := by
          rw [List.find?_eq_none]
          intro trigger isGuard
          obtain ⟨later, inRest, guarded⟩ := List.mem_filterMap.mp isGuard
          simp [target_of_guard? guarded, apart later inRest]
        cases guarded : event.guard? with
        | none =>
            rw [List.filterMap_cons_none guarded, notInRest]
        | some trigger =>
            rw [List.filterMap_cons_some guarded, List.find?_cons_of_pos]
            simp [target_of_guard? guarded]
      · have found := inductionHypothesis restDistinct inRest
        cases guarded : head.guard? with
        | none =>
            rw [List.filterMap_cons_none guarded, found]
        | some trigger =>
            rw [List.filterMap_cons_some guarded, List.find?_cons_of_neg, found]
            simp [target_of_guard? guarded, (apart event inRest).symm]

namespace ScriptSection

/-- A line declares a variable with its written value. -/
def Declares (entry : Text × SectionValue) (line : Text) : Prop :=
  ∃ written, entry.2.write = .ok written ∧ line = variableLine entry written

/-- The line of a variable that can be written declares it. -/
theorem declares_iff
    {entry : Text × SectionValue}
    {line : Text} :
    (do return variableLine entry (← entry.2.write) : Except DigitLimit Text) = .ok line ↔
      Declares entry line := by
  rw [Outcome.bind_eq_ok_iff]
  simp only [pure, Except.pure, Except.ok.injEq, Declares, eq_comm]

/-- The lines of variables declare them, one each. -/
theorem variableLines_eq_ok_iff
    {declared : List (Text × SectionValue)}
    {lines : List Text} :
    variableLines declared = .ok lines ↔ List.Forall₂ Declares declared lines := by
  rw [variableLines, Outcome.mapM_eq_ok_iff_forall₂]
  simp only [declares_iff]

/-- Each of the lines declares one of the variables. -/
theorem exists_of_mem_variableLines
    {declared : List (Text × SectionValue)}
    {lines : List Text}
    (areLines : variableLines declared = .ok lines)
    {line : Text}
    (member : line ∈ lines) :
    ∃ entry ∈ declared, Declares entry line := by
  obtain ⟨entry, isEntry, declares⟩ := (Outcome.mem_mapM_iff areLines).mp member
  exact ⟨entry, isEntry, declares_iff.mp declares⟩

/-- A section has the text of its lines, when its variables have lines. -/
theorem toScript_eq_ok_iff
    {script : ScriptSection}
    {text : Text} :
    script.toScript = .ok text ↔
      ∃ lines, variableLines script.declared = .ok lines ∧
        text = Text.join "\n" (lines ++ script.events.flatMap SectionEvent.toLines) := by
  unfold toScript toLines
  cases variableLines script.declared <;>
    simp [bind, Except.bind, pure, Except.pure, eq_comm]

/-- A section has a text when the values of its variables can be written. -/
theorem exists_toScript
    {script : ScriptSection}
    (writable : ∀ entry ∈ script.declared, ∃ written, entry.2.write = .ok written) :
    ∃ text, script.toScript = .ok text := by
  have areLines : (variableLines script.declared).isOk = true := by
    rw [variableLines, Outcome.isOk_mapM, List.all_eq_true]
    intro entry isEntry
    rw [Outcome.isOk_bind_pure]
    exact Outcome.isOk_eq_true_iff.mpr (writable entry isEntry)
  obtain ⟨lines, areLines⟩ := Outcome.isOk_eq_true_iff.mp areLines
  exact ⟨_, toScript_eq_ok_iff.mpr ⟨lines, areLines, rfl⟩⟩

section Plain

variable {script : ScriptSection} {lines : List Text}

/-- A plain section has a text. -/
theorem IsPlain.exists_toScript
    (plain : script.IsPlain) :
    ∃ text, script.toScript = .ok text :=
  ScriptSection.exists_toScript fun entry isEntry =>
    (plain.declared entry isEntry).imp fun _ written => written.1

/-- The lines that declare the variables of a plain section are plain. -/
theorem IsPlain.isPlainLine_of_mem
    (plain : script.IsPlain)
    (areLines : variableLines script.declared = .ok lines)
    {line : Text}
    (member : line ∈ lines) :
    IsPlainLine line := by
  obtain ⟨entry, isEntry, written, isWritten, rfl⟩ := exists_of_mem_variableLines areLines member
  obtain ⟨other, isOther, plainLine⟩ := plain.declared entry isEntry
  rw [isWritten] at isOther
  cases isOther
  exact plainLine

/-- No line of a plain section breaks. -/
theorem IsPlain.oneLine_of_mem_lines
    (plain : script.IsPlain)
    (areLines : variableLines script.declared = .ok lines)
    {line : Text}
    (member : line ∈ lines ++ script.events.flatMap SectionEvent.toLines) :
    ('\n' : CodePoint) ∉ line := by
  rcases List.mem_append.mp member with isDeclared | inEvents
  · exact (plain.isPlainLine_of_mem areLines isDeclared).oneLine
  · obtain ⟨event, inScript, inEvent⟩ := List.mem_flatMap.mp inEvents
    have eventPlain := plain.events event inScript
    have notInName : ('\n' : CodePoint) ∉ event.name :=
      Text.not_mem_of_isName eventPlain.named (by decide)
    rw [SectionEvent.toLines_eq] at inEvent
    rcases List.mem_append.mp inEvent with isGuard | isOther
    · obtain ⟨condition, isCondition, rfl⟩ := SectionEvent.exists_of_mem_guardLines isGuard
      have notInText :
          ('\n' : CodePoint) ∉ ("when(" : Text) ∧ ('\n' : CodePoint) ∉ (")[" : Text) ∧
            ('\n' : CodePoint) ∉ ("]" : Text) := by
        decide
      simp [Trigger.guardCode, (eventPlain.condition condition isCondition).oneLine, notInName,
        notInText]
    · rcases List.mem_cons.mp isOther with rfl | isCommand
      · rw [List.mem_append, not_or]
        exact ⟨notInName, by decide⟩
      · obtain ⟨command, inCommands, rfl⟩ := List.mem_map.mp isCommand
        exact (eventPlain.commands command inCommands).oneLine

/-- The lines of a written section are the lines that were written. -/
theorem IsPlain.ofScript_join
    (plain : script.IsPlain)
    (areLines : variableLines script.declared = .ok lines)
    (nonempty : lines ++ script.events.flatMap SectionEvent.toLines ≠ []) :
    Line.ofScript (Text.join "\n" (lines ++ script.events.flatMap SectionEvent.toLines)) =
      Line.numberFrom 1 (lines ++ script.events.flatMap SectionEvent.toLines) := by
  have split :
      (Text.join "\n" (lines ++ script.events.flatMap SectionEvent.toLines)).splitOn
          ('\n' : CodePoint) =
        lines ++ script.events.flatMap SectionEvent.toLines :=
    List.splitOn_intercalate _ (fun _ => plain.oneLine_of_mem_lines areLines) nonempty
  rw [Line.ofScript, split]

/-- A section without lines has no events. -/
theorem events_eq_nil_of_no_lines
    (noLines : lines ++ script.events.flatMap SectionEvent.toLines = []) :
    script.events = [] := by
  have noEventLines := (List.append_eq_nil_iff.mp noLines).2
  rw [List.eq_nil_iff_forall_not_mem]
  intro event member
  have eventLines := List.flatMap_eq_nil_iff.mp noEventLines event member
  simp [SectionEvent.toLines_eq] at eventLines

end Plain

/-- The code of a variable's line has an equals sign. -/
theorem equals_mem_code
    {entry : Text × SectionValue}
    {written : Text}
    (uncommented : ('#' : CodePoint) ∉ variableLine entry written)
    (number : Nat) :
    ('=' : CodePoint) ∈ (Line.ofRaw number (variableLine entry written)).code := by
  have equals : ('=' : CodePoint) ∈ variableLine entry written := by
    simp only [variableLine, List.append_assoc]
    refine List.mem_append_right _ (List.mem_append_right _ (List.mem_append_right _ ?_))
    exact List.mem_append_left _ (by decide)
  rw [Line.code_ofRaw uncommented]
  exact Text.mem_trimEndWhile equals (by decide)

/-- The code of a variable's line is no opener. -/
theorem variableLine_not_opener
    {entry : Text × SectionValue}
    {written : Text}
    (uncommented : ('#' : CodePoint) ∉ variableLine entry written)
    (number : Nat) :
    Opener.ofCode? (Line.ofRaw number (variableLine entry written)).code = none :=
  Opener.ofCode?_eq_none (equals_mem_code uncommented number) (by decide)

section Written

variable {script : ScriptSection} {text : Text}

/-- The blocks of a written section are those that are read back. -/
theorem IsPlain.contents_blocks
    (plain : script.IsPlain)
    (isText : script.toScript = .ok text) :
    (Outline.blocksFrom none (Line.ofScript text)).map Event.contents =
      (SectionEvent.readBack script.events).map fun read => (read.1.name, read.2) := by
  obtain ⟨lines, areLines, rfl⟩ := toScript_eq_ok_iff.mp isText
  by_cases noLines : lines ++ script.events.flatMap SectionEvent.toLines = []
  · rw [noLines, events_eq_nil_of_no_lines noLines]
    rfl
  · have noOpener :
        ∀ raw ∈ lines, ∀ number, Opener.ofCode? (Line.ofRaw number raw).code = none := by
      intro raw member number
      have plainLine := plain.isPlainLine_of_mem areLines member
      obtain ⟨entry, _, written, _, rfl⟩ := exists_of_mem_variableLines areLines member
      exact variableLine_not_opener plainLine.uncommented number
    rw [plain.ofScript_join areLines noLines, Line.numberFrom_append,
      Outline.blocksFrom_none_append noOpener, Outline.contents_blocksFrom_none plain.events]

/-- The guards of a written section are those of its events. -/
theorem IsPlain.guards_eq
    (plain : script.IsPlain)
    (isText : script.toScript = .ok text) :
    Outline.guards (Line.ofScript text) = script.events.filterMap SectionEvent.guard? := by
  obtain ⟨lines, areLines, rfl⟩ := toScript_eq_ok_iff.mp isText
  by_cases noLines : lines ++ script.events.flatMap SectionEvent.toLines = []
  · have blank : guardsIn [] = [] := by
      have nothing : Trigger.inCode (Line.ofRaw 0 []).code = [] :=
        Trigger.inCode_eq_nil List.not_mem_nil
      rw [guardsIn, nothing]
      rfl
    rw [noLines, events_eq_nil_of_no_lines noLines]
    exact (Outline.guards_numberFrom 1 [[]]).trans (by simp [blank])
  · have inDeclared : lines.flatMap guardsIn = [] := by
      rw [List.flatMap_eq_nil_iff]
      intro line member
      exact (plain.isPlainLine_of_mem areLines member).guardsIn_eq_nil
    have inEvents :
        (script.events.flatMap SectionEvent.toLines).flatMap guardsIn =
          script.events.filterMap SectionEvent.guard? := by
      rw [List.flatMap_assoc, List.filterMap_eq_flatMap_toList]
      exact List.flatMap_congr fun event member =>
        (plain.events event member).flatMap_guardsIn_toLines
    rw [plain.ofScript_join areLines noLines, Outline.guards_numberFrom, List.flatMap_append,
      inDeclared, inEvents, List.nil_append]

/-- What is read back of a section: the names of its events, their conditions, and
for each its own commands with the guard of the next. -/
theorem IsPlain.events_ofScript
    (plain : script.IsPlain)
    (isText : script.toScript = .ok text) :
    (Outline.ofScript text).events.map
        (fun block => (block.name, block.guard, block.commands.map Line.code)) =
      (SectionEvent.readBack script.events).map fun read =>
        (read.1.name, read.1.guard?.map fun trigger => Text.strip trigger.condition, read.2) := by
  have named :
      (Outline.ofScript text).events.map
          (fun block => (block.name, block.guard, block.commands.map Line.code)) =
        ((Outline.blocksFrom none (Line.ofScript text)).map Event.contents).map
          fun contents =>
            (contents.1, Outline.guardOf? (script.events.filterMap SectionEvent.guard?) contents.1,
              contents.2) := by
    rw [← plain.guards_eq isText]
    simp [Outline.ofScript, Outline.ofLines, Event.contents]
  rw [named, plain.contents_blocks isText, List.map_map]
  apply List.map_congr_left
  intro read member
  have found :=
    SectionEvent.find?_filterMap_guard? plain.distinct (SectionEvent.mem_of_mem_readBack member)
  simp only [Function.comp_apply, Outline.guardOf?, found]

end Written

end ScriptSection

end MissionLint
