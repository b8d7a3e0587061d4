import MissionLint.Section
import MissionLint.Settings.Reader

namespace MissionLint

/-!
# Reading script sections

A section is read from a record with the fields `variables` and `events`, both of
which may be missing.  A refusal that shows a value has to write it, and reading fails
when it cannot be written.
-/

namespace ScriptSection

/-- A value as text. -/
def displayOf (value : Data) : Except Failure Text :=
  value.display.mapError .unwritable

/-- Refuse a value that is shown. -/
def refuse (value : Data) (problem : Text → InputProblem) : Except Failure Value :=
  match value.literal with
  | .ok shown => .error (.input (problem shown))
  | .error limit => .error (.unwritable limit)

/-- The value of a variable, which is a text or a number. -/
def valueOf (key : Text) : Data → Except Failure SectionValue
  | .text value => .ok (.text value)
  | .number value => .ok (.number value)
  | value => refuse value (.variableValue key)

/-- The variables of a section, which may be left out. -/
def variablesOf : Option Data → Except Failure (List (Text × SectionValue))
  | none => .ok []
  | some (.record fields) =>
      fields.mapM fun entry => do return (entry.1, ← valueOf entry.1 entry.2)
  | some _ => .error (.input .variablesNotARecord)

/-- Read the parameters of a command.  A value that is nothing gives none. -/
def parametersOf (command : Text) (value : Option Data) : Except Failure (List Text) :=
  match value with
  | none => .ok []
  | some given =>
      if !given.isSomething then
        .ok []
      else
        match given with
        | .list items => items.mapM displayOf
        | _ => refuse given (.parametersNotAList command)

/-- The text in a field of a record. -/
def textField? (value : Data) (name : Text) : Option Text :=
  match value with
  | .record fields => (Data.field? fields name).bind Settings.text?
  | _ => none

/-- The field of a record. -/
def fieldOf? (value : Data) (name : Text) : Option Data :=
  match value with
  | .record fields => Data.field? fields name
  | _ => none

/-- A command of an event. -/
def commandOf (event : Text) (value : Data) : Except Failure SectionCommand :=
  match textField? value "command" with
  | none => .error (.input (.commandWithoutName event))
  | some command => do
      return ⟨command, ← parametersOf command (fieldOf? value "parameters")⟩

/-- The commands of an event, which may be left out. -/
def commandsOf (event : Text) : Option Data → Except Failure (List SectionCommand)
  | none => .ok []
  | some value =>
      match Settings.membersOf? value with
      | some members => members.mapM (commandOf event)
      | none => .error (.kind (.notIterable value.kindName))

/-- Read the condition of an event.  A value that is nothing is no condition. -/
def conditionOf (value : Option Data) : Except Failure (Option Text) :=
  (value.filter Data.isSomething).mapM displayOf

/-- An event of a section. -/
def eventOf (value : Data) : Except Failure SectionEvent :=
  match textField? value "name" with
  | none => refuse value .eventWithoutName
  | some name => do
      let commands ← commandsOf name (fieldOf? value "commands")
      let condition ← conditionOf (fieldOf? value "condition")
      return ⟨name, condition, commands⟩

/-- The events of a section, which may be left out. -/
def eventsOf : Option Data → Except Failure (List SectionEvent)
  | none => .ok []
  | some (.list items) => items.mapM eventOf
  | some _ => .error (.input .eventsNotAList)

/-- Read a section from a document. -/
def ofData : Data → Except Failure ScriptSection
  | .record fields => do
      let declared ← variablesOf (Data.field? fields "variables")
      let events ← eventsOf (Data.field? fields "events")
      return ⟨declared, events⟩
  | _ => .error (.input .notARecord)

end ScriptSection

end MissionLint
