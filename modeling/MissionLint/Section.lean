import MissionLint.Data
import MissionLint.Script.Shape

namespace MissionLint

/-!
# Script sections

Level editors keep a script as a section: variables with values, and events with
conditions and commands.  A section is written as script text, which the analyses
read.
-/

/-- The value of a section's variable. -/
inductive SectionValue where
  | text (value : Text)
  | number (value : Number)

namespace SectionValue

/-- The type that fits a value. -/
def type : SectionValue → VariableType
  | .number (.flag _) => .bool
  | .number (.integer _) => .int
  | .number (.real _) => .float
  | .text _ => .string

/-- A value as script text.  An integer has one within the digit limit only. -/
def write : SectionValue → Except DigitLimit Text
  | .number (.flag true) => .ok "true"
  | .number (.flag false) => .ok "false"
  | .number value => Data.numberText value
  | .text value => .ok value

/-- A value as a document. -/
def toData : SectionValue → Data
  | .text value => .text value
  | .number value => .number value

end SectionValue

/-- A command with its parameters. -/
structure SectionCommand where
  command : Text
  parameters : List Text
  deriving Repr, DecidableEq

namespace SectionCommand

/-- The line of a command. -/
def toLine (command : SectionCommand) : Text :=
  if command.parameters.isEmpty then
    command.command ++ ";"
  else
    command.command ++ ":" ++ Text.join "," command.parameters ++ ";"

end SectionCommand

/-- An event of a section with the condition that leads to it. -/
structure SectionEvent where
  name : Text
  condition : Option Text
  commands : List SectionCommand
  deriving Repr, DecidableEq

namespace SectionEvent

/-- The lines of an event: its guard, its opener and its commands. -/
def toLines (event : SectionEvent) : List Text :=
  let guard : List Text :=
    match event.condition with
    | none => []
    | some [] => []
    | some condition => ["when(" ++ condition ++ ")[" ++ event.name ++ "]"]
  guard ++ [event.name ++ "::"] ++ event.commands.map SectionCommand.toLine

end SectionEvent

/-- A section: variables by key, where a key is a name or a type and a name, and
events in order. -/
structure ScriptSection where
  declared : List (Text × SectionValue)
  events : List SectionEvent

namespace ScriptSection

/-- The type and the name of a variable: those of its key, or the type that fits
its value and the key itself. -/
def splitKey (key : Text) (value : SectionValue) : VariableType × Text :=
  match Text.words key with
  | [word, name] =>
      match VariableType.ofWord? word with
      | some type => (type, name)
      | none => (value.type, Text.strip key)
  | _ => (value.type, Text.strip key)

/-- The line that declares a variable with a written value. -/
def variableLine (entry : Text × SectionValue) (written : Text) : Text :=
  let (type, name) := splitKey entry.1 entry.2
  type.name ++ " " ++ name ++ "=" ++ written

/-- The lines that declare variables, one for each. -/
def variableLines (declared : List (Text × SectionValue)) : Except DigitLimit (List Text) :=
  declared.mapM fun entry => do return variableLine entry (← entry.2.write)

/-- The lines of a section: those of its variables, and those of its events. -/
def toLines (script : ScriptSection) : Except DigitLimit (List Text) := do
  return (← variableLines script.declared) ++ script.events.flatMap SectionEvent.toLines

/-- The text of a section.  There is none when the value of a variable cannot be
written. -/
def toScript (script : ScriptSection) : Except DigitLimit Text := do
  return Text.join "\n" (← script.toLines)

end ScriptSection

end MissionLint
