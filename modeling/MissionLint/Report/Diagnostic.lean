import MissionLint.Data.Printer

namespace MissionLint

/-!
# Diagnostics

A diagnostic is one finding: what was found, how severe it is, where it stands
and which checker reports it.
-/

/-- How severe a finding is. -/
inductive Severity where
  | error
  | warning
  deriving Repr, DecidableEq

namespace Severity

/-- The name of a severity. -/
def name : Severity → Text
  | .error => "error"
  | .warning => "warning"

/-- The severity with a name. -/
def ofName? (name : Text) : Option Severity :=
  [Severity.error, .warning].find? fun severity => severity.name == name

end Severity

/-- A place in a script.  Line zero is the whole script. -/
structure Location where
  file : Text := "<script>"
  line : Int := 0
  column : Int := 0
  deriving Repr, DecidableEq

namespace Location

/-- A place as text; column zero is left out. -/
def describe (location : Location) : Text :=
  let place := location.file ++ ":" ++ Text.ofInt location.line
  if location.column == 0 then
    place
  else
    place ++ ":" ++ Text.ofInt location.column

end Location

/-- A finding of a checker.  The evidence holds details for other tools. -/
structure Diagnostic where
  id : Text
  message : Text
  severity : Severity
  location : Location
  checker : Text := ""
  part : Text := "script"
  evidence : List (Text × Data) := []

namespace Diagnostic

/-- The fields of a diagnostic's record. -/
def fields (diagnostic : Diagnostic) : List (Text × Data) := [
  ("message", .text diagnostic.message),
  ("line", .number (.integer diagnostic.location.line)),
  ("column", .number (.integer diagnostic.location.column)),
  ("severity", .text diagnostic.severity.name),
  ("section", .text diagnostic.part)
]

/-- The record of a diagnostic. -/
def toRecord (diagnostic : Diagnostic) : Data :=
  .record diagnostic.fields

/-- The record of a diagnostic with its id. -/
def toRecordWithId (diagnostic : Diagnostic) : Data :=
  let idField : Text × Data := ("errorId", .text diagnostic.id)
  .record (diagnostic.fields ++ [idField])

/-- The record of a diagnostic with its id, on one line. -/
def toDocumentLine (diagnostic : Diagnostic) : Text :=
  diagnostic.toRecordWithId.encode

/-- A diagnostic as compilers show theirs. -/
def toLine (diagnostic : Diagnostic) : Text :=
  diagnostic.location.describe ++ ": " ++ diagnostic.severity.name ++ ": " ++ diagnostic.message
    ++ " [" ++ diagnostic.id ++ "]"

end Diagnostic

end MissionLint
