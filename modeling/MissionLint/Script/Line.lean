import MissionLint.Text

namespace MissionLint

/-!
# Script lines

A line is split into its code and its comment.  A comment starts at the first
hash that is not inside a quoted text, and a quotation mark starts or ends a
quoted text.
-/

/-- One line of a script.  Lines are numbered from one. -/
structure Line where
  number : Nat
  text : Text
  code : Text
  comment : Option Text
  deriving Repr, DecidableEq

namespace Line

/-- Split a text of which a first part has been looked at: `quoted` tells whether
a quoted text is open. -/
def splitCommentFrom (quoted : Bool) : Text → Text × Option Text
  | [] => ([], none)
  | c :: rest =>
      if c == '#' && !quoted then
        ([], some (Text.strip rest))
      else
        let (code, comment) := splitCommentFrom (if c == '"' then !quoted else quoted) rest
        (c :: code, comment)

/-- Split a line into its code and its stripped comment. -/
def splitComment (text : Text) : Text × Option Text :=
  splitCommentFrom false text

/-- A numbered line.  Carriage returns at its end do not belong to it. -/
def ofRaw (number : Nat) (raw : Text) : Line :=
  let text := Text.trimEndWhile (· == '\r') raw
  let (code, comment) := splitComment text
  ⟨number, text, code, comment⟩

/-- Raw lines, numbered from a first number on. -/
def numberFrom : Nat → List Text → List Line
  | _, [] => []
  | first, raw :: rest => ofRaw first raw :: numberFrom (first + 1) rest

/-- The lines of a script. -/
def ofScript (script : Text) : List Line :=
  numberFrom 1 (script.splitOn '\n')

/-- Whether a line has no code. -/
def isBlank (line : Line) : Bool :=
  (Text.strip line.code).isEmpty

end Line

end MissionLint
