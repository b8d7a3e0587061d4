import MissionLint.Data

namespace MissionLint

/-!
# Writing data documents

Documents are written in ASCII: other code points are escaped by their UTF-16
units.  A document stands on one line, or its parts stand on lines of their own,
indented by two spaces a level.
-/

namespace Data

/-- An escaped UTF-16 unit. -/
def escapedUnit (unit : Nat) : Text :=
  "\\u" ++ Text.hexDigits 4 unit

/-- A character as it stands in a printed text. -/
def escapedCharacter (c : CodePoint) : Text :=
  if c == '"' then
    "\\\""
  else if c == '\\' then
    "\\\\"
  else if c == '\n' then
    "\\n"
  else if c == '\r' then
    "\\r"
  else if c == '\t' then
    "\\t"
  else if c.toNat == 0x08 then
    "\\b"
  else if c.toNat == 0x0c then
    "\\f"
  else if 0x20 ≤ c.toNat && c.toNat < 0x7f then
    [c]
  else
    c.units.flatMap escapedUnit

/-- A text between quotation marks. -/
def escaped (text : Text) : Text :=
  "\"" ++ text.flatMap escapedCharacter ++ "\""

/-- A number in a document. -/
def encodedNumber : Number → Text
  | .flag true => "true"
  | .flag false => "false"
  | .integer value => Text.ofInt value
  | .real value =>
      match Numeral.Exact.ofReal value with
      | .undefined => "NaN"
      | .infinite false => "Infinity"
      | .infinite true => "-Infinity"
      | .finite _ _ => Numeral.writeReal value

mutual

/-- A document on one line. -/
def encode : Data → Text
  | .null => "null"
  | .number value => encodedNumber value
  | .text value => escaped value
  | .list items => "[" ++ Text.join ", " (encodeItems items) ++ "]"
  | .record fields => "\x7b" ++ Text.join ", " (encodeFields fields) ++ "\x7d"

/-- The items of a list, each on one line. -/
def encodeItems : List Data → List Text
  | [] => []
  | item :: rest => encode item :: encodeItems rest

/-- The fields of a record, each on one line. -/
def encodeFields : List (Text × Data) → List Text
  | [] => []
  | (name, value) :: rest => (escaped name ++ ": " ++ encode value) :: encodeFields rest

end

/-- A new line at a level. -/
def lineBreak (level : Nat) : Text :=
  '\n' :: Text.repeated (2 * level) ' '

/-- Parts on lines of their own between brackets; nothing between empty ones. -/
def layOut (level : Nat) (opening closing : Text) (parts : List Text) : Text :=
  if parts.isEmpty then
    opening ++ closing
  else
    opening ++ lineBreak (level + 1) ++ Text.join ("," ++ lineBreak (level + 1)) parts
      ++ lineBreak level ++ closing

mutual

/-- A document over several lines. -/
def indented (level : Nat) : Data → Text
  | .null => "null"
  | .number value => encodedNumber value
  | .text value => escaped value
  | .list items => layOut level "[" "]" (indentedItems (level + 1) items)
  | .record fields => layOut level "\x7b" "\x7d" (indentedFields (level + 1) fields)

/-- The items of a list over several lines. -/
def indentedItems (level : Nat) : List Data → List Text
  | [] => []
  | item :: rest => indented level item :: indentedItems level rest

/-- The fields of a record over several lines. -/
def indentedFields (level : Nat) : List (Text × Data) → List Text
  | [] => []
  | (name, value) :: rest =>
      (escaped name ++ ": " ++ indented level value) :: indentedFields level rest

end

end Data

end MissionLint
