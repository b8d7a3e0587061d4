import MissionLint.Table
import MissionLint.Text.Quoted
import MissionLint.Numeral.Integer
import MissionLint.Numeral.Number
import MissionLint.Numeral.Shortest

namespace MissionLint

/-!
# Data documents

Configurations and script sections are data documents: null, truth values,
numbers, texts, lists, and records whose fields keep their order.
-/

/-- A data document. -/
inductive Data where
  | null
  | number (value : Number)
  | text (value : Text)
  | list (items : List Data)
  | record (fields : List (Text × Data))

namespace Data

/-- The name of a value's kind in messages. -/
def kindName : Data → Text
  | .null => "NoneType"
  | .number (.flag _) => "bool"
  | .number (.integer _) => "int"
  | .number (.real _) => "float"
  | .text _ => "str"
  | .list _ => "list"
  | .record _ => "dict"

/-- The field of a record. -/
def field? (fields : List (Text × Data)) (name : Text) : Option Data :=
  Table.find? fields name

/-- Whether a value is something rather than nothing: null, false, zero and
everything empty are nothing. -/
def isSomething : Data → Bool
  | .null => false
  | .number value => (Number.integer 0).less value || value.less (.integer 0) || isUndefined value
  | .text value => !value.isEmpty
  | .list items => !items.isEmpty
  | .record fields => !fields.isEmpty
where
  /-- Whether a number is the undefined real. -/
  isUndefined (value : Number) : Bool :=
    match value.exact with
    | .undefined => true
    | _ => false

/-- A number written out.  An integer is written within the digit limit only. -/
def numberText : Number → Except DigitLimit Text
  | .flag true => .ok "True"
  | .flag false => .ok "False"
  | .integer value => Numeral.writeInteger value
  | .real value => .ok (Numeral.writeReal value)

mutual

/-- A value written out, unless an integer in it passes the digit limit. -/
def literal : Data → Except DigitLimit Text
  | .null => .ok "None"
  | .number value => numberText value
  | .text value => .ok (Text.quoted value)
  | .list items => do
      return "[" ++ Text.join ", " (← literals items) ++ "]"
  | .record fields => do
      return "\x7b" ++ Text.join ", " (← fieldLiterals fields) ++ "\x7d"

/-- The items of a list written out. -/
def literals : List Data → Except DigitLimit (List Text)
  | [] => .ok []
  | item :: rest => do
      return (← literal item) :: (← literals rest)

/-- The fields of a record written out. -/
def fieldLiterals : List (Text × Data) → Except DigitLimit (List Text)
  | [] => .ok []
  | (name, value) :: rest => do
      return (Text.quoted name ++ ": " ++ (← literal value)) :: (← fieldLiterals rest)

end

/-- A value as text: a text is itself, and other values are written out. -/
def display : Data → Except DigitLimit Text
  | .text value => .ok value
  | value => literal value

end Data

end MissionLint
