import MissionLint.Text.Quoted
import MissionLint.Numeral.Decimal

namespace MissionLint

/-!
# Values that are no numbers

A text that looks like a number need not be one: digits can be too many or have
no value.  The readers here say why a text is not read, in the words that
messages use.
-/

/-- Why a value cannot be turned into a number. -/
inductive NumeralFault where
  | notInteger (text : Text)
  | notReal (text : Text)
  | notNumeric (kind : Text)
  | tooLong (limit : DigitLimit)
  deriving Repr, DecidableEq

namespace NumeralFault

/-- The wording of a numeral fault.  The text that is no integer is shown up to
two hundred characters. -/
def message : NumeralFault → Text
  | .notInteger text =>
      "invalid literal for int() with base 10: " ++ (Text.quoted text).take 200
  | .notReal text => "could not convert string to float: " ++ Text.quoted text
  | .notNumeric kind =>
      "float() argument must be a string or a real number, not '" ++ kind ++ "'"
  | .tooLong limit => limit.message

end NumeralFault

namespace Numeral

/-- The integer that a text spells. -/
def integerOf (text : Text) : Except NumeralFault Int :=
  match readInteger text with
  | .ok value => .ok value
  | .error .malformed => .error (.notInteger text)
  | .error (.tooLong limit) => .error (.tooLong limit)

/-- The real that a text spells. -/
def realOf (text : Text) : Except NumeralFault Float :=
  match readReal? text with
  | some value => .ok value
  | none => .error (.notReal text)

end Numeral

end MissionLint
