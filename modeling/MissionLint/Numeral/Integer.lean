import MissionLint.Text
import MissionLint.Text.DecimalDigit

namespace MissionLint

/-!
# Integers as text

Integers have no bound, but their decimal text has: neither a text with more
than `digitLimit` digits is read as an integer nor an integer with more digits
is written.  Digits of every script that have a value are read, also mixed.
-/

/-- The most digits an integer's text may have. -/
def digitLimit : Nat := 4300

/-- An integer's text would pass the limit. -/
inductive DigitLimit where
  | reading (digits : Nat)
  | writing
  deriving Repr, DecidableEq

namespace DigitLimit

/-- The wording of a passed limit. -/
def message : DigitLimit → Text
  | .reading digits =>
      "Exceeds the limit (4300 digits) for integer string conversion: value has "
        ++ Text.ofNat digits
        ++ " digits; use sys.set_int_max_str_digits() to increase the limit"
  | .writing =>
      "Exceeds the limit (4300 digits) for integer string conversion"
        ++ "; use sys.set_int_max_str_digits() to increase the limit"

end DigitLimit

namespace Numeral

/-- The number that decimal digits spell. -/
def ofDigits (digits : List Nat) : Nat :=
  digits.foldl (fun value digit => 10 * value + digit) 0

/-- The number that the decimal digits of a text spell. -/
def naturalOfText (text : Text) : Nat :=
  ofDigits (text.filterMap Text.digitValue?)

/-- Read a text of decimal digits, within the limit. -/
def readDigits (text : Text) : Except DigitLimit Nat :=
  if digitLimit < text.length then
    .error (.reading text.length)
  else
    .ok (naturalOfText text)

/-- The decimal text of an integer, within the limit. -/
def writeInteger (value : Int) : Except DigitLimit Text :=
  if digitLimit < (Text.ofNat value.natAbs).length then
    .error .writing
  else
    .ok (Text.ofInt value)

/-- Split off an optional sign: whether it is a minus, and what follows. -/
def splitSign : Text → Bool × Text
  | '-' :: rest => (true, rest)
  | '+' :: rest => (false, rest)
  | text => (false, text)

/-- Whether digits are grouped well: each underscore stands between two digits. -/
def isGrouped : Text → Bool
  | [] => false
  | [last] => Text.isDecimalDigit last
  | first :: '_' :: rest => Text.isDecimalDigit first && isGrouped rest
  | first :: rest => Text.isDecimalDigit first && isGrouped rest

/-- Why a text is not read as an integer. -/
inductive IntegerFault where
  | malformed
  | tooLong (limit : DigitLimit)
  deriving Repr, DecidableEq

/-- Read an integer: spacing around it, an optional sign, and digits that may be
grouped by single underscores.  The limit is looked at before what follows the
digits. -/
def readInteger (text : Text) : Except IntegerFault Int :=
  let (negative, body) := splitSign (Text.trimWhile Text.isSpacing text)
  let isDigitOrMark (c : CodePoint) : Bool := Text.isDecimalDigit c || c == '_'
  let numeral := body.takeWhile isDigitOrMark
  let digits := numeral.filter Text.isDecimalDigit
  if !isGrouped numeral then
    .error .malformed
  else
    match readDigits digits with
    | .error limit => .error (.tooLong limit)
    | .ok value =>
        if (body.dropWhile isDigitOrMark).isEmpty then
          .ok (if negative then -(value : Int) else (value : Int))
        else
          .error .malformed

end Numeral

end MissionLint
