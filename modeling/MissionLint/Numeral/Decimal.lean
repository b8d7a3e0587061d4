import MissionLint.Numeral.Integer

namespace MissionLint

/-!
# Reals as text

A decimal text is read as the nearest double; a text beyond the largest double
is read as infinity.
-/

namespace Numeral

/-- The double nearest to `digits · 10 ^ exponent`.  Exponents that no double can
show are settled by the number of digits alone. -/
def nearestReal (digits : Nat) (exponent : Int) : Float :=
  let magnitude := (Text.ofNat digits).length + exponent
  if digits == 0 || magnitude < -400 then
    0.0
  else if 400 < magnitude then
    1.0 / 0.0
  else
    Float.ofScientific digits (exponent < 0) exponent.natAbs

/-- The double nearest to a signed decimal, with a whole part, a fraction and an
exponent. -/
def realOfParts (negative : Bool) (whole fraction : Text) (exponent : Int) : Float :=
  let value :=
    nearestReal (naturalOfText (whole ++ fraction)) (exponent - fraction.length)
  if negative then -value else value

/-- Whether each underscore of a text stands between two digits. -/
def marksSeparateDigits : Option CodePoint → Text → Bool
  | before, [] => before != some '_'
  | before, c :: rest =>
      let digitBefore := before.any Text.isDecimalDigit
      if c == '_' then
        digitBefore && marksSeparateDigits (some c) rest
      else
        (before != some '_' || Text.isDecimalDigit c) && marksSeparateDigits (some c) rest

/-- Read the exponent of a decimal: nothing, or a mark, an optional sign and
digits up to the end. -/
def readExponent? : Text → Option Int
  | [] => some 0
  | mark :: rest =>
      let (negative, digits) := splitSign rest
      if (mark == 'e' || mark == 'E') && !digits.isEmpty && digits.all Text.isDecimalDigit then
        let size : Int := naturalOfText digits
        some (if negative then -size else size)
      else
        none

/-- Read an unsigned decimal without underscores. -/
def readDecimal? (negative : Bool) (text : Text) : Option Float :=
  let whole := text.takeWhile Text.isDecimalDigit
  let rest := text.dropWhile Text.isDecimalDigit
  let (fraction, rest) :=
    match rest with
    | '.' :: rest =>
        (rest.takeWhile Text.isDecimalDigit, rest.dropWhile Text.isDecimalDigit)
    | _ => ([], rest)
  if whole.isEmpty && fraction.isEmpty then
    none
  else
    (readExponent? rest).map fun exponent => realOfParts negative whole fraction exponent

/-- Read a real: spacing around it, an optional sign, and a decimal, whose digits
may be grouped by single underscores, or a word for infinity or for an undefined
value in any case. -/
def readReal? (text : Text) : Option Float :=
  let (negative, body) := splitSign (Text.trimWhile Text.isSpacing text)
  let word := Text.lower body
  if word == "inf" || word == "infinity" then
    some (if negative then -(1.0 / 0.0) else 1.0 / 0.0)
  else if word == "nan" then
    some (0.0 / 0.0)
  else if marksSeparateDigits none body then
    readDecimal? negative (body.filter (· != '_'))
  else
    none

end Numeral

end MissionLint
