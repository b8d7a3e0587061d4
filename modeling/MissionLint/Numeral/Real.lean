namespace MissionLint

/-!
# The exact value of a real

A real is a double precision number.  Its exact value is an integer times a
power of two, so comparisons with integers of any size are decided without
rounding.
-/

namespace Numeral

/-- The exact value of a number: `finite m q` is `m · 2 ^ q`. -/
inductive Exact where
  | undefined
  | infinite (negative : Bool)
  | finite (mantissa : Int) (exponent : Int)
  deriving Repr, DecidableEq

/-- The fields of a double: its sign, its biased exponent and its fraction. -/
structure Fields where
  negative : Bool
  exponent : Nat
  fraction : Nat
  deriving Repr, DecidableEq

/-- Take a double apart. -/
def fieldsOf (value : Float) : Fields :=
  let bits := value.toBits.toNat
  { negative := bits / Nat.pow 2 63 % 2 == 1
    exponent := bits / Nat.pow 2 52 % Nat.pow 2 11
    fraction := bits % Nat.pow 2 52 }

namespace Fields

/-- The magnitude of a finite double as a mantissa and a power of two. -/
def magnitude (fields : Fields) : Nat × Int :=
  if fields.exponent == 0 then
    (fields.fraction, -1074)
  else
    (fields.fraction + Nat.pow 2 52, (fields.exponent : Int) - 1075)

/-- The exact value of the double with these fields. -/
def exact (fields : Fields) : Exact :=
  if fields.exponent == 2047 then
    if fields.fraction == 0 then
      .infinite fields.negative
    else
      .undefined
  else
    let (mantissa, exponent) := fields.magnitude
    .finite (if fields.negative then -(mantissa : Int) else (mantissa : Int)) exponent

end Fields

namespace Exact

/-- The exact value of an integer. -/
def ofInt (value : Int) : Exact :=
  .finite value 0

/-- The exact value of a real. -/
def ofReal (value : Float) : Exact :=
  (fieldsOf value).exact

/-- A mantissa brought to a lower exponent. -/
def scaled (mantissa exponent lower : Int) : Int :=
  mantissa * Int.pow 2 (exponent - lower).toNat

/-- Whether one value is less than another.  An undefined value is neither less
nor greater than any other. -/
def less : Exact → Exact → Bool
  | .undefined, _ => false
  | _, .undefined => false
  | .infinite negative, .infinite other => negative && !other
  | .infinite negative, .finite _ _ => negative
  | .finite _ _, .infinite negative => !negative
  | .finite mantissa exponent, .finite mantissa' exponent' =>
      let lower := min exponent exponent'
      decide (scaled mantissa exponent lower < scaled mantissa' exponent' lower)

end Exact

end Numeral

end MissionLint
