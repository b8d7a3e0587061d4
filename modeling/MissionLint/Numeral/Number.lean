import MissionLint.Text
import MissionLint.Numeral.Real

namespace MissionLint

/-!
# Numbers of a configuration

Weights and thresholds keep the form in which they were given: a truth value,
an integer or a real.  A truth value counts as one or zero.  Integers stay exact
until they meet a real.
-/

/-- A number as given. -/
inductive Number where
  | flag (value : Bool)
  | integer (value : Int)
  | real (value : Float)

/-- An integer is too large to become a real. -/
inductive RealOverflow where
  | tooLarge
  deriving Repr, DecidableEq

namespace RealOverflow

/-- The wording of an overflow. -/
def message : RealOverflow → Text
  | .tooLarge => "int too large to convert to float"

end RealOverflow

namespace Number

/-- The exact value of a number. -/
def exact : Number → Numeral.Exact
  | .flag value => .ofInt (if value then 1 else 0)
  | .integer value => .ofInt value
  | .real value => .ofReal value

/-- Whether one number is less than another, decided on exact values. -/
def less (left right : Number) : Bool :=
  left.exact.less right.exact

/-- The real nearest to an integer. -/
def realOfInt (value : Int) : Except RealOverflow Float :=
  let real := Float.ofInt value
  if real.isInf then
    .error .tooLarge
  else
    .ok real

/-- A number as an integer, when it is not a real. -/
def integer? : Number → Option Int
  | .flag value => some (if value then 1 else 0)
  | .integer value => some value
  | .real _ => none

/-- The real that is closest to a number. -/
def toReal : Number → Except RealOverflow Float
  | .flag value => realOfInt (if value then 1 else 0)
  | .integer value => realOfInt value
  | .real value => .ok value

/-- Add two numbers; the sum is a real when one of them is. -/
def add (left right : Number) : Except RealOverflow Number :=
  match left.integer?, right.integer? with
  | some a, some b => .ok (.integer (a + b))
  | _, _ => do
      let a ← left.toReal
      let b ← right.toReal
      return .real (a + b)

/-- A weight counted a number of times. -/
def weigh (count : Int) : Number → Number
  | .flag value => .integer (if value then count else 0)
  | .integer value => .integer (count * value)
  | .real value => .real (Float.ofInt count * value)

end Number

end MissionLint
