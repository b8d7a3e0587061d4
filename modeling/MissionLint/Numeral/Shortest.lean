import MissionLint.Text
import MissionLint.Numeral.Real

namespace MissionLint

/-!
# Shortest decimals

A double is written with the fewest digits that read back as the same double.
For a mantissa `m` and an exponent `q` the reals that round to `m · 2 ^ q` form
an interval, whose ends belong to it when `m` is even.  Going from a coarse
decimal grid to a finer one, the first grid with a point in the interval gives
the digits; of two points the nearer one is taken, and of two equally near ones
the even one.
-/

namespace Numeral

/-- A positive decimal number `digits · 10 ^ exponent`. -/
structure Decimal where
  digits : Nat
  exponent : Int
  deriving Repr, DecidableEq

/-- The reals that round to one double, in units of `2 ^ exponent`. -/
structure Rounding where
  lower : Nat
  middle : Nat
  upper : Nat
  exponent : Int
  closed : Bool
  deriving Repr, DecidableEq

namespace Rounding

/-- The interval around a positive double.  Below a power of two the neighbours
are half as far apart as above it. -/
def ofMagnitude (mantissa : Nat) (exponent : Int) : Rounding :=
  let below := if mantissa == Nat.pow 2 52 && -1074 < exponent then 1 else 2
  { lower := 4 * mantissa - below
    middle := 4 * mantissa
    upper := 4 * mantissa + 2
    exponent := exponent - 2
    closed := mantissa % 2 == 0 }

/-- A count of interval units on the common scale with the grid `10 ^ grid`. -/
def unitsOnScale (interval : Rounding) (grid : Int) (count : Nat) : Nat :=
  count * Nat.pow 2 interval.exponent.toNat * Nat.pow 10 (-grid).toNat

/-- A grid point on the common scale with the interval. -/
def pointOnScale (interval : Rounding) (grid : Int) (point : Nat) : Nat :=
  point * Nat.pow 10 grid.toNat * Nat.pow 2 (-interval.exponent).toNat

/-- Whether a grid point lies in the interval. -/
def holds (interval : Rounding) (grid : Int) (point : Nat) : Bool :=
  let position := interval.pointOnScale grid point
  let lower := interval.unitsOnScale grid interval.lower
  let upper := interval.unitsOnScale grid interval.upper
  if interval.closed then
    lower ≤ position && position ≤ upper
  else
    lower < position && position < upper

/-- The point of a grid that stands for the double, when the grid has one. -/
def pointOn? (interval : Rounding) (grid : Int) : Option Nat :=
  let middle := interval.unitsOnScale grid interval.middle
  let step := interval.pointOnScale grid 1
  let below := middle / step
  let above := below + 1
  let nearer :=
    let fromBelow := middle - below * step
    let toAbove := above * step - middle
    if fromBelow < toAbove || (fromBelow == toAbove && below % 2 == 0) then below else above
  match interval.holds grid below, interval.holds grid above with
  | true, true => some nearer
  | true, false => some below
  | false, true => some above
  | false, false => none

/-- Search grids from coarse to fine. -/
def search (interval : Rounding) : Nat → Int → Option Decimal
  | 0, _ => none
  | steps + 1, grid =>
      match interval.pointOn? grid with
      | some point => some ⟨point, grid⟩
      | none => search interval steps (grid - 1)

/-- A grid that is coarser than the double is large: one more than the number of
digits before the point, or one less than the zeros after it. -/
def coarsest (interval : Rounding) : Int :=
  let whole := interval.unitsOnScale 0 interval.middle / interval.pointOnScale 0 1
  if 0 < whole then
    (Nat.toDigits 10 whole).length
  else
    let inverse := interval.pointOnScale 0 1 / interval.unitsOnScale 0 interval.middle
    1 - ((Nat.toDigits 10 inverse).length : Int)

end Rounding

/-- The shortest decimal that reads back as a positive double.  Nineteen grids
always suffice, because seventeen digits do. -/
def shortest (mantissa : Nat) (exponent : Int) : Decimal :=
  let interval := Rounding.ofMagnitude mantissa exponent
  (interval.search 20 interval.coarsest).getD ⟨mantissa, 0⟩

/-- Which exponents are written without an exponent mark. -/
structure RealFormat where
  leastPositional : Int
  pastPositional : Int
  exponentWidth : Nat

/-- Reals are positional from `10 ^ (-4)` up to `10 ^ 16`, and an exponent has at
least two digits. -/
def realFormat : RealFormat :=
  ⟨-4, 16, 2⟩

/-- A decimal in a format. -/
def Decimal.write (format : RealFormat) (decimal : Decimal) : Text :=
  let digits := Text.trimEndWhile (· == '0') (Text.ofNat decimal.digits)
  let point := (Text.ofNat decimal.digits).length + decimal.exponent
  if format.leastPositional < point && point ≤ format.pastPositional then
    if point ≤ 0 then
      "0." ++ Text.repeated (-point).toNat '0' ++ digits
    else
      let whole := digits.take point.toNat
      let fraction := digits.drop point.toNat
      let shownFraction : Text := if fraction.isEmpty then "0" else fraction
      whole ++ Text.repeated (point.toNat - whole.length) '0' ++ "." ++ shownFraction
  else
    let shown := point - 1
    let size := Text.ofNat shown.natAbs
    let fraction : Text := if digits.length ≤ 1 then [] else '.' :: digits.drop 1
    let mark : Text := if shown < 0 then "e-" else "e+"
    digits.take 1 ++ fraction ++ mark
      ++ Text.repeated (format.exponentWidth - size.length) '0' ++ size

/-- A real with as few digits as determine it. -/
def writeReal (value : Float) : Text :=
  let fields := fieldsOf value
  let sign : Text := if fields.negative then "-" else ""
  match fields.exact with
  | .undefined => "nan"
  | .infinite _ => sign ++ "inf"
  | .finite 0 _ => sign ++ "0.0"
  | .finite _ _ =>
      let (mantissa, exponent) := fields.magnitude
      sign ++ (shortest mantissa exponent).write realFormat

end Numeral

end MissionLint
