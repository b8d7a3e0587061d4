import Mathlib.Algebra.Ring.Nat
import MissionLint.Numeral.Number

namespace MissionLint

/-!
# Integers that are too large for a real

An integer becomes the nearest real.  A mantissa has 53 binary places, so the largest real
is `2 ^ 1024 - 2 ^ 971`.  The nearest real of an integer is infinite from half a place
beyond it on, where the tie goes to the even mantissa, which is the one of infinity.
-/

open Float.Model Float.Model.UnpackedFloat

namespace Numeral

/-! ## Packing -/

/-- A value that is infinite, or finite with an exponent from a limit on. -/
def Reaches (limit : Int) : UnpackedFloat → Prop
  | .infinity _ => True
  | .finite _ _ exponent _ => limit ≤ exponent
  | _ => False

/-- What bits are unpacked to.  The stored exponent is biased, all ones stand for infinity and
for what is no number, and zero stands for the lowest exponent. -/
inductive Unpacked (bits : BitVec Format.binary64.numBits) : UnpackedFloat → Prop
  | infinity (sign : Sign) (full : (unpackExponent bits).toNat = 2047) :
      Unpacked bits (.infinity sign)
  | notANumber : Unpacked bits .notANumber
  | zero (sign : Sign) : Unpacked bits (.zero sign)
  | lowest (sign : Sign) (mantissa : Nat) (positive : 0 < mantissa) (fits : mantissa < 2 ^ 53) :
      Unpacked bits (.finite sign mantissa (-1074) positive)
  | biased (sign : Sign) (mantissa : Nat) (positive : 0 < mantissa) (fits : mantissa < 2 ^ 53)
      (notFull : (unpackExponent bits).toNat < 2047) :
      Unpacked bits (.finite sign mantissa ((unpackExponent bits).toNat - 1075) positive)

/-- All bits are unpacked in one of these ways. -/
theorem unpacked
    (bits : BitVec Format.binary64.numBits) :
    Unpacked bits (UnpackedFloat.unpack .binary64 bits) := by
  unfold UnpackedFloat.unpack
  dsimp only
  by_cases full : unpackExponent bits = -1#11
  · rw [if_pos full]
    by_cases isZero : unpackMantissa bits = 0#52
    · rw [if_pos isZero]
      exact .infinity _ (congrArg BitVec.toNat full)
    · rw [if_neg isZero]
      exact .notANumber
  · rw [if_neg full]
    by_cases lowest : unpackExponent bits = 0#11
    · rw [if_pos lowest]
      by_cases isZero : unpackMantissa bits = 0#52
      · rw [dif_pos isZero]
        exact .zero _
      · have fits : (unpackMantissa bits).toNat < 2 ^ 53 :=
          Nat.lt_of_lt_of_le (unpackMantissa bits).isLt (by decide)
        rw [dif_neg isZero, lowest]
        exact .lowest _ _ _ fits
    · have stored : (unpackExponent bits).toNat < 2 ^ 11 := (unpackExponent bits).isLt
      have notOnes : (unpackExponent bits).toNat ≠ 2047 := by
        intro areOnes
        exact full (BitVec.eq_of_toNat_eq areOnes)
      rw [if_neg lowest]
      exact .biased _ _ _ (1#1 ++ unpackMantissa bits).isLt (by omega)

/-- Bits that reach a limit have an exponent from there on. -/
theorem le_of_reaches_unpack
    {limit : Int}
    (normal : -1074 < limit)
    (finite : limit ≤ 972)
    {bits : BitVec Format.binary64.numBits}
    (reaches : Reaches limit (UnpackedFloat.unpack .binary64 bits)) :
    limit ≤ (unpackExponent bits).toNat - 1075 := by
  have isUnpacked := unpacked bits
  generalize UnpackedFloat.unpack .binary64 bits = value at reaches isUnpacked
  cases isUnpacked with
  | infinity sign full =>
      omega
  | lowest sign mantissa positive fits =>
      change limit ≤ -1074 at reaches
      omega
  | biased sign mantissa positive fits notFull =>
      exact reaches
  | _ =>
      exact reaches.elim

/-- No finite real has an exponent beyond 971. -/
theorem isInf_unpack_iff
    (bits : BitVec Format.binary64.numBits) :
    (UnpackedFloat.unpack .binary64 bits).isInf = true ↔
      Reaches 972 (UnpackedFloat.unpack .binary64 bits) := by
  have isUnpacked := unpacked bits
  generalize UnpackedFloat.unpack .binary64 bits = value at isUnpacked ⊢
  cases isUnpacked with
  | infinity sign full =>
      exact iff_of_true rfl trivial
  | lowest sign mantissa positive fits =>
      refine iff_of_false Bool.false_ne_true ?_
      change ¬(972 : Int) ≤ -1074
      decide
  | biased sign mantissa positive fits notFull =>
      refine iff_of_false Bool.false_ne_true ?_
      change ¬972 ≤ ((unpackExponent bits).toNat : Int) - 1075
      omega
  | _ =>
      exact iff_of_false Bool.false_ne_true id

/-- A finite value has a mantissa of 53 places. -/
theorem mantissa_lt_of_unpack
    {bits : BitVec Format.binary64.numBits}
    {sign : Sign}
    {mantissa : Nat}
    {exponent : Int}
    {positive : 0 < mantissa}
    (isFinite :
      UnpackedFloat.unpack .binary64 bits = .finite sign mantissa exponent positive) :
    mantissa < 2 ^ 53 := by
  have isUnpacked := unpacked bits
  rw [isFinite] at isUnpacked
  cases isUnpacked <;>
    assumption

/-- Packing a value does not move its exponent beyond a limit. -/
theorem reaches_of_unpack_pack
    {limit : Int}
    (normal : -1074 < limit)
    (finite : limit ≤ 972)
    {value : UnpackedFloat}
    (reaches :
      Reaches limit (UnpackedFloat.unpack .binary64 (UnpackedFloat.pack .binary64 value))) :
    Reaches limit value := by
  have biased := le_of_reaches_unpack normal finite reaches
  cases value with
  | infinity sign =>
      trivial
  | notANumber =>
      exact reaches
  | zero sign =>
      change limit ≤ (unpackExponent (packComponents .binary64 sign 0 0)).toNat - 1075 at biased
      rw [unpackExponent_packComponents] at biased
      change limit ≤ (0 : Int) - 1075 at biased
      omega
  | finite sign mantissa exponent positive =>
      change limit ≤
        (unpackExponent
          (if 2 ^ 11 ≤ (exponent + 1023 + 52).toNat + 1 then _
            else if mantissa.log2 + 1 = 53 then _ else _)).toNat - 1075 at biased
      change limit ≤ exponent
      split at biased
      · omega
      · split at biased
        · rw [unpackExponent_packComponents] at biased
          change limit ≤ ((exponent + 1023 + 52).toNat % 2 ^ 11 : Nat) - 1075 at biased
          omega
        · rw [unpackExponent_packComponents] at biased
          change limit ≤ (0 : Int) - 1075 at biased
          omega

/-- Packed infinity is unpacked to infinity. -/
theorem unpack_packedInfinity
    (sign : Sign) :
    UnpackedFloat.unpack .binary64 (packedInfinity .binary64 sign) = .infinity sign := by
  cases sign <;>
    rfl

/-- A value is packed as an infinite one when its exponent has no room. -/
theorem isInf_pack_iff
    (value : UnpackedFloat) :
    (Float.Model.pack value).isInf = true ↔ Reaches 972 value := by
  change (UnpackedFloat.unpack .binary64 (UnpackedFloat.pack .binary64 value)).isInf = true ↔ _
  constructor
  · intro infinite
    exact reaches_of_unpack_pack (by decide) (by decide) ((isInf_unpack_iff _).mp infinite)
  · intro reaches
    have isInfinity :
        ∃ sign, UnpackedFloat.pack .binary64 value = packedInfinity .binary64 sign := by
      cases value with
      | infinity sign =>
          exact ⟨sign, rfl⟩
      | finite sign mantissa exponent positive =>
          refine ⟨sign, if_pos ?_⟩
          change 2 ^ 11 ≤ (exponent + 1023 + 52).toNat + 1
          change 972 ≤ exponent at reaches
          omega
      | _ =>
          exact reaches.elim
    obtain ⟨sign, isPacked⟩ := isInfinity
    rw [isPacked, unpack_packedInfinity]
    rfl

/-! ## Rounding -/

/-- Halving a mantissa again and again keeps the quotient, the bit that was shifted out last
and whether one of the bits before it was set. -/
theorem shiftRight_succ
    (mantissa places : Nat) :
    ExtendedMantissa.ofMantissaAndAccuracy mantissa .exact >>> (places + 1) =
      ⟨mantissa / 2 ^ (places + 1), mantissa / 2 ^ places % 2 != 0,
        mantissa % 2 ^ places != 0⟩ := by
  change Nat.repeat ExtendedMantissa.shiftRightOne (places + 1) _ = _
  induction places with
  | zero =>
      simp [Nat.repeat, ExtendedMantissa.shiftRightOne,
        ExtendedMantissa.ofMantissaAndAccuracy, Nat.mod_one]
  | succ places inductionHypothesis =>
      rw [Nat.repeat, inductionHypothesis]
      simp only [ExtendedMantissa.shiftRightOne, Nat.div_div_eq_div_mul, ← Nat.pow_succ]
      congr 1
      rw [Nat.mod_pow_succ, Bool.eq_iff_iff]
      simp [or_comm, imp_iff_not_or]

/-- Shifting to the right divides the mantissa. -/
theorem mantissa_shiftRight
    (mantissa places : Nat) :
    (ExtendedMantissa.ofMantissaAndAccuracy mantissa .exact >>> places).mantissa =
      mantissa / 2 ^ places := by
  cases places with
  | zero =>
      rw [Nat.pow_zero, Nat.div_one]
      rfl
  | succ places =>
      rw [shiftRight_succ]

/-- Rounding keeps the mantissa or adds one. -/
theorem roundedMantissa_bounds
    (extended : ExtendedMantissa) :
    extended.mantissa ≤ extended.roundedMantissa ∧
      extended.roundedMantissa ≤ extended.mantissa + 1 := by
  obtain ⟨mantissa, roundBit, stickyBit⟩ := extended
  cases roundBit <;> cases stickyBit <;>
    simp only [ExtendedMantissa.roundedMantissa, ExtendedMantissa.accuracy,
      Accuracy.roundToNearestEven] <;>
    omega

/-- The exponent at which a mantissa has no more than 53 places. -/
def roundedExponent (mantissa : Nat) (exponent : Int) : Int :=
  max exponent (max (mantissa.log2 + 1 + exponent - 53) (-1074))

/-- A mantissa shifted to the exponent at which it has no more than 53 places. -/
def shifted (mantissa : Nat) (exponent : Int) : ExtendedMantissa :=
  ExtendedMantissa.ofMantissaAndAccuracy mantissa .exact >>>
    (roundedExponent mantissa exponent - exponent).toNat

/-- A mantissa is shifted to the exponent at which it has no more than 53 places. -/
theorem shiftToTargetExponent_eq
    (mantissa : Nat)
    (exponent : Int) :
    shiftToTargetExponent .binary64 mantissa exponent .exact =
      (shifted mantissa exponent, roundedExponent mantissa exponent) := by
  have target :
      Format.binary64.targetExponent (totalExponent mantissa exponent) =
        max (mantissa.log2 + 1 + exponent - 53) (-1074) := by
    rfl
  have places :
      (max (mantissa.log2 + 1 + exponent - 53) (-1074) - exponent).toNat =
        (roundedExponent mantissa exponent - exponent).toNat := by
    unfold roundedExponent
    omega
  simp only [shiftToTargetExponent, shiftToExponent, target, places, shifted]
  congr 1
  unfold roundedExponent
  omega

/-- A shifted and rounded mantissa has 53 places, or is the next power of two. -/
theorem roundedMantissa_shifted_le
    (mantissa : Nat)
    (exponent : Int) :
    (shifted mantissa exponent).roundedMantissa ≤ 2 ^ 53 := by
  have fits : (shifted mantissa exponent).mantissa < 2 ^ 53 := by
    rw [shifted, mantissa_shiftRight, Nat.div_lt_iff_lt_mul (Nat.two_pow_pos _), ← Nat.pow_add]
    refine Nat.lt_of_lt_of_le Nat.lt_log2_self (Nat.pow_le_pow_right (by decide) ?_)
    unfold roundedExponent
    omega
  exact Nat.le_trans (roundedMantissa_bounds _).2 fits

/-- A mantissa that was rounded up to 54 places is moved by one more place. -/
theorem roundedExponent_of_le
    {rounded : Nat}
    (fits : rounded ≤ 2 ^ 53)
    {exponent : Int}
    (lowest : -1074 ≤ exponent) :
    roundedExponent rounded exponent = exponent + if rounded = 2 ^ 53 then 1 else 0 := by
  unfold roundedExponent
  split
  case isTrue carried =>
    rw [carried, Nat.log2_two_pow]
    omega
  case isFalse notCarried =>
    have fewPlaces : rounded.log2 < 53 := by
      by_cases isZero : rounded = 0
      · rw [isZero]
        decide
      · rw [Nat.log2_lt isZero]
        omega
    omega

/-- Only zero is shifted to zero at the lowest exponent and above. -/
theorem mantissa_shifted_eq_zero_iff
    {rounded : Nat}
    (fits : rounded ≤ 2 ^ 53)
    {exponent : Int}
    (lowest : -1074 ≤ exponent) :
    (shifted rounded exponent).mantissa = 0 ↔ rounded = 0 := by
  rw [shifted, mantissa_shiftRight, roundedExponent_of_le fits lowest]
  split
  case isTrue carried =>
    have onePlace : (exponent + 1 - exponent).toNat = 1 := by
      omega
    rw [carried, onePlace]
    decide
  case isFalse =>
    simp

/-- How far rounding moves the exponent of a value. -/
theorem reaches_roundWithAccuracy_iff
    (limit : Int)
    (sign : Sign)
    (mantissa : Nat)
    (exponent : Int) :
    Reaches limit (roundWithAccuracy .binary64 sign mantissa exponent .exact) ↔
      (shifted mantissa exponent).roundedMantissa ≠ 0 ∧
        limit ≤ roundedExponent mantissa exponent +
          if (shifted mantissa exponent).roundedMantissa = 2 ^ 53 then 1 else 0 := by
  have lowest : -1074 ≤ roundedExponent mantissa exponent := by
    unfold roundedExponent
    omega
  have fits := roundedMantissa_shifted_le mantissa exponent
  have isZero_iff := mantissa_shifted_eq_zero_iff fits lowest
  rw [← roundedExponent_of_le fits lowest]
  unfold roundWithAccuracy
  rw [shiftToTargetExponent_eq]
  dsimp only
  rw [shiftToTargetExponent_eq]
  dsimp only
  by_cases isZero : (shifted (shifted mantissa exponent).roundedMantissa
      (roundedExponent mantissa exponent)).mantissa = 0
  · rw [dif_pos isZero]
    exact iff_of_false id fun both => both.1 (isZero_iff.mp isZero)
  · rw [dif_neg isZero]
    exact (and_iff_right (mt isZero_iff.mpr isZero)).symm

/-- Rounding moves an exponent at most one place beyond what the mantissa needs. -/
theorem le_of_reaches_roundWithAccuracy
    {limit : Int}
    {sign : Sign}
    {mantissa : Nat}
    {exponent : Int}
    (reaches : Reaches limit (roundWithAccuracy .binary64 sign mantissa exponent .exact)) :
    limit ≤ roundedExponent mantissa exponent + 1 := by
  obtain ⟨_, reached⟩ := (reaches_roundWithAccuracy_iff limit sign mantissa exponent).mp reaches
  split at reached <;>
    omega

/-! ## Integers -/

/-- A power of two adds its exponent to the logarithm. -/
theorem log2_mul_two_pow
    {value : Nat}
    (notZero : value ≠ 0)
    (places : Nat) :
    (value * 2 ^ places).log2 = value.log2 + places := by
  rw [Nat.log2_eq_iff (Nat.mul_ne_zero notZero (Nat.ne_of_gt (Nat.two_pow_pos places)))]
  constructor
  · rw [Nat.pow_add]
    exact Nat.mul_le_mul_right _ (Nat.log2_self_le notZero)
  · rw [Nat.add_right_comm, Nat.pow_add]
    exact Nat.mul_lt_mul_of_pos_right Nat.lt_log2_self (Nat.two_pow_pos places)

/-- An integer with up to 53 places has a low exponent. -/
theorem not_reaches_ofNat
    {value : Nat}
    (fits : value < 2 ^ 53) :
    ¬Reaches 2 (UnpackedFloat.ofNat .binary64 value) := by
  intro reaches
  change Reaches 2 (UnpackedFloat.normalize .binary64 value 0 .positive) at reaches
  unfold UnpackedFloat.normalize at reaches
  split at reaches
  case h_1 isNegative =>
    rw [Int.compare_eq_lt] at isNegative
    omega
  case h_2 =>
    exact reaches
  case h_3 isPositive =>
    rw [Int.compare_eq_gt] at isPositive
    have notZero : value ≠ 0 := by
      omega
    have fewPlaces := (Nat.log2_lt notZero).mpr fits
    have reached := le_of_reaches_roundWithAccuracy reaches
    rw [Int.toNat_natCast, Nat.shiftLeft_eq, roundedExponent, log2_mul_two_pow notZero] at reached
    omega

/-- Multiplying a value of low exponent by one keeps it low. -/
theorem not_reaches_mul_one
    {value : UnpackedFloat}
    (low : ¬Reaches 2 value)
    (fits : ∀ sign mantissa exponent positive,
      value = .finite sign mantissa exponent positive → mantissa < 2 ^ 53) :
    ¬Reaches 972 (UnpackedFloat.mul .binary64 value
      (.finite .positive (2 ^ 52) (-52) (Nat.two_pow_pos 52))) := by
  intro reaches
  cases value with
  | infinity sign =>
      exact low trivial
  | finite sign mantissa exponent positive =>
      have notZero : mantissa ≠ 0 := Nat.ne_of_gt positive
      have fewPlaces := (Nat.log2_lt notZero).mpr (fits _ _ _ _ rfl)
      have reached := le_of_reaches_roundWithAccuracy reaches
      rw [roundedExponent, log2_mul_two_pow notZero] at reached
      change ¬2 ≤ exponent at low
      omega
  | _ =>
      exact reaches

/-- An integer with up to 53 places has a real. -/
theorem isInf_ofNat_of_lt
    {value : Nat}
    (fits : value < 2 ^ 53) :
    (Float.ofNat value).isInf = false := by
  have isProduct :
      Float.ofNat value = value.toUInt64.toFloat * Float.exactlyRepresentablePowersOfTen[0] := by
    change Float.ofScientific value false 0 = _
    unfold Float.ofScientific
    rw [dif_pos ⟨fits, by decide⟩]
    rfl
  have one :
      Float.exactlyRepresentablePowersOfTen[0].toModel.unpack =
        .finite .positive (2 ^ 52) (-52) (Nat.two_pow_pos 52) := by
    rfl
  have sameValue : value.toUInt64.toNat = value := by
    simp only [Nat.toUInt64_eq, UInt64.toNat_ofNat']
    omega
  rw [isProduct, ← Bool.not_eq_true]
  change ¬(Float.Model.pack (UnpackedFloat.mul .binary64 _
    Float.exactlyRepresentablePowersOfTen[0].toModel.unpack)).isInf = true
  rw [one, isInf_pack_iff]
  apply not_reaches_mul_one
  · intro reaches
    have unpacked := reaches_of_unpack_pack (by decide) (by decide) reaches
    change Reaches 2 (UnpackedFloat.ofNat .binary64 value.toUInt64.toNat) at unpacked
    rw [sameValue] at unpacked
    exact not_reaches_ofNat fits unpacked
  · intro sign mantissa exponent positive isFinite
    exact mantissa_lt_of_unpack isFinite

/-- A mantissa is rounded up to 54 places when all its bits and the first one after them are
set. -/
theorem roundedMantissa_eq_iff
    {halves : Nat}
    (fits : halves < 2 ^ 54)
    (stickyBit : Bool) :
    (⟨halves / 2, halves % 2 != 0, stickyBit⟩ : ExtendedMantissa).roundedMantissa = 2 ^ 53 ↔
      halves = 2 ^ 54 - 1 := by
  rcases Nat.mod_two_eq_zero_or_one halves with isEven | isOdd
  · cases stickyBit <;>
      simp [ExtendedMantissa.roundedMantissa, ExtendedMantissa.accuracy,
        Accuracy.roundToNearestEven, isEven] <;>
      omega
  · cases stickyBit <;>
      simp [ExtendedMantissa.roundedMantissa, ExtendedMantissa.accuracy,
        Accuracy.roundToNearestEven, isOdd] <;>
      omega

/-- A large integer is rounded once, from its exact value. -/
theorem ofNat_eq_of_le
    {value : Nat}
    (large : 2 ^ 53 ≤ value) :
    Float.ofNat value =
      .ofModel (Float.Model.pack
        (roundWithAccuracy .binary64 .positive (value * 2 ^ 53) (-53) .exact)) := by
  have isRounded :
      UnpackedFloat.ofScientific .binary64 value 0 =
        roundWithAccuracy .binary64 .positive (value * 2 ^ 53) (-53) .exact := by
    have notTiny : ¬(0 : Int) < -(2 ^ 11 + value.log2) := by
      omega
    unfold UnpackedFloat.ofScientific
    rw [dif_neg (by omega), if_neg (by decide), if_neg notTiny, if_pos (by decide)]
    rw [← Nat.shiftLeft_eq, ← Nat.mul_one (value <<< 53), ← Int.add_zero (-53)]
    rfl
  change Float.ofScientific value false 0 = _
  unfold Float.ofScientific
  rw [dif_neg (by omega), ← isRounded]
  rfl

/-- How an integer with too many places is shifted. -/
theorem shifted_integer
    {value : Nat}
    (large : 53 ≤ value.log2) :
    roundedExponent (value * 2 ^ 53) (-53) = value.log2 - 52 ∧
      shifted (value * 2 ^ 53) (-53) =
        ⟨value * 2 ^ 53 / 2 ^ value.log2 / 2, value * 2 ^ 53 / 2 ^ value.log2 % 2 != 0,
          value * 2 ^ 53 % 2 ^ value.log2 != 0⟩ := by
  have notZero : value ≠ 0 := by
    rintro rfl
    simp at large
  have reached : roundedExponent (value * 2 ^ 53) (-53) = value.log2 - 52 := by
    rw [roundedExponent, log2_mul_two_pow notZero]
    omega
  have places : (value.log2 - 52 - -53 : Int).toNat = value.log2 + 1 := by
    omega
  refine ⟨reached, ?_⟩
  rw [shifted, reached, places, shiftRight_succ, Nat.div_div_eq_div_mul, ← Nat.pow_succ]

/-- The leading 54 places of an integer lie between `2 ^ 53` and `2 ^ 54`. -/
theorem leading_places_bounds
    {value : Nat}
    (notZero : value ≠ 0) :
    2 ^ 53 ≤ value * 2 ^ 53 / 2 ^ value.log2 ∧ value * 2 ^ 53 / 2 ^ value.log2 < 2 ^ 54 := by
  constructor
  · rw [Nat.le_div_iff_mul_le (Nat.two_pow_pos _), Nat.mul_comm]
    exact Nat.mul_le_mul_right _ (Nat.log2_self_le notZero)
  · have upper := Nat.lt_log2_self (n := value)
    rw [Nat.pow_succ] at upper
    rw [Nat.div_lt_iff_lt_mul (Nat.two_pow_pos _)]
    omega

/-- An integer of `54 + low` places is rounded to one more place when its leading 54 places
are set. -/
theorem carries_past_iff
    (low : Nat)
    {value : Nat}
    (notZero : value ≠ 0) :
    (low + 2 : Int) ≤
        value.log2 - 52 + (if value * 2 ^ 53 / 2 ^ value.log2 = 2 ^ 54 - 1 then 1 else 0) ↔
      2 ^ (54 + low) - 2 ^ low ≤ value := by
  have limit := Nat.pow_add 2 54 low
  have half := Nat.pow_add 2 53 low
  have positive := Nat.two_pow_pos low
  rcases Nat.lt_trichotomy value.log2 (53 + low) with less | equal | greater
  · have small := (Nat.log2_lt notZero).mp less
    split <;>
      omega
  · have belowLimit := Nat.lt_log2_self (n := value)
    rw [equal, Nat.add_right_comm, limit] at belowLimit
    rw [equal, half, limit, Nat.mul_comm value, Nat.mul_div_mul_left _ _ (Nat.two_pow_pos 53)]
    have fits := (Nat.div_lt_iff_lt_mul positive).mpr belowLimit
    have allSet := Nat.le_div_iff_mul_le (x := 2 ^ 54 - 1) (y := value) positive
    split <;>
      omega
  · have morePlaces : 54 + low ≤ value.log2 := by
      omega
    have atLimit := (Nat.le_log2 notZero).mp morePlaces
    split <;>
      omega

/-- Half a place beyond the largest real, the nearest real becomes infinite. -/
theorem isInf_ofNat_iff
    (value : Nat) :
    (Float.ofNat value).isInf = true ↔ 2 ^ 1024 - 2 ^ 970 ≤ value := by
  rcases Nat.lt_or_ge value (2 ^ 53) with fits | large
  · have belowLimit : 2 ^ 53 ≤ 2 ^ 1024 - 2 ^ 970 := by
      decide +kernel
    rw [isInf_ofNat_of_lt fits]
    exact iff_of_false Bool.false_ne_true (Nat.not_le_of_lt (Nat.lt_of_lt_of_le fits belowLimit))
  · have notZero : value ≠ 0 := by
      omega
    obtain ⟨reached, isShifted⟩ := shifted_integer ((Nat.le_log2 notZero).mpr large)
    obtain ⟨enough, fits⟩ := leading_places_bounds notZero
    rw [ofNat_eq_of_le large]
    change (Float.Model.pack _).isInf = true ↔ _
    rw [isInf_pack_iff, reaches_roundWithAccuracy_iff, reached, isShifted]
    simp only [roundedMantissa_eq_iff fits]
    rw [← carries_past_iff 970 notZero]
    apply and_iff_right
    apply Nat.ne_of_gt
    refine Nat.lt_of_lt_of_le ?_ (roundedMantissa_bounds _).1
    dsimp only
    omega

/-- A value and its negation are both infinite or both not. -/
theorem isInf_neg
    (value : Float) :
    (-value).isInf = value.isInf := by
  rw [Bool.eq_iff_iff]
  change (Float.Model.pack value.toModel.unpack.neg).isInf = true ↔
    (UnpackedFloat.unpack .binary64 _).isInf = true
  rw [isInf_pack_iff, isInf_unpack_iff]
  change Reaches 972 (UnpackedFloat.unpack .binary64 _).neg ↔ _
  cases UnpackedFloat.unpack .binary64 value.toModel.toBits.toBitVec <;>
    rfl

end Numeral

/-- The integers that have no real. -/
theorem Number.realOfInt_eq_error_iff
    (value : Int) :
    Number.realOfInt value = .error .tooLarge ↔ 2 ^ 1024 - 2 ^ 970 ≤ value.natAbs := by
  have isInf_iff : (Float.ofInt value).isInf = true ↔ 2 ^ 1024 - 2 ^ 970 ≤ value.natAbs := by
    cases value with
    | ofNat value =>
        exact Numeral.isInf_ofNat_iff value
    | negSucc value =>
        change (-Float.ofNat (value + 1)).isInf = true ↔ _
        rw [Numeral.isInf_neg, Numeral.isInf_ofNat_iff]
        rfl
  rw [← isInf_iff]
  unfold Number.realOfInt
  dsimp only
  split <;>
    simp [*]

end MissionLint
