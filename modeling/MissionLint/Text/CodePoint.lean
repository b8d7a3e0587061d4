namespace MissionLint

/-!
# Code points

Texts are made of code points.  Nearly all of them are characters.  The others
are surrogates, which stand for a character only in pairs: an escape in a
document can spell one alone, and a text keeps it as it is.  Code points are
numbered without gaps, and they are ordered by their numbers.
-/

/-- Whether a number is that of a surrogate: half of a pair of UTF-16 units. -/
def isSurrogate (unit : Nat) : Bool :=
  0xd800 ≤ unit && unit < 0xe000

/-- A surrogate that stands alone. -/
structure Surrogate where
  unit : Nat
  isHalf : isSurrogate unit = true
  deriving Repr, DecidableEq

/-- A code point. -/
inductive CodePoint where
  | character (c : Char)
  | surrogate (half : Surrogate)
  deriving Repr, DecidableEq

/-- A character is a code point. -/
instance : Coe Char CodePoint := ⟨CodePoint.character⟩

namespace CodePoint

/-- The number of a code point. -/
def toNat : CodePoint → Nat
  | .character c => c.toNat
  | .surrogate half => half.unit

/-- The code point with a number.  Numbers beyond the last one give the null
character. -/
def ofNat (number : Nat) : CodePoint :=
  if isHalf : isSurrogate number = true then
    .surrogate ⟨number, isHalf⟩
  else
    .character (Char.ofNat number)

/-- Code points are hashed by number. -/
instance : Hashable CodePoint := ⟨fun point => hash point.toNat⟩

/-- Code points are ordered by number. -/
instance : LT CodePoint := ⟨fun left right => left.toNat < right.toNat⟩

instance (left right : CodePoint) : Decidable (left < right) :=
  inferInstanceAs (Decidable (left.toNat < right.toNat))

/-- Whether a code point is a character with a property. -/
def satisfies (holds : Char → Bool) : CodePoint → Bool
  | .character c => holds c
  | .surrogate _ => false

/-- Whether a code point is an ASCII letter. -/
def isAlpha : CodePoint → Bool :=
  satisfies Char.isAlpha

/-- Whether a code point is an ASCII digit. -/
def isDigit : CodePoint → Bool :=
  satisfies Char.isDigit

/-- Whether a code point is an ASCII letter or an ASCII digit. -/
def isAlphanum : CodePoint → Bool :=
  satisfies Char.isAlphanum

/-- Lower an ASCII letter. -/
def toLower : CodePoint → CodePoint
  | .character c => .character c.toLower
  | .surrogate half => .surrogate half

/-- Raise an ASCII letter. -/
def toUpper : CodePoint → CodePoint
  | .character c => .character c.toUpper
  | .surrogate half => .surrogate half

/-- Whether a unit is the first of a surrogate pair. -/
def isHighSurrogate (unit : Nat) : Bool :=
  0xd800 ≤ unit && unit < 0xdc00

/-- Whether a unit is the second of a surrogate pair. -/
def isLowSurrogate (unit : Nat) : Bool :=
  0xdc00 ≤ unit && unit < 0xe000

/-- The character of a surrogate pair. -/
def ofPair (high low : Nat) : CodePoint :=
  .ofNat (0x10000 + (high - 0xd800) * 0x400 + (low - 0xdc00))

/-- The UTF-16 units of a code point: a pair beyond the first plane. -/
def units (point : CodePoint) : List Nat :=
  if point.toNat < 0x10000 then
    [point.toNat]
  else
    let offset := point.toNat - 0x10000
    [0xd800 + offset / 0x400, 0xdc00 + offset % 0x400]

/-- No character has the number of a surrogate. -/
theorem isSurrogate_toNat_character (c : Char) : isSurrogate c.toNat = false := by
  have valid : c.toNat.isValidChar := c.valid
  simp only [Nat.isValidChar] at valid
  simp only [isSurrogate, Bool.and_eq_false_iff, decide_eq_false_iff_not]
  omega

/-- A code point is found again by its number. -/
theorem ofNat_toNat (point : CodePoint) : ofNat point.toNat = point := by
  cases point with
  | character c =>
      simp [ofNat, toNat, isSurrogate_toNat_character]
  | surrogate half =>
      simp [ofNat, toNat, half.isHalf]

/-- Every number up to the last one belongs to a code point. -/
theorem toNat_ofNat
    {number : Nat}
    (inRange : number < 0x110000) :
    (ofNat number).toNat = number := by
  by_cases isHalf : isSurrogate number = true
  · simp [ofNat, isHalf, toNat]
  · have valid : number.isValidChar := by
      simp only [isSurrogate, Bool.and_eq_true, decide_eq_true_eq] at isHalf
      simp only [Nat.isValidChar]
      omega
    have isCharacter : ofNat number = .character (Char.ofNat number) :=
      dif_neg isHalf
    have isAux : Char.ofNat number = Char.ofNatAux number valid :=
      dif_pos valid
    rw [isCharacter, isAux]
    rfl

end CodePoint

end MissionLint
