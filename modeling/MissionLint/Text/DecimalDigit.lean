import MissionLint.Text.CodePoint

namespace MissionLint

/-!
# Decimal digits

Every script's decimal digits form runs of ten consecutive characters, zero
first, so a digit's value is its distance from the zero of its run.  The runs of
some younger scripts are digits to a reader of scripts, but no number is known
for them: such a digit has no value.
-/

namespace Text

/-- The zero of each run of ten decimal digits with a value, ascending. -/
def decimalZeros : List Nat := [
  0x30, 0x660, 0x6f0, 0x7c0, 0x966, 0x9e6, 0xa66, 0xae6,
  0xb66, 0xbe6, 0xc66, 0xce6, 0xd66, 0xde6, 0xe50, 0xed0,
  0xf20, 0x1040, 0x1090, 0x17e0, 0x1810, 0x1946, 0x19d0, 0x1a80,
  0x1a90, 0x1b50, 0x1bb0, 0x1c40, 0x1c50, 0xa620, 0xa8d0, 0xa900,
  0xa9d0, 0xa9f0, 0xaa50, 0xabf0, 0xff10, 0x104a0, 0x10d30, 0x11066,
  0x110f0, 0x11136, 0x111d0, 0x112f0, 0x11450, 0x114d0, 0x11650, 0x116c0,
  0x11730, 0x118e0, 0x11950, 0x11c50, 0x11d50, 0x11da0, 0x16a60, 0x16ac0,
  0x16b50, 0x1d7ce, 0x1d7d8, 0x1d7e2, 0x1d7ec, 0x1d7f6, 0x1e140, 0x1e2f0,
  0x1e950, 0x1fbf0
]

/-- The zero of each run of ten digits without a value, ascending. -/
def valuelessZeros : List Nat := [
  0x10d40, 0x116d0, 0x116da, 0x11bf0, 0x11de0, 0x11f50, 0x16130, 0x16d70,
  0x1ccf0, 0x1e4f0, 0x1e5f1
]

/-- The zero of the run to which a character belongs. -/
def zeroOf? (zeros : List Nat) (c : CodePoint) : Option Nat :=
  zeros.find? fun start => start ≤ c.toNat && c.toNat < start + 10

/-- The value of a decimal digit of any script. -/
def digitValue? (c : CodePoint) : Option Nat :=
  (zeroOf? decimalZeros c).map fun start => c.toNat - start

/-- Whether a character is a decimal digit with a value. -/
def isDecimalDigit (c : CodePoint) : Bool :=
  (digitValue? c).isSome

/-- Whether a character is a digit of some script, with or without a value. -/
def isAnyDigit (c : CodePoint) : Bool :=
  isDecimalDigit c || (zeroOf? valuelessZeros c).isSome

end Text

end MissionLint
