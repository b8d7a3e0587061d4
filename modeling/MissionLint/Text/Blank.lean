import MissionLint.Text.CodePoint

namespace MissionLint

/-!
# Blank characters

Three classes of blanks, each contained in the next: the space and the tab that
may stand between the parts of a command, the spacing characters that separate
the parts of a condition, and the blanks that are stripped from the ends of a
text.  Only the last class has the four information separators.
-/

namespace Text

/-- The space and the tab. -/
def isIndent (c : CodePoint) : Bool :=
  c == ' ' || c == '\t'

/-- Spacing ranges, ascending, both ends included. -/
def spacingRanges : List (Nat × Nat) := [
  (0x09, 0x0d), (0x20, 0x20), (0x85, 0x85), (0xa0, 0xa0), (0x1680, 0x1680),
  (0x2000, 0x200a), (0x2028, 0x2029), (0x202f, 0x202f), (0x205f, 0x205f),
  (0x3000, 0x3000)
]

/-- Whether a character separates the parts of a condition. -/
def isSpacing (c : CodePoint) : Bool :=
  spacingRanges.any fun range =>
    range.1 ≤ c.toNat && c.toNat ≤ range.2

/-- Whether a character is stripped from the ends of a text. -/
def isBlank (c : CodePoint) : Bool :=
  isSpacing c || (0x1c ≤ c.toNat && c.toNat ≤ 0x1f)

/-- Every indent is spacing. -/
theorem isSpacing_of_isIndent
    {c : CodePoint}
    (indent : isIndent c = true) :
    isSpacing c = true := by
  simp only [isIndent, Bool.or_eq_true, beq_iff_eq] at indent
  rcases indent with isSpace | isTab
  · subst isSpace
    rfl
  · subst isTab
    rfl

/-- Every spacing character is blank. -/
theorem isBlank_of_isSpacing
    {c : CodePoint}
    (spacing : isSpacing c = true) :
    isBlank c = true := by
  simp [isBlank, spacing]

end Text

end MissionLint
