import MissionLint.Proofs.Script.Shape

namespace MissionLint

/-!
# Texts on one line

A text without a line break stays on one line.  What messages are made of has none: names,
numbers, quoted texts, and comments as names.  So texts on one line that are joined by line
breaks can be counted by these.
-/

namespace Text

/-- A text has no line break. -/
def OneLine (text : Text) : Prop :=
  ('\n' : CodePoint) ∉ text

/-- Whether a text is one line can be decided. -/
instance (text : Text) : Decidable text.OneLine :=
  inferInstanceAs (Decidable (('\n' : CodePoint) ∉ text))

/-! ## Composed texts -/

/-- The empty text is one line. -/
@[simp] theorem oneLine_nil : OneLine [] :=
  List.not_mem_nil

/-- A line break anywhere makes a text more than one line. -/
@[simp] theorem oneLine_cons_iff
    {c : CodePoint}
    {rest : Text} :
    OneLine (c :: rest) ↔ c ≠ '\n' ∧ OneLine rest := by
  simp [OneLine, eq_comm]

/-- One text after another is one line when both are. -/
@[simp] theorem oneLine_append_iff
    {front back : Text} :
    OneLine (front ++ back) ↔ OneLine front ∧ OneLine back := by
  simp [OneLine]

/-- Two texts of one line, one after the other, are one line. -/
theorem OneLine.append
    {front back : Text}
    (frontOneLine : OneLine front)
    (backOneLine : OneLine back) :
    OneLine (front ++ back) :=
  oneLine_append_iff.mpr ⟨frontOneLine, backOneLine⟩

/-- A literal is looked at character by character, without decoding it. -/
theorem oneLine_literal
    {characters : List Char}
    (oneLine : '\n' ∉ characters) :
    OneLine (String.ofList characters) := by
  simpa [OneLine, ofString, ofCharacters] using oneLine

/-- Texts of one line, one after the other, are one line. -/
theorem oneLine_flatMap
    {part : α → Text}
    (oneLine : ∀ item, OneLine (part item))
    (items : List α) :
    OneLine (items.flatMap part) := by
  intro member
  obtain ⟨item, _, inPart⟩ := List.mem_flatMap.mp member
  exact oneLine item inPart

/-- Joined texts are one line when they and the separator are. -/
theorem oneLine_join
    {separator : Text}
    (separates : OneLine separator)
    {parts : List Text}
    (oneLine : ∀ part ∈ parts, OneLine part) :
    OneLine (join separator parts) := by
  intro member
  rcases mem_join member with inSeparator | ⟨part, isPart, inPart⟩
  · exact separates inSeparator
  · exact oneLine part isPart inPart

/-- Between texts on one line there is one line break fewer than there are texts. -/
theorem count_join_lines
    {parts : List Text}
    (oneLine : ∀ part ∈ parts, OneLine part) :
    (join "\n" parts).count ('\n' : CodePoint) = parts.length - 1 := by
  rw [join]
  induction parts with
  | nil =>
      rfl
  | cons part rest inductionHypothesis =>
      obtain ⟨first, others⟩ := List.forall_mem_cons.mp oneLine
      cases rest with
      | nil =>
          rw [List.intercalate_singleton]
          exact List.count_eq_zero.mpr first
      | cons next later =>
          have breaks : ("\n" : Text).count ('\n' : CodePoint) = 1 := by
            decide
          rw [List.intercalate_cons_cons, List.count_append, List.count_append,
            List.count_eq_zero.mpr first, breaks, inductionHypothesis others]
          simp only [List.length_cons]
          omega

/-! ## Names and numbers -/

/-- A name is one line. -/
theorem oneLine_of_isName
    {name : Text}
    (named : isName name = true) :
    OneLine name :=
  not_mem_of_isName named (by decide)

/-- Digits are one line. -/
theorem oneLine_toDigits
    {base : Nat}
    (atLeastTwo : 1 < base)
    (n : Nat) :
    OneLine (ofCharacters (Nat.toDigits base n)) := by
  have oneDigit (digit : Nat) : OneLine (ofCharacters [Nat.digitChar digit]) := by
    simp [ofCharacters]
  induction n using Nat.strongRecOn with
  | ind n inductionHypothesis =>
      by_cases fits : n < base
      · rw [Nat.toDigits_of_lt_base fits]
        exact oneDigit n
      · have smaller : n / base < n := Nat.div_lt_self (by omega) atLeastTwo
        rw [Nat.toDigits_of_base_le atLeastTwo (by omega), ofCharacters, List.map_append,
          oneLine_append_iff]
        exact ⟨inductionHypothesis _ smaller, oneDigit _⟩

/-- A written number is one line. -/
@[simp] theorem oneLine_ofNat
    (n : Nat) :
    OneLine (ofNat n) :=
  oneLine_toDigits (by decide) n

/-- A written integer is one line. -/
@[simp] theorem oneLine_ofInt
    (n : Int) :
    OneLine (ofInt n) := by
  unfold ofInt
  split
  · simp
  · exact oneLine_ofNat _

/-! ## Quoted texts -/

/-- A character that is escaped by its code is one line. -/
theorem oneLine_escapedByCode
    (c : CodePoint) :
    OneLine (escapedByCode c) := by
  have oneLine (width : Nat) : OneLine (hexDigits width c.toNat) := by
    rw [hexDigits, oneLine_append_iff]
    refine ⟨fun member => ?_, oneLine_toDigits (by decide) _⟩
    cases List.eq_of_mem_replicate member
  unfold escapedByCode
  split
  · exact .append (oneLine_literal (by decide)) (oneLine 2)
  · split
    · exact .append (oneLine_literal (by decide)) (oneLine 4)
    · exact .append (oneLine_literal (by decide)) (oneLine 8)

/-- A quoted text shows a line break by its escape. -/
theorem oneLine_quotedCharacter
    {quote : CodePoint}
    (visible : quote ≠ '\n')
    (c : CodePoint) :
    OneLine (quotedCharacter quote c) := by
  unfold quotedCharacter
  split
  case isTrue isMark =>
    rw [Bool.or_eq_true, beq_iff_eq, beq_iff_eq] at isMark
    rcases isMark with rfl | rfl
    · decide
    · simp [visible]
  case isFalse =>
    split
    · decide
    case isFalse notBreak =>
      split
      · decide
      · split
        · decide
        · split
          · simpa using notBreak
          · exact oneLine_escapedByCode c

/-- A quoted text is one line, as line breaks are escaped. -/
@[simp] theorem oneLine_quoted
    (text : Text) :
    OneLine (quoted text) := by
  have visible : quoteMark text ≠ '\n' := by
    unfold quoteMark
    split <;>
      decide
  rw [quoted, List.cons_append, oneLine_cons_iff, oneLine_append_iff]
  exact ⟨visible, oneLine_flatMap (oneLine_quotedCharacter visible) text, by simp [visible]⟩

/-! ## Words -/

/-- A part has no character that divides. -/
theorem not_mem_of_mem_splitOnP
    {divides : CodePoint → Bool}
    {text part : Text}
    (isPart : part ∈ text.splitOnP divides)
    {c : CodePoint}
    (member : c ∈ part) :
    divides c = false := by
  induction text generalizing part with
  | nil =>
      rw [List.splitOnP_nil, List.mem_singleton] at isPart
      rw [isPart] at member
      cases member
  | cons first rest inductionHypothesis =>
      rw [List.splitOnP_cons_eq_if_modifyHead] at isPart
      split at isPart
      · rcases List.mem_cons.mp isPart with rfl | isLater
        · cases member
        · exact inductionHypothesis isLater member
      case isFalse goesOn =>
        obtain ⟨head, others, areParts⟩ :=
          List.exists_cons_of_ne_nil (List.splitOnP_ne_nil divides rest)
        rw [areParts] at isPart inductionHypothesis
        rcases List.mem_cons.mp isPart with rfl | isLater
        · rcases List.mem_cons.mp member with rfl | inHead
          · simpa using goesOn
          · exact inductionHypothesis List.mem_cons_self inHead
        · exact inductionHypothesis (List.mem_cons_of_mem head isLater) member

/-- A word is one line. -/
theorem oneLine_of_mem_words
    {text word : Text}
    (isWord : word ∈ words text) :
    OneLine word := by
  intro member
  have visible := not_mem_of_mem_splitOnP (List.mem_filter.mp isWord).1 member
  cases visible

end Text

end MissionLint
