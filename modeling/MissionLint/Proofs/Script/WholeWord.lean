import MissionLint.Proofs.Script.Identifier
import MissionLint.Proofs.Script.Leftmost
import MissionLint.Proofs.Script.WholeLine

namespace MissionLint

/-!
# Whole words and names

A word is bounded by characters that are neither letters nor numerals of any script, while a
name is bounded by anything that no name has.  So a name in a text is a whole word, unless a
letter or a numeral outside ASCII stands directly beside it.
-/

namespace Word

/-! ## Where words stand -/

/-- What stands between two texts has no neighbour that belongs to a class. -/
structure Apart (belongs : CodePoint → Bool) (before after : Text) : Prop where
  left : ∀ c ∈ before.getLast?, belongs c = false
  right : ∀ c ∈ after.head?, belongs c = false

/-- A token stands in front of a text when no part of a word is before or after it. -/
theorem standsAt_eq_true_iff
    {token text : Text}
    {before : Option CodePoint} :
    standsAt token before text = true ↔
      ∃ after, text = token ++ after ∧ (∀ c ∈ before, isPart c = false) ∧
        ∀ c ∈ after.head?, isPart c = false := by
  simp only [standsAt, Bool.and_eq_true, Bool.not_eq_true', Option.any_eq_false,
    List.isPrefixOf_iff_prefix]
  constructor
  · rintro ⟨⟨⟨after, rfl⟩, fresh⟩, ends⟩
    rw [List.drop_left] at ends
    exact ⟨after, rfl, by simpa using fresh, by simpa using ends⟩
  · rintro ⟨after, rfl, fresh, ends⟩
    rw [List.drop_left]
    exact ⟨⟨List.prefix_append token after, by simpa using fresh⟩, by simpa using ends⟩

/-- A token occurs as a whole word in the rest of a text when it stands somewhere in it, apart
from the parts of words. -/
theorem occursAfter_eq_true_iff
    {token text : Text}
    {before : Option CodePoint} :
    occursAfter token before text = true ↔
      ∃ front after, text = front ++ (token ++ after) ∧
        (∀ c ∈ front.getLast?.or before, isPart c = false) ∧
        ∀ c ∈ after.head?, isPart c = false := by
  induction text generalizing before with
  | nil =>
      rw [occursAfter, standsAt_eq_true_iff]
      constructor
      · rintro ⟨after, isNil, fresh, ends⟩
        exact ⟨[], after, isNil, by simpa using fresh, ends⟩
      · rintro ⟨front, after, isNil, fresh, ends⟩
        obtain ⟨rfl, isToken⟩ := List.append_eq_nil_iff.mp isNil.symm
        exact ⟨after, isToken.symm, by simpa using fresh, ends⟩
  | cons c rest inductionHypothesis =>
      rw [occursAfter, Bool.or_eq_true, standsAt_eq_true_iff, inductionHypothesis]
      constructor
      · rintro (⟨after, isText, fresh, ends⟩ | ⟨front, after, rfl, fresh, ends⟩)
        · exact ⟨[], after, isText, by simpa using fresh, ends⟩
        · exact ⟨c :: front, after, rfl, by rwa [Occurrence.getLast?_cons_or], ends⟩
      · rintro ⟨front, after, isText, fresh, ends⟩
        cases front with
        | nil =>
            exact .inl ⟨after, isText, by simpa using fresh, ends⟩
        | cons first others =>
            obtain ⟨rfl, isRest⟩ := List.cons.inj isText
            rw [Occurrence.getLast?_cons_or] at fresh
            exact .inr ⟨others, after, isRest, fresh, ends⟩

/-- A token occurs in a text when it stands somewhere in it. -/
theorem occursIn_eq_true_iff
    {token text : Text} :
    occursIn token text = true ↔
      ∃ before after, text = before ++ (token ++ after) ∧ Apart isPart before after := by
  rw [occursIn, occursAfter_eq_true_iff]
  simp only [Option.or_none]
  constructor
  · rintro ⟨before, after, isText, fresh, ends⟩
    exact ⟨before, after, isText, fresh, ends⟩
  · rintro ⟨before, after, isText, fresh, ends⟩
    exact ⟨before, after, isText, fresh, ends⟩

/-! ## Names among words -/

/-- Whether a character is a letter or a numeral that no name has. -/
def isForeign (c : CodePoint) : Bool :=
  Text.isAlphanumeric c && !Text.isNameChar c

/-- The parts of words are the characters of names and the foreign ones. -/
theorem isPart_eq
    (c : CodePoint) :
    isPart c = (Text.isNameChar c || isForeign c) := by
  cases named : Text.isNameChar c with
  | true =>
      rw [isPart, Text.isAlphanumeric, if_pos (Text.isAscii_of_isNameChar named)]
      exact named
  | false =>
      have noUnderscore : (c == '_') = false := (Bool.or_eq_false_iff.mp named).2
      simp [isPart, isForeign, named, noUnderscore]

/-- A word is apart from others when no character of a name and no foreign one is next to it. -/
theorem apart_isPart_iff
    {before after : Text} :
    Apart isPart before after ↔
      Apart Text.isNameChar before after ∧ Apart isForeign before after := by
  have separates {side : Option CodePoint} :
      (∀ c ∈ side, isPart c = false) ↔
        (∀ c ∈ side, Text.isNameChar c = false) ∧ ∀ c ∈ side, isForeign c = false := by
    simp only [isPart_eq, Bool.or_eq_false_iff, imp_and, forall_and]
  constructor
  · rintro ⟨left, right⟩
    exact ⟨⟨(separates.mp left).1, (separates.mp right).1⟩,
      ⟨(separates.mp left).2, (separates.mp right).2⟩⟩
  · rintro ⟨⟨left, right⟩, ⟨foreignLeft, foreignRight⟩⟩
    exact ⟨separates.mpr ⟨left, foreignLeft⟩, separates.mpr ⟨right, foreignRight⟩⟩

/-- A name stands in a text with no letter or numeral outside ASCII beside it. -/
def StandsClear (name code : Text) : Prop :=
  ∃ before after, code = before ++ (name ++ after) ∧
    Apart Text.isNameChar before after ∧ Apart isForeign before after

/-- A token occurs in a text when it stands clear in it. -/
theorem occursIn_iff_standsClear
    {token text : Text} :
    occursIn token text = true ↔ StandsClear token text := by
  rw [occursIn_eq_true_iff, StandsClear]
  simp only [apart_isPart_iff]

/-- The only word in a name is the name itself. -/
theorem occursIn_name_iff
    {name token : Text}
    (named : Text.isName name = true) :
    occursIn token name = true ↔ token = name := by
  have nothingBeside {side : Option CodePoint}
      (inName : ∀ c ∈ side, c ∈ name)
      (apart : ∀ c ∈ side, isPart c = false) :
      side = none := by
    refine Option.eq_none_iff_forall_not_mem.mpr fun c isBeside => ?_
    have notPart := apart c isBeside
    rw [isPart_eq, Text.isNameChar_of_isName named (inName c isBeside), Bool.true_or] at notPart
    cases notPart
  rw [occursIn_eq_true_iff]
  constructor
  · rintro ⟨before, after, rfl, apart⟩
    have nothingBefore : before = [] := by
      refine List.getLast?_eq_none_iff.mp (nothingBeside (fun c isLast => ?_) apart.left)
      exact List.mem_append_left _ (List.mem_of_getLast? isLast)
    have nothingAfter : after = [] := by
      refine List.head?_eq_none_iff.mp (nothingBeside (fun c isFirst => ?_) apart.right)
      exact List.mem_append_right _ (List.mem_append_right _ (List.mem_of_mem_head? isFirst))
    simp [nothingBefore, nothingAfter]
  · rintro rfl
    exact ⟨[], [], by simp, by simp, by simp⟩

end Word

namespace Assignment

/-- No part of a word follows the name in an assignment. -/
theorem exists_of_read?
    {text rest : Text}
    {assignment : Assignment}
    (reads : read? text = some (assignment, rest)) :
    ∃ after, text = assignment.name ++ after ∧ ∀ c ∈ after.head?, Word.isPart c = false := by
  simp only [read?, Option.bind_eq_bind, Option.bind_eq_some_iff, Prod.exists] at reads
  obtain ⟨name, afterName, readsName, afterColon, readsColon, isFound⟩ := reads
  cases isFound
  refine ⟨afterName, (Reader.eq_append_of_name? readsName).1, ?_⟩
  obtain ⟨indent, indented, isAfter⟩ := Reader.exists_indent afterName
  rw [isAfter, (Reader.notDoubled?_eq_some_iff.mp readsColon).1]
  cases indent with
  | nil =>
      rintro _ ⟨⟩
      decide
  | cons first others =>
      rintro _ ⟨⟩
      have isIndent := indented first List.mem_cons_self
      simp only [Text.isIndent, Bool.or_eq_true, beq_iff_eq] at isIndent
      rcases isIndent with rfl | rfl <;>
        decide

/-- What is assigned to is a whole word, unless a letter or a numeral outside ASCII stands
directly before it. -/
theorem standsClear_of_mem_search
    {code : Text}
    {place : Occurrence Assignment}
    (found : place ∈ Occurrence.search read? code)
    (noForeign : ∀ c ∈ (code.take place.start).getLast?, Word.isForeign c = false) :
    Word.StandsClear place.value.name code := by
  have leftmost : Occurrence.LeftmostFrom read? code 0 (Occurrence.search read? code) :=
    (Occurrence.leftmostFrom_iff (fun _ => leavesEnd_read?) rfl rfl).mpr rfl
  obtain ⟨after, isOnward, ends⟩ := exists_of_read? (leftmost.reads place found)
  have noName : ∀ c ∈ (code.take place.start).getLast?, Text.isNameChar c = false := by
    intro c isLast
    rw [List.getLast?_take] at isLast
    rcases (leftmost.onBoundaries place found).fresh with atStart | ⟨before, isBefore, noName⟩
    · simp [atStart] at isLast
    · split at isLast
      · cases isLast
      · rw [isBefore, Option.some_or] at isLast
        cases isLast
        exact noName
  have noPart : Word.Apart Word.isPart (code.take place.start) after := by
    refine ⟨fun c isLast => ?_, ends⟩
    rw [Word.isPart_eq, noName c isLast, noForeign c isLast]
    rfl
  refine ⟨code.take place.start, after, ?_, Word.apart_isPart_iff.mp noPart⟩
  rw [← isOnward, List.take_append_drop]

end Assignment

end MissionLint
