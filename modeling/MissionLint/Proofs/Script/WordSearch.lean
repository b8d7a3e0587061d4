import MissionLint.Proofs.Script.WholeWord

namespace MissionLint

/-!
# The search for whole words

A token is a whole word of a text when it stands at some position with no part of a word
directly before or after it.  A search can also leap from each place where the token stands to
the next one, and ask there whether the token is a whole word.  Places may overlap, and an empty
token stands everywhere up to the end of the text; the leaps miss none of them, and each goes
forward.
-/

namespace Word

/-! ## Positions -/

/-- A token stands in a text at a position. -/
structure StandsIn (token text : Text) (position : Nat) : Prop where
  position_le : position ≤ text.length
  isToken : (text.drop position).take token.length = token

/-- A token stands in a text at a position as a whole word: the character before it is missing
or no part of a word, and so is the character after it. -/
structure IsWholeAt (token text : Text) (position : Nat) : Prop
    extends StandsIn token text position where
  before : ∀ c, 0 < position → text[position - 1]? = some c → isPart c = false
  after : ∀ c, text[position + token.length]? = some c → isPart c = false

/-- A token stands at a position when what is left from there starts with it. -/
theorem standsIn_iff_isPrefixOf
    {token text : Text}
    {position : Nat} :
    StandsIn token text position ↔
      position ≤ text.length ∧ token.isPrefixOf (text.drop position) = true := by
  rw [List.isPrefixOf_iff_prefix, List.prefix_iff_eq_take]
  constructor
  · rintro ⟨inText, isToken⟩
    exact ⟨inText, isToken.symm⟩
  · rintro ⟨inText, isToken⟩
    exact ⟨inText, isToken.symm⟩

/-- What is before and after a token that stands at a position. -/
theorem StandsIn.exists_append
    {token text : Text}
    {position : Nat}
    (stands : StandsIn token text position) :
    ∃ front rest, text = front ++ (token ++ rest) ∧ front.length = position := by
  refine ⟨text.take position, (text.drop position).drop token.length, ?_, ?_⟩
  · have isOnward : token ++ (text.drop position).drop token.length = text.drop position := by
      nth_rewrite 1 [← stands.isToken]
      exact List.take_append_drop _ _
    rw [isOnward, List.take_append_drop]
  · exact List.length_take_of_le stands.position_le

/-- A token is a whole word when no part of a word is next to it. -/
theorem isWholeAt_append_iff
    {front token rest : Text} :
    IsWholeAt token (front ++ (token ++ rest)) front.length ↔ Apart isPart front rest := by
  have stands : StandsIn token (front ++ (token ++ rest)) front.length :=
    ⟨by simp, by simp⟩
  have isAfter : (front ++ (token ++ rest))[front.length + token.length]? = rest.head? := by
    rw [← List.append_assoc, ← List.length_append, List.getElem?_append_right (Nat.le_refl _)]
    simp [List.head?_eq_getElem?]
  have isBefore (inFront : 0 < front.length) :
      (front ++ (token ++ rest))[front.length - 1]? = front.getLast? := by
    rw [List.getElem?_append_left (by omega), List.getLast?_eq_getElem?]
  constructor
  · intro whole
    refine ⟨fun c isLast => ?_, fun c isFirst => ?_⟩
    · have inFront : 0 < front.length := List.length_pos_of_mem (List.mem_of_getLast? isLast)
      exact whole.before c inFront ((isBefore inFront).trans isLast)
    · exact whole.after c (isAfter.trans isFirst)
  · intro apart
    refine ⟨stands, fun c inFront found => ?_, fun c found => ?_⟩
    · exact apart.left c ((isBefore inFront).symm.trans found)
    · exact apart.right c (isAfter.symm.trans found)

/-- A token occurs as a word when it is a whole word somewhere. -/
theorem occursIn_iff_exists_isWholeAt
    {token text : Text} :
    occursIn token text = true ↔ ∃ position, IsWholeAt token text position := by
  rw [occursIn_eq_true_iff]
  constructor
  · rintro ⟨front, rest, rfl, apart⟩
    exact ⟨front.length, isWholeAt_append_iff.mpr apart⟩
  · rintro ⟨position, whole⟩
    obtain ⟨front, rest, rfl, rfl⟩ := whole.toStandsIn.exists_append
    exact ⟨front, rest, rfl, isWholeAt_append_iff.mp whole⟩

/-! ## Leaps -/

/-- The first position, from a given one on, where a token stands. -/
def nextPlace? (token text : Text) (start : Nat) : Option Nat :=
  (List.range' start (text.length + 1 - start)).find? fun position =>
    token.isPrefixOf (text.drop position)

/-- There is no next place when the token stands nowhere further on. -/
theorem nextPlace?_eq_none_iff
    {token text : Text}
    {start : Nat} :
    nextPlace? token text start = none ↔
      ∀ position, start ≤ position → ¬StandsIn token text position := by
  simp only [nextPlace?, List.find?_eq_none, List.mem_range'_1, standsIn_iff_isPrefixOf, not_and]
  constructor
  · intro absent position fromStart inText
    exact absent position ⟨fromStart, by omega⟩
  · rintro absent position ⟨fromStart, inText⟩
    exact absent position fromStart (by omega)

/-- A next place is further on, and the token stands there. -/
theorem standsIn_of_nextPlace?
    {token text : Text}
    {start position : Nat}
    (found : nextPlace? token text start = some position) :
    start ≤ position ∧ StandsIn token text position := by
  have inRange := List.mem_range'_1.mp (List.mem_of_find?_eq_some found)
  have isPlace := List.find?_some found
  exact ⟨inRange.1, standsIn_iff_isPrefixOf.mpr ⟨by omega, isPlace⟩⟩

/-- No place is leapt over. -/
theorem not_standsIn_of_lt_nextPlace?
    {token text : Text}
    {start position between : Nat}
    (found : nextPlace? token text start = some position)
    (fromStart : start ≤ between)
    (less : between < position) :
    ¬StandsIn token text between := by
  rw [nextPlace?, List.find?_range'_eq_some] at found
  intro stands
  have isPlace := (standsIn_iff_isPrefixOf.mp stands).2
  have notPlace := found.2.2 between fromStart less
  rw [isPlace] at notPlace
  cases notPlace

/-- Whether a token is a whole word at one of the places where it stands, from a position on:
the search leaps to the first of them, and goes on behind its first character. -/
def leapsFrom (token text : Text) (start : Nat) : Bool :=
  match found : nextPlace? token text start with
  | none => false
  | some position =>
      if standsAt token (Occurrence.charBefore text position) (text.drop position) then
        true
      else
        leapsFrom token text (position + 1)
termination_by text.length + 1 - start
decreasing_by
  have place := standsIn_of_nextPlace? found
  have inText := place.2.position_le
  omega

/-- Where a token stands, the characters around it decide whether it is a whole word. -/
theorem standsAt_drop_eq_true_iff
    {token text : Text}
    {position : Nat}
    (stands : StandsIn token text position) :
    standsAt token (Occurrence.charBefore text position) (text.drop position) = true ↔
      IsWholeAt token text position := by
  obtain ⟨front, rest, rfl, rfl⟩ := stands.exists_append
  have isBefore :
      Occurrence.charBefore (front ++ (token ++ rest)) front.length = front.getLast? := by
    rw [Occurrence.charBefore]
    cases front with
    | nil =>
        rfl
    | cons first others =>
        rw [if_neg (by simp), List.getElem?_append_left (by simp), List.getLast?_eq_getElem?]
  rw [isWholeAt_append_iff, isBefore, List.drop_left, standsAt_eq_true_iff]
  constructor
  · rintro ⟨after, isAfter, left, right⟩
    rw [List.append_cancel_left isAfter]
    exact ⟨left, right⟩
  · rintro ⟨left, right⟩
    exact ⟨rest, rfl, left, right⟩

/-- The leaping search finds a token that is a whole word somewhere further on: no such place is
leapt over. -/
theorem leapsFrom_eq_true_iff
    {token text : Text}
    {start : Nat} :
    leapsFrom token text start = true ↔
      ∃ position, start ≤ position ∧ IsWholeAt token text position := by
  fun_induction leapsFrom token text start with
  | case1 start noPlace =>
      refine iff_of_false (by simp) ?_
      rintro ⟨position, fromStart, whole⟩
      exact nextPlace?_eq_none_iff.mp noPlace position fromStart whole.toStandsIn
  | case2 start position found isWhole =>
      obtain ⟨fromStart, stands⟩ := standsIn_of_nextPlace? found
      exact iff_of_true rfl ⟨position, fromStart, (standsAt_drop_eq_true_iff stands).mp isWhole⟩
  | case3 start position found notWhole inductionHypothesis =>
      obtain ⟨fromStart, stands⟩ := standsIn_of_nextPlace? found
      rw [inductionHypothesis]
      constructor
      · rintro ⟨later, isLater, whole⟩
        exact ⟨later, by omega, whole⟩
      · rintro ⟨other, otherFromStart, whole⟩
        refine ⟨other, ?_, whole⟩
        rcases Nat.lt_trichotomy other position with less | rfl | greater
        · exact absurd whole.toStandsIn
            (not_standsIn_of_lt_nextPlace? found otherFromStart less)
        · exact absurd ((standsAt_drop_eq_true_iff stands).mpr whole) notWhole
        · exact greater

/-- A token occurs in a text as a whole word exactly when at some position it stands with no
part of a word beside it, and the leaps from place to place find it then. -/
theorem occursIn_is_exact
    (token text : Text) :
    (occursIn token text = true ↔
      ∃ position ≤ text.length,
        (text.drop position).take token.length = token ∧
        (∀ c, 0 < position → text[position - 1]? = some c →
          Text.isAlphanumeric c = false ∧ c ≠ '_') ∧
        ∀ c, text[position + token.length]? = some c →
          Text.isAlphanumeric c = false ∧ c ≠ '_') ∧
    leapsFrom token text 0 = occursIn token text := by
  have notPart {c : CodePoint} :
      isPart c = false ↔ Text.isAlphanumeric c = false ∧ c ≠ '_' := by
    simp [isPart]
  constructor
  · simp only [occursIn_iff_exists_isWholeAt, ← notPart]
    constructor
    · rintro ⟨position, ⟨inText, isToken⟩, before, after⟩
      exact ⟨position, inText, isToken, before, after⟩
    · rintro ⟨position, inText, isToken, before, after⟩
      exact ⟨position, ⟨inText, isToken⟩, before, after⟩
  · rw [Bool.eq_iff_iff, leapsFrom_eq_true_iff, occursIn_iff_exists_isWholeAt]
    simp

end Word

end MissionLint
