import MissionLint.Proofs.Script.Accounting
import MissionLint.Proofs.Script.Tail

namespace MissionLint

/-!
# Conditions on both sides of a parenthesis

A parenthesis ends every name, number and comparison before it, and is part of none after
it.  So the connectives of a text are those before the parenthesis and those after it.
-/

namespace Occurrence

variable {read? : Reader Value}

/-- A scan goes on in a tail that no name reaches into.  What it finds before the tail
changes only as the reader sees the tail. -/
theorem scanFrom_append
    {tail : Text}
    {change : Value → Value}
    (ends : ∀ c ∈ tail.head?, Text.isNameChar c = false)
    (reads : ∀ text,
      read? (text ++ tail) =
        (read? text).map fun (value, rest) => (change value, rest ++ tail))
    (position : Nat)
    (text : Text) :
    scanFrom read? position (text ++ tail) =
      (scanFrom read? position text).map
          (fun occurrence => { occurrence with value := change occurrence.value }) ++
        scanFrom read? (position + text.length) tail := by
  fun_induction scanFrom read? position text with
  | case1 =>
      rfl
  | case2 position c rest starts value remaining isRead width step inductionHypothesis =>
      have readsMore :
          read? (c :: (rest ++ tail)) = some (change value, remaining ++ tail) := by
        have both := reads (c :: rest)
        rw [isRead] at both
        exact both
      have sameWidth : (c :: (rest ++ tail)).length - (remaining ++ tail).length = width := by
        simp only [width, List.length_append, List.length_cons]
        omega
      have inText : step ≤ rest.length := by
        simp only [step, width, List.length_cons]
        omega
      have sameEnd :
          position + step + 1 + (rest.drop step).length = position + (c :: rest).length := by
        simp only [List.length_drop, List.length_cons]
        omega
      rw [List.cons_append, scanFrom, if_pos starts, readsMore]
      simp only [sameWidth]
      rw [List.drop_append_of_le_length inText, inductionHypothesis, sameEnd]
      rfl
  | case3 position c rest starts unread step inductionHypothesis =>
      have readsNoMore : read? (c :: (rest ++ tail)) = none := by
        have both := reads (c :: rest)
        rw [unread] at both
        exact both
      have inText : step ≤ rest.length :=
        (List.takeWhile_prefix _).length_le
      have sameEnd :
          position + step + 1 + (rest.drop step).length = position + (c :: rest).length := by
        simp only [List.length_drop, List.length_cons]
        omega
      rw [List.cons_append, scanFrom, if_pos starts, readsNoMore]
      simp only [Reader.takeWhile_append_tail ends]
      rw [List.drop_append_of_le_length inText, inductionHypothesis, sameEnd]
  | case4 position c rest noStart inductionHypothesis =>
      have sameEnd : position + 1 + rest.length = position + (c :: rest).length := by
        simp only [List.length_cons]
        omega
      rw [List.cons_append, scanFrom, if_neg noStart, inductionHypothesis, sameEnd]

end Occurrence

namespace Identifier

/-- The identifier when a character comes after the text in which it stands. -/
def followedBy (mark : CodePoint) (identifier : Identifier) : Identifier :=
  { identifier with next := identifier.next.or (some mark) }

/-- An identifier outside all comparisons is a side of none. -/
theorem isSide_eq_false
    {comparisons : List (Occurrence Comparison)}
    {identifier : Occurrence Identifier}
    (apart : ∀ comparison ∈ comparisons,
      identifier.start < comparison.start ∨ comparison.stop ≤ identifier.start) :
    isSide comparisons identifier = false := by
  refine List.any_eq_false.mpr fun comparison member => ?_
  have := apart comparison member
  simp only [Bool.and_eq_true, decide_eq_true_eq]
  omega

/-- Comparisons that do not reach over a position have no sides beyond it, so connectives
are counted on each side of the position. -/
theorem countP_isConnective_append
    {position : Nat}
    {before after : List (Occurrence Identifier)}
    {comparisonsBefore comparisonsAfter : List (Occurrence Comparison)}
    (isBefore : ∀ identifier ∈ before, identifier.start < position)
    (endsBefore : ∀ comparison ∈ comparisonsBefore, comparison.stop ≤ position)
    (isAfter : ∀ identifier ∈ after, position ≤ identifier.start)
    (startsAfter : ∀ comparison ∈ comparisonsAfter, position ≤ comparison.start) :
    (before ++ after).countP (isConnective (comparisonsBefore ++ comparisonsAfter)) =
      before.countP (isConnective comparisonsBefore) +
        after.countP (isConnective comparisonsAfter) := by
  rw [List.countP_append]
  congr 1
  · refine List.countP_congr fun identifier member => ?_
    have noneAfter : isSide comparisonsAfter identifier = false :=
      isSide_eq_false fun comparison isComparison =>
        .inl (Nat.lt_of_lt_of_le (isBefore identifier member) (startsAfter comparison isComparison))
    have sameSides :
        isSide (comparisonsBefore ++ comparisonsAfter) identifier =
          isSide comparisonsBefore identifier := by
      rw [isSide, List.any_append, ← isSide, ← isSide, noneAfter, Bool.or_false]
    rw [isConnective, isConnective, sameSides]
  · refine List.countP_congr fun identifier member => ?_
    have noneBefore : isSide comparisonsBefore identifier = false :=
      isSide_eq_false fun comparison isComparison =>
        .inr (Nat.le_trans (endsBefore comparison isComparison) (isAfter identifier member))
    have sameSides :
        isSide (comparisonsBefore ++ comparisonsAfter) identifier =
          isSide comparisonsAfter identifier := by
      rw [isSide, List.any_append, ← isSide, ← isSide, noneBefore, Bool.false_or]
    rw [isConnective, isConnective, sameSides]

end Identifier

/-- Both parentheses. -/
def Text.parentheses : Text := "()"

section Parenthesis

variable {mark : CodePoint}
  (isParenthesis : mark ∈ Text.parentheses)
  (right : Text)

include isParenthesis

/-- What holds of the parentheses holds of the first character after a text that a
parenthesis follows. -/
theorem Text.head_of_parenthesis
    {holds : CodePoint → Prop}
    (ofParentheses : ∀ c ∈ Text.parentheses, holds c) :
    ∀ c ∈ (mark :: right).head?, holds c := by
  intro c isHead
  cases isHead
  exact ofParentheses mark isParenthesis

/-- A comparison is read alike when a parenthesis follows. -/
theorem Comparison.ignores_read? :
    Reader.Ignores (mark :: right) Comparison.read? := by
  have ignoresName : Reader.Ignores (mark :: right) Reader.name? :=
    Reader.ignores_name? (Text.head_of_parenthesis isParenthesis right (by decide))
  have ignoresOperator : Reader.Ignores (mark :: right) Operator.read? :=
    Reader.ignores_word? (Text.head_of_parenthesis isParenthesis right (by decide))
  have ignoresNumber : Reader.Ignores (mark :: right) (Reader.signed? Reader.decimal?) :=
    Reader.ignores_signed? (Text.head_of_parenthesis isParenthesis right (by decide))
      (Reader.ignores_decimal? (Text.head_of_parenthesis isParenthesis right (by decide))
        (Text.head_of_parenthesis isParenthesis right (by decide)))
  have skips (text : Text) :
      Reader.skipIndent (text ++ mark :: right) = Reader.skipIndent text ++ mark :: right :=
    Reader.dropWhile_append_tail
      (Text.head_of_parenthesis isParenthesis right (by decide)) text
  have ignoresRight : Reader.Ignores (mark :: right) Comparison.readRight? := by
    intro text
    simp only [Comparison.readRight?, ignoresNumber text, ignoresName text]
    cases Reader.signed? Reader.decimal? text <;>
      rfl
  intro text
  simp only [Comparison.read?, ignoresName text]
  rcases Reader.name? text with _ | ⟨left, afterLeft⟩
  · rfl
  simp only [Option.map_some, Option.bind_eq_bind, Option.bind_some, skips, ignoresOperator _]
  rcases Operator.read? (Reader.skipIndent afterLeft) with _ | ⟨operator, afterOperator⟩
  · rfl
  simp only [Option.map_some, Option.bind_some, skips, ignoresRight _]
  cases Comparison.readRight? (Reader.skipIndent afterOperator) <;>
    rfl

/-- An identifier before a parenthesis is read with it as the character after it, unless
another one comes between. -/
theorem Identifier.read?_append
    (text : Text) :
    Identifier.read? (text ++ mark :: right) =
      (Identifier.read? text).map fun (identifier, rest) =>
        (identifier.followedBy mark, rest ++ mark :: right) := by
  have ignoresName : Reader.Ignores (mark :: right) Reader.name? :=
    Reader.ignores_name? (Text.head_of_parenthesis isParenthesis right (by decide))
  simp only [Identifier.read?, ignoresName text]
  rcases Reader.name? text with _ | ⟨name, rest⟩
  · rfl
  · simp [Identifier.followedBy]

omit right in
/-- A parenthesis after a word does not continue it. -/
theorem Identifier.isLogic_followedBy
    (identifier : Identifier) :
    (identifier.followedBy mark).isLogic = identifier.isLogic := by
  have noWordCharacter : ∀ c ∈ Text.parentheses, Text.isWordCharacter c = false := by
    decide
  obtain ⟨name, _ | c⟩ := identifier
  · simp [Identifier.isLogic, Identifier.followedBy, noWordCharacter mark isParenthesis]
  · rfl

/-- A scan goes on after a parenthesis. -/
theorem Occurrence.scanFrom_parenthesis
    {read? : Reader Value}
    {change : Value → Value}
    (reads : ∀ text,
      read? (text ++ mark :: right) =
        (read? text).map fun (value, rest) => (change value, rest ++ mark :: right))
    (left : Text) :
    scanFrom read? 0 (left ++ mark :: right) =
      (scanFrom read? 0 left).map
          (fun occurrence => { occurrence with value := change occurrence.value }) ++
        scanFrom read? (left.length + 1) right := by
  have noNameStart : ∀ c ∈ Text.parentheses, Text.isNameStart c = false := by
    decide
  have skips :
      scanFrom read? left.length (mark :: right) = scanFrom read? (left.length + 1) right := by
    rw [scanFrom, noNameStart mark isParenthesis]
    rfl
  rw [scanFrom_append (Text.head_of_parenthesis isParenthesis right (by decide)) reads,
    Nat.zero_add, skips]

/-- The connectives of a text are those before a parenthesis in it and those after it. -/
theorem Condition.connectives_append
    (left : Text) :
    (ofText (left ++ mark :: right)).connectives =
      (ofText left).connectives + (ofText right).connectives := by
  have comparisons :
      Occurrence.scanFrom Comparison.read? 0 (left ++ mark :: right) =
        Occurrence.scanFrom Comparison.read? 0 left ++
          Occurrence.scanFrom Comparison.read? (left.length + 1) right := by
    have reads (text : Text) :
        Comparison.read? (text ++ mark :: right) =
          (Comparison.read? text).map fun (comparison, rest) =>
            (id comparison, rest ++ mark :: right) :=
      Comparison.ignores_read? isParenthesis right text
    rw [Occurrence.scanFrom_parenthesis isParenthesis right reads]
    simp
  have identifiers :=
    Occurrence.scanFrom_parenthesis isParenthesis right
      (Identifier.read?_append isParenthesis right) left
  have sameConnectives (found : List (Occurrence Comparison)) :
      (Identifier.isConnective found ∘ fun identifier =>
          { identifier with value := identifier.value.followedBy mark }) =
        Identifier.isConnective found := by
    funext identifier
    simp only [Function.comp_apply, Identifier.isConnective,
      Identifier.isLogic_followedBy isParenthesis]
    rfl
  have bounds {Value : Type} {read? : Reader Value} (occurrence)
      (member : occurrence ∈ Occurrence.scanFrom read? 0 left) :
      occurrence.start < left.length ∧ occurrence.stop ≤ left.length := by
    have inLeft := Occurrence.bounds_of_mem_scanFrom occurrence member
    omega
  have starts {Value : Type} {read? : Reader Value} (occurrence)
      (member : occurrence ∈ Occurrence.scanFrom read? (left.length + 1) right) :
      left.length ≤ occurrence.start :=
    Nat.le_of_succ_le (Occurrence.bounds_of_mem_scanFrom occurrence member).1
  have isBefore : ∀ identifier ∈ (Occurrence.scanFrom Identifier.read? 0 left).map
      (fun identifier => { identifier with value := identifier.value.followedBy mark }),
      identifier.start < left.length := by
    intro identifier member
    obtain ⟨original, isOriginal, rfl⟩ := List.mem_map.mp member
    exact (bounds original isOriginal).1
  rw [(accounts_ofText (left ++ mark :: right) 0).connectives_eq,
    (accounts_ofText left 0).connectives_eq,
    (accounts_ofText right (left.length + 1)).connectives_eq, comparisons, identifiers,
    Identifier.countP_isConnective_append isBefore (fun found member => (bounds found member).2)
      starts starts,
    List.countP_map, sameConnectives]

end Parenthesis

end MissionLint
