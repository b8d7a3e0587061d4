import MissionLint.Proofs.Script.Tail

namespace MissionLint

/-!
# Carriage returns at the end of a line

A line is read without the carriage returns at its end.  They would change none of
its triggers: a trigger ends in a bracket, and its parts are read alike whether or
not carriage returns follow.
-/

section Returns

variable {tail : Text}
  (returns : ∀ c ∈ tail, c = '\r')

include returns

/-- What holds of a carriage return holds of the first character of the tail. -/
theorem Reader.head_of_returns
    {holds : CodePoint → Prop}
    (ofReturn : holds '\r') :
    ∀ c ∈ tail.head?, holds c := by
  intro c isHead
  rw [returns c (List.mem_of_mem_head? isHead)]
  exact ofReturn

/-- Carriage returns alone are all condition. -/
theorem Trigger.readCondition_returns :
    readCondition tail = (tail, []) := by
  induction tail with
  | nil =>
      rfl
  | cons c rest inductionHypothesis =>
      have others := inductionHypothesis fun later member =>
        returns later (List.mem_cons_of_mem c member)
      rw [returns c List.mem_cons_self, readCondition, others]
      rfl

/-- Carriage returns at the end are left where the condition ends, and are part of it where it
does not. -/
theorem Trigger.readCondition_append_returns
    (text : Text) :
    readCondition (text ++ tail) =
      match readCondition text with
      | (condition, []) => (condition ++ tail, [])
      | (condition, rest) => (condition, rest ++ tail) := by
  have noBracket : (Reader.skipSpacing tail).head? ≠ some ('[' : CodePoint) := by
    have nothing : Reader.skipSpacing tail = [] := by
      refine List.dropWhile_eq_nil_iff.mpr fun c member => ?_
      rw [returns c member]
      rfl
    simp [nothing]
  induction text with
  | nil =>
      exact readCondition_returns returns
  | cons c rest inductionHypothesis =>
      rw [List.cons_append, readCondition, readCondition, ← List.cons_append,
        endsCondition_append noBracket]
      split
      · rfl
      · rw [inductionHypothesis]
        rcases readCondition rest with ⟨condition, _ | ⟨next, others⟩⟩ <;>
          rfl

/-- A trigger is read alike when carriage returns follow. -/
theorem Trigger.ignores_read? :
    Reader.Ignores tail Trigger.read? := by
  intro text
  have skips : ∀ text : Text,
      (text ++ tail).dropWhile Text.isIndent = text.dropWhile Text.isIndent ++ tail :=
    Reader.dropWhile_append_tail (Reader.head_of_returns returns (by decide))
  have reads {expected : Text} (absent : ('\r' : CodePoint) ∉ expected) (text : Text) :
      Reader.literal? expected (text ++ tail) = (Reader.literal? expected text).map (· ++ tail) :=
    Reader.literal?_append_tail (Reader.head_of_returns returns absent) text
  have ignoresWord : Reader.Ignores tail TriggerWord.read? :=
    Reader.ignores_word? (Reader.head_of_returns returns (by decide))
  have ignoresName : Reader.Ignores tail Reader.name? :=
    Reader.ignores_name? (Reader.head_of_returns returns (by decide))
  simp only [read?, ignoresWord text]
  rcases TriggerWord.read? text with _ | ⟨word, afterWord⟩
  · rfl
  simp only [Option.map_some, Option.bind_eq_bind, Option.bind_some, Reader.skipIndent, skips]
  rw [reads (by decide)]
  rcases Reader.literal? "(" (afterWord.dropWhile Text.isIndent) with _ | afterParenthesis
  · rfl
  simp only [Option.map_some, Option.bind_some, readCondition_append_returns returns]
  rcases readCondition afterParenthesis with ⟨condition, _ | ⟨c, rest⟩⟩
  · rfl
  simp only
  rw [reads (by decide)]
  rcases Reader.literal? ")" (c :: rest) with _ | afterCondition
  · rfl
  simp only [Option.map_some, Option.bind_some, skips]
  rw [reads (by decide)]
  rcases Reader.literal? "[" (afterCondition.dropWhile Text.isIndent) with _ | afterBracket
  · rfl
  simp only [Option.map_some, Option.bind_some, skips]
  rw [ignoresName]
  rcases Reader.name? (afterBracket.dropWhile Text.isIndent) with _ | ⟨target, afterTarget⟩
  · rfl
  simp only [Option.map_some, Option.bind_some, skips]
  rw [reads (by decide)]
  rcases Reader.literal? "]" (afterTarget.dropWhile Text.isIndent) with _ | remaining <;>
    rfl

/-- Carriage returns at the end of a line do not change its triggers. -/
theorem Trigger.inCode_append_returns
    (code : Text) :
    inCode (code ++ tail) = inCode code := by
  have unread : ∀ rest, rest <:+ tail → read? rest = none := by
    intro rest isSuffix
    cases reads : read? rest with
    | none =>
        rfl
    | some result =>
        have isReturn := returns _ (isSuffix.subset (parenthesis_mem_of_read? reads))
        cases isReturn
  simp only [inCode, Occurrence.values, Occurrence.search,
    Occurrence.searchFrom_append (ignores_read? returns), Occurrence.searchFrom_eq_nil unread,
    List.append_nil]

end Returns

end MissionLint
