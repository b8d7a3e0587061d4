import MissionLint.Proofs.Analysis.Load
import MissionLint.Proofs.Script.ClauseLine
import MissionLint.Proofs.Script.Parenthesis

namespace MissionLint

/-!
# The load of a line of clauses

A line of clauses counts one for each clause that is read of it and one for each connective
in their conditions.  No connective is lost when a clause takes in the next one, but the
clause that is taken in is not counted.  So the line counts what its clauses have, less one
for each clause without a target that is not the last.
-/

namespace LoadCounts

/-- The branching of conditions: one for each and one for each of its connectives. -/
def branching (conditions : List Text) : Nat :=
  (conditions.map fun condition => 1 + (Condition.ofText condition).connectives).foldr (· + ·) 0

/-- A condition adds one, and one for each of its connectives. -/
theorem branching_cons
    (condition : Text)
    (others : List Text) :
    branching (condition :: others) =
      1 + (Condition.ofText condition).connectives + branching others :=
  rfl

end LoadCounts

namespace WhenClause

/-- A condition that takes in another one has the connectives of both. -/
theorem connectives_takenIn
    (condition next : Text) :
    (Condition.ofText (condition ++ ") when(" ++ next)).connectives =
      (Condition.ofText condition).connectives + (Condition.ofText next).connectives := by
  have isText :
      condition ++ ") when(" ++ next =
        condition ++ (')' : CodePoint) :: (" when" ++ ('(' : CodePoint) :: next) := by
    rw [List.append_assoc]
    rfl
  have noConnective : (Condition.ofText (" when" : Text)).connectives = 0 := by
    decide +kernel
  rw [isText, Condition.connectives_append (by decide), Condition.connectives_append (by decide),
    noConnective, Nat.zero_add]

/-- Each clause that is taken in is missing from the branching of a line. -/
theorem branching_readAs
    (clauses : List Written) :
    LoadCounts.branching (readAs clauses) +
        clauses.dropLast.countP (fun clause => clause.target?.isNone) =
      LoadCounts.branching (clauses.map Written.condition) := by
  induction clauses with
  | nil =>
      rfl
  | cons clause rest inductionHypothesis =>
      cases rest with
      | nil =>
          rw [readAs_singleton]
          rfl
      | cons next rest =>
          rw [List.dropLast_cons_cons, List.countP_cons, List.map_cons, LoadCounts.branching_cons,
            ← inductionHypothesis]
          cases isTarget : clause.target? with
          | none =>
              obtain ⟨body, others, isNext⟩ := exists_readAs_cons next rest
              rw [readAs_cons_of_none isTarget isNext, isNext, LoadCounts.branching_cons,
                LoadCounts.branching_cons, connectives_takenIn]
              simp only [Option.isNone_none, if_true]
              omega
          | some target =>
              rw [readAs_cons_of_isSome (by simp [isTarget]), LoadCounts.branching_cons]
              simp only [Option.isNone_some, Bool.false_eq_true, if_false]
              omega

/-- When every clause but the last has a target, each condition is read as it is written. -/
theorem readAs_eq_map_of_targeted
    {clauses : List Written}
    (targeted : ∀ clause ∈ clauses.dropLast, clause.target?.isSome = true) :
    readAs clauses = clauses.map Written.condition := by
  induction clauses with
  | nil =>
      rfl
  | cons clause rest inductionHypothesis =>
      cases rest with
      | nil =>
          exact readAs_singleton clause
      | cons next rest =>
          rw [List.dropLast_cons_cons] at targeted
          have others := inductionHypothesis fun later member =>
            targeted later (List.mem_cons_of_mem clause member)
          rw [readAs_cons_of_isSome (targeted clause List.mem_cons_self), others]
          rfl

/-- A line of clauses is read as its conditions exactly when every clause but the last has a
target: a clause without one takes in the next clause.  In a script the line adds the
branching of its conditions, less one for each clause that is taken in. -/
theorem lineOf_read_as_written_iff
    (clauses : List Written) :
    inCode (lineOf clauses) = readAs clauses ∧
      (inCode (lineOf clauses) = clauses.map Written.condition ↔
        ∀ clause ∈ clauses.dropLast, clause.target?.isSome = true) ∧
      ∀ (before after : List Line) (line : Line),
        (LoadCounts.ofOutline
            (.ofLines (before ++ { line with code := lineOf clauses } :: after))).complexity +
            clauses.dropLast.countP (fun clause => clause.target?.isNone) =
          (LoadCounts.ofOutline (.ofLines (before ++ after))).complexity +
            LoadCounts.branching (clauses.map Written.condition) := by
  have branches := branching_readAs clauses
  refine ⟨inCode_lineOf clauses, ⟨fun asWritten clause member => ?_, fun targeted => ?_⟩,
    fun before after line => ?_⟩
  · rw [← asWritten, inCode_lineOf] at branches
    have noneTakenIn := List.countP_eq_zero.mp (Nat.add_eq_left.mp branches) clause member
    rwa [Option.isNone_iff_eq_none, ← ne_eq, Option.ne_none_iff_isSome] at noneTakenIn
  · rw [inCode_lineOf, readAs_eq_map_of_targeted targeted]
  · have counted :
        LoadCounts.complexityOn (lineOf clauses) = LoadCounts.branching (readAs clauses) := by
      rw [← inCode_lineOf]
      rfl
    simp only [LoadCounts.ofOutline_ofLines, List.map_append, List.map_cons, List.sum_append,
      List.sum_cons, LoadCounts.complexity_add, LoadCounts.ofCode, counted]
    omega

/-- Two clauses without a target are read as one. -/
theorem untargeted_clauses_run_together :
    ∃ clauses : List Written,
      clauses.map Written.condition = ["a", "b"] ∧
        clauses.map Written.target? = [none, none] ∧
        lineOf clauses = "when(a) when(b)" ∧
        inCode (lineOf clauses) = ["a) when(b"] ∧
        LoadCounts.complexityOn (lineOf clauses) = 1 ∧
        LoadCounts.branching (clauses.map Written.condition) = 2 := by
  refine ⟨[⟨"a", none, by decide, by decide, by simp⟩, ⟨"b", none, by decide, by decide, by simp⟩],
    ?_⟩
  decide +kernel

end WhenClause

end MissionLint
