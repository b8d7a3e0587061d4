import Mathlib.Data.List.Flatten
import MissionLint.Analysis.Deadlock
import MissionLint.Analysis.Machine
import MissionLint.Proofs.Analysis.ClauseLoad
import MissionLint.Proofs.EventGraph.Nodes
import MissionLint.Proofs.Script.GuardClause

namespace MissionLint

/-!
# Every guard is counted

The edges of a graph, the waits behind deadlock risks and the transitions of machines come
from guards, and the branching of a script is counted over its clauses.  Guards are clauses,
so whatever these analyses see of a guard, its condition is counted, once for each guard.
-/

/-- A guard on a line of a script, with a condition that is counted on that line. -/
structure Outline.CountsGuard (outline : Outline) (line : Line) (guard : Trigger) : Prop where
  inScript : line ∈ outline.lines
  onLine : guard ∈ Trigger.inCode line.code
  isGuard : guard.isGuard = true
  counted : guard.condition ∈ WhenClause.inCode line.code

namespace LoadCounts

/-- The branching of two lists of conditions adds up. -/
theorem branching_append
    (conditions others : List Text) :
    branching (conditions ++ others) = branching conditions + branching others := by
  induction conditions with
  | nil =>
      exact (Nat.zero_add _).symm
  | cons condition rest inductionHypothesis =>
      rw [List.cons_append, branching_cons, inductionHypothesis, branching_cons, Nat.add_assoc _ _
        (branching others)]

/-- The branching of a script is that of all conditions of its clauses. -/
theorem complexity_ofOutline
    (outline : Outline) :
    (ofOutline outline).complexity =
      branching (outline.lines.flatMap fun line => WhenClause.inCode line.code) := by
  have counted (lines : List Line) :
      (lines.map fun line => complexityOn line.code).foldr (· + ·) 0 =
        branching (lines.flatMap fun line => WhenClause.inCode line.code) := by
    induction lines with
    | nil =>
        rfl
    | cons line rest inductionHypothesis =>
        rw [List.map_cons, List.foldr_cons, inductionHypothesis, List.flatMap_cons,
          branching_append]
        rfl
  exact congrArg Nat.cast (counted outline.lines)

end LoadCounts

namespace Outline

/-- The conditions of the guards in some lines are among those of the clauses there. -/
theorem conditions_guards_sublist
    (lines : List Line) :
    ((guards lines).map Trigger.condition).Sublist
      (lines.flatMap fun line => WhenClause.inCode line.code) := by
  rw [guards, List.map_flatMap]
  exact .flatMap_right lines fun line _ => Trigger.conditions_sublist line.code

variable {outline : Outline}

/-- A guard on a line of the script counts there. -/
theorem countsGuard_of_mem
    {line : Line}
    {guard : Trigger}
    (inScript : line ∈ outline.lines)
    (onLine : guard ∈ Trigger.inCode line.code)
    (isGuard : guard.isGuard = true) :
    outline.CountsGuard line guard :=
  ⟨inScript, onLine, isGuard, (Trigger.conditions_sublist line.code).subset
    (List.mem_map_of_mem (List.mem_filter.mpr ⟨onLine, isGuard⟩))⟩

/-- Every guard of a script counts on some line. -/
theorem exists_countsGuard_of_mem_guards
    {guard : Trigger}
    (member : guard ∈ guards outline.lines) :
    ∃ line, outline.CountsGuard line guard := by
  obtain ⟨line, inScript, onLine⟩ := List.mem_flatMap.mp member
  obtain ⟨isTrigger, isGuard⟩ := List.mem_filter.mp onLine
  exact ⟨line, countsGuard_of_mem inScript isTrigger isGuard⟩

end Outline

/-- An edge that a guard makes stands on the line of a guard that is counted. -/
theorem EventGraph.exists_countsGuard_of_edge
    {script : Text}
    {edge : Edge}
    (member : edge ∈ (ofOutline (Outline.ofScript script)).edges)
    (isWhen : edge.kind = .whenTrigger) :
    ∃ line guard, (Outline.ofScript script).CountsGuard line guard ∧
      line.number = edge.line ∧ guard.target = edge.target := by
  rw [edges_ofOutline] at member
  obtain ⟨event, isBlock, refers⟩ := List.mem_flatMap.mp (List.mem_filter.mp member).1
  obtain ⟨_, line, isCommand, isLine, refersOnLine⟩ := mem_referencesOf.mp refers
  have inScript := Outline.mem_lines_of_mem_commands isBlock isCommand
  simp only [references, List.mem_append, List.mem_map, Prod.mk.injEq, isWhen, reduceCtorEq,
    and_false, exists_false, false_or, or_false] at refersOnLine
  obtain ⟨guard, onLine, isTarget, isKind⟩ := refersOnLine
  have isGuard : guard.isGuard = true := by
    rw [ofTrigger_eq] at isKind
    split at isKind
    case isTrue guards =>
      exact guards
    case isFalse =>
      cases isKind
  exact ⟨line, guard, Outline.countsGuard_of_mem inScript onLine isGuard, isLine, isTarget⟩

/-- A transition comes from a guard that is counted. -/
theorem StateMachine.exists_countsGuard_of_transition
    {outline : Outline}
    {name : Text}
    {transitions : List Transition}
    (returns : transitionsOf outline name = .ok transitions)
    {transition : Transition}
    (member : transition ∈ transitions) :
    ∃ line guard, outline.CountsGuard line guard ∧
      transitionOf? outline name guard = .ok (some transition) := by
  obtain ⟨found, isFound, areTransitions⟩ := Outcome.exists_of_bind returns
  cases areTransitions
  obtain ⟨result, isResult, rfl⟩ := List.mem_filterMap.mp member
  obtain ⟨guard, isGuard, isTransition⟩ := (Outcome.mem_mapM_iff isFound).mp isResult
  obtain ⟨line, counts⟩ := Outline.exists_countsGuard_of_mem_guards isGuard
  exact ⟨line, guard, counts, isTransition⟩

/-- Every guard is a clause.  On a line, where the search for triggers finds a guard, the
search for clauses finds one with the same condition, so the conditions of the guards are
among those of the clauses in their order.  In a script, the branching is counted over the
conditions of all clauses, among which are those of the guards on all lines, from which waits
and transitions come, and of the guards on the lines of blocks, from which edges come. -/
theorem guards_are_counted :
    (∀ code : Text,
      (∀ found ∈ Occurrence.search Trigger.read? code, found.value.isGuard = true →
        ∃ clause ∈ Occurrence.search WhenClause.read? code,
          clause.start = found.start ∧ clause.value = found.value.condition) ∧
        (((Trigger.inCode code).filter Trigger.isGuard).map Trigger.condition).Sublist
          (WhenClause.inCode code)) ∧
      ∀ script : Text,
        let outline := Outline.ofScript script
        let counted := outline.lines.flatMap fun line => WhenClause.inCode line.code
        (LoadCounts.ofOutline outline).complexity = LoadCounts.branching counted ∧
          ((Outline.guards outline.lines).map Trigger.condition).Sublist counted ∧
          ((Outline.guards (outline.events.flatMap Event.commands)).map
            Trigger.condition).Sublist counted ∧
          (∀ edge ∈ (EventGraph.ofOutline outline).edges, edge.kind = .whenTrigger →
            ∃ line guard, outline.CountsGuard line guard ∧
              line.number = edge.line ∧ guard.target = edge.target) ∧
          (∀ wait ∈ DeadlockRisk.guardReads outline,
            ∃ line guard, outline.CountsGuard line guard ∧
              wait = (guard.target, DeadlockRisk.readBy guard)) ∧
          ∀ name transitions, StateMachine.transitionsOf outline name = .ok transitions →
            ∀ transition ∈ transitions,
              ∃ line guard, outline.CountsGuard line guard ∧
                StateMachine.transitionOf? outline name guard = .ok (some transition) := by
  refine ⟨fun code => ⟨fun found isFound isGuard => ?_, Trigger.conditions_sublist code⟩,
    fun script => ⟨LoadCounts.complexity_ofOutline _, ?_, ?_, ?_, ?_, ?_⟩⟩
  · exact Trigger.exists_clause_at isFound isGuard
  · exact Outline.conditions_guards_sublist _
  · exact (Outline.conditions_guards_sublist _).trans ((Outline.commands_sublist script).flatMap _)
  · intro edge member isWhen
    exact EventGraph.exists_countsGuard_of_edge member isWhen
  · intro wait member
    obtain ⟨guard, isGuard, rfl⟩ := List.mem_map.mp member
    obtain ⟨line, counts⟩ := Outline.exists_countsGuard_of_mem_guards isGuard
    exact ⟨line, guard, counts, rfl⟩
  · intro name transitions returns transition member
    exact StateMachine.exists_countsGuard_of_transition returns member

/-- A trigger covers a clause, and after it a guard takes in another clause. -/
theorem guards_are_counted_among_nested_clauses :
    let code : Text := "if(when(a))[T] when(b) when(c)[U]"
    let guard : Occurrence Trigger := ⟨15, 18, ⟨.onWhen, "b) when(c", "U"⟩⟩
    guard ∈ Occurrence.search Trigger.read? code ∧
      guard.value.isGuard = true ∧
      WhenClause.inCode code = ["a)", "b) when(c"] ∧
      ∃ clause ∈ Occurrence.search WhenClause.read? code,
        clause.start = 15 ∧ clause.value = "b) when(c" := by
  intro code guard
  have isFound : guard ∈ Occurrence.search Trigger.read? code := by
    decide +kernel
  have areClauses : WhenClause.inCode code = ["a)", "b) when(c"] := by
    decide +kernel
  exact ⟨isFound, rfl, areClauses, (guards_are_counted.1 code).1 guard isFound rfl⟩

end MissionLint
