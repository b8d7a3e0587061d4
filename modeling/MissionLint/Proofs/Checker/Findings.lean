import MissionLint.Proofs.Checker.Standard

namespace MissionLint

/-!
# The findings of the standard checkers

Each finding has an id that its checker declares, and stands at the start of a line that the
evidence names.
-/

/-- A finding has one of some ids and stands at the start of a line. -/
structure Finding.At (finding : Finding) (ids : List Text) (line : Nat) : Prop where
  id_mem : finding.id ∈ ids
  line_eq : finding.line = line
  column_eq : finding.column = 0

namespace Checker

section Findings

variable {context : Context} {finding : Finding}

/-- A finding about a repeated event stands where a repeated block starts. -/
theorem exists_of_mem_repeatFindings
    {repeated : List Event}
    (member : finding ∈ (duplicateEvents.diagnose context repeated).findings) :
    ∃ event ∈ repeated, finding.At duplicateEvents.ids event.start := by
  obtain ⟨event, isRepeated, rfl⟩ := List.mem_map.mp member
  exact ⟨event, isRepeated, List.mem_cons_self, rfl, rfl⟩

/-- A finding about an undefined target stands on the line of its edge. -/
theorem exists_of_mem_targetFindings
    {dangling : List Edge}
    (member : finding ∈ (undefinedTargets.diagnose context dangling).findings) :
    ∃ edge ∈ dangling, finding.At undefinedTargets.ids edge.line := by
  obtain ⟨edge, isDangling, rfl⟩ := List.mem_map.mp member
  exact ⟨edge, isDangling, List.mem_cons_self, rfl, rfl⟩

/-- A finding about locks stands on the line of a lock. -/
theorem exists_of_mem_lockFindings
    {evidence : LockEvidence}
    (member : finding ∈ (locks.diagnose context evidence).findings) :
    ∃ pattern ∈ evidence.patterns, finding.At locks.ids pattern.line := by
  obtain ⟨pattern, isPattern, isFinding⟩ := List.mem_flatMap.mp member
  rcases List.mem_cons.mp isFinding with rfl | isShared
  · exact ⟨pattern, isPattern, List.mem_cons_self, rfl, rfl⟩
  · split at isShared
    · rw [List.mem_singleton.mp isShared]
      exact ⟨pattern, isPattern, List.mem_cons_of_mem _ List.mem_cons_self, rfl, rfl⟩
    · cases isShared

/-- A finding about a state machine stands on the line of the machine. -/
theorem exists_of_mem_machineFindings
    {machines : List StateMachine}
    (member : finding ∈ (stateMachines.diagnose context machines).findings) :
    ∃ machine ∈ machines,
      finding.At stateMachines.ids (machineLine context.outline machine) := by
  obtain ⟨machine, isMachine, isFinding⟩ := List.mem_flatMap.mp member
  refine ⟨machine, isMachine, ?_⟩
  simp only [machineFindings, List.cons_append, List.nil_append, List.mem_cons,
    List.mem_append, List.mem_map] at isFinding
  rcases isFinding with rfl | ⟨state, _, rfl⟩ | ⟨state, _, rfl⟩
  · exact ⟨by simp [machineFinding, stateMachines], rfl, rfl⟩
  · exact ⟨by simp [unreachableFinding, stateFinding, stateMachines], rfl, rfl⟩
  · exact ⟨by simp [deadEndFinding, stateFinding, stateMachines], rfl, rfl⟩

/-- The line on which the objectives for a resource start, or zero when there are none. -/
def sinkLine (flow : ResourceFlow) : Nat :=
  (flow.sinks.head?.map ResourceAmount.line).getD 0

/-- A resource without sinks is not reported to be without sources. -/
theorem at_of_mem_flowFindings
    {flow : ResourceFlow}
    (member : finding ∈ flowFindings flow) :
    finding.At resourceFlows.ids (sinkLine flow) ∧
      (flow.sinks = [] → finding.id = "negativeResourceBalance") := by
  unfold flowFindings at member
  rcases List.mem_append.mp member with isNegative | isSourceless
  · split at isNegative
    · rw [List.mem_singleton.mp isNegative]
      exact ⟨⟨List.mem_cons_self, rfl, rfl⟩, fun _ => rfl⟩
    · cases isNegative
  · split at isSourceless
    case isTrue sourceless =>
      rw [List.mem_singleton.mp isSourceless]
      refine ⟨⟨List.mem_cons_of_mem _ List.mem_cons_self, rfl, rfl⟩, ?_⟩
      intro noSinks
      simp [noSinks] at sourceless
    case isFalse =>
      cases isSourceless

/-- The load is that of the whole script. -/
theorem at_of_mem_loadFindings
    {metrics : Option LoadMetrics}
    (member : finding ∈ (loads.diagnose context metrics).findings) :
    finding.At loads.ids 0 := by
  obtain ⟨measured, _, isFinding⟩ := List.mem_flatMap.mp member
  unfold loadFindings at isFinding
  rcases List.mem_append.mp isFinding with isHeavy | isHint
  · split at isHeavy
    · rw [List.mem_singleton.mp isHeavy]
      exact ⟨List.mem_cons_self, rfl, rfl⟩
    · rw [List.mem_singleton.mp isHeavy]
      exact ⟨List.mem_cons_self, rfl, rfl⟩
    · cases isHeavy
  · obtain ⟨hint, _, rfl⟩ := List.mem_map.mp isHint
    exact ⟨List.mem_cons_of_mem _ List.mem_cons_self, rfl, rfl⟩

/-- A finding about a cycle stands on the line that closes it. -/
theorem exists_of_mem_cycleFindings
    {cycles : List Cycle}
    (member : finding ∈ (circularDependencies.diagnose context cycles).findings) :
    ∃ cycle ∈ cycles, finding.At circularDependencies.ids cycle.line := by
  obtain ⟨cycle, isCycle, rfl⟩ := List.mem_map.mp member
  exact ⟨cycle, isCycle, List.mem_cons_self, rfl, rfl⟩

/-- A finding about a deadlock stands where the first event of the risk opens. -/
theorem exists_of_mem_riskFindings
    {risks : List DeadlockRisk}
    (member : finding ∈ (deadlocks.diagnose context risks).findings) :
    ∃ risk ∈ risks, finding.At deadlocks.ids risk.line := by
  obtain ⟨risk, isRisk, rfl⟩ := List.mem_map.mp member
  exact ⟨risk, isRisk, List.mem_cons_self, rfl, rfl⟩

/-- A standard checker finds only what it declares. -/
theorem exists_at_of_mem_findings
    {checker : Checker}
    (isStandard : checker ∈ standard)
    {evidence : checker.Evidence}
    (member : finding ∈ (checker.diagnose context evidence).findings) :
    ∃ line, finding.At checker.ids line := by
  simp only [standard, List.mem_cons, List.not_mem_nil, or_false] at isStandard
  rcases isStandard with rfl | rfl | rfl | rfl | rfl | rfl | rfl | rfl
  · obtain ⟨_, _, placed⟩ := exists_of_mem_repeatFindings member
    exact ⟨_, placed⟩
  · obtain ⟨_, _, placed⟩ := exists_of_mem_targetFindings member
    exact ⟨_, placed⟩
  · obtain ⟨_, _, placed⟩ := exists_of_mem_lockFindings member
    exact ⟨_, placed⟩
  · obtain ⟨_, _, placed⟩ := exists_of_mem_machineFindings member
    exact ⟨_, placed⟩
  · obtain ⟨flow, _, isFinding⟩ := List.mem_flatMap.mp member
    exact ⟨sinkLine flow, (at_of_mem_flowFindings isFinding).1⟩
  · exact ⟨0, at_of_mem_loadFindings member⟩
  · obtain ⟨_, _, placed⟩ := exists_of_mem_cycleFindings member
    exact ⟨_, placed⟩
  · obtain ⟨_, _, placed⟩ := exists_of_mem_riskFindings member
    exact ⟨_, placed⟩

end Findings

end Checker

end MissionLint
