import MissionLint.Proofs.Checker.Steps

namespace MissionLint

/-!
# The evidence of the standard checkers

Each standard checker gathers its evidence from the outline and the settings alone.
-/

namespace Checker

/-- It is enough to look at checkers that leave the context as it is when they
collect. -/
theorem gathers_of_keeps
    {checker : Checker}
    {gather : Outline → Settings → Except Failure checker.Evidence}
    (collect_error : ∀ context failure,
      gather context.outline context.settings = .error failure →
      checker.collect context (checker.configure context checker.initial) = .error failure)
    (collect_ok : ∀ context evidence,
      gather context.outline context.settings = .ok evidence →
      ∃ log,
        checker.collect context (checker.configure context checker.initial) =
          .ok ⟨evidence, context, log⟩)
    (diagnose_eq : ∀ base analyses evidence,
      checker.diagnose { base with analyses := analyses } evidence =
        checker.diagnose base evidence) :
    checker.Gathers gather where
  collect_error := by
    rintro base _ failure ⟨analyses, rfl, _⟩ failed
    exact collect_error _ failure failed
  collect_ok := by
    rintro base context evidence shares gathered
    obtain ⟨analyses, rfl, _⟩ := id shares
    obtain ⟨log, collects⟩ := collect_ok { base with analyses := analyses } evidence gathered
    exact ⟨_, log, shares, collects⟩
  diagnose_eq := by
    rintro base _ evidence ⟨analyses, rfl, _⟩
    exact diagnose_eq base analyses evidence

/-- The checker of repeated events looks at the blocks. -/
theorem gathers_duplicateEvents :
    duplicateEvents.Gathers fun outline _ => .ok outline.repeatedEvents :=
  gathers_of_keeps
    (fun _ _ failed => nomatch failed)
    (fun _ _ gathered => by
      cases gathered
      exact ⟨_, rfl⟩)
    (fun _ _ _ => rfl)

/-- The checker of undefined targets looks at the event graph. -/
theorem gathers_undefinedTargets :
    undefinedTargets.Gathers fun outline _ =>
      .ok (EventGraph.ofOutline outline).undefinedTargets where
  collect_error _ failed := nomatch failed
  collect_ok := by
    intro base context evidence shares gathered
    cases gathered
    obtain ⟨isGraph, kept⟩ := shares.eventGraph
    refine ⟨context.eventGraph.2.1, context.eventGraph.2.2, kept, ?_⟩
    rw [← isGraph]
    rfl
  diagnose_eq _ := rfl

/-- The checker of locks looks at the locks and at the threshold for shared cooldowns. -/
theorem gathers_locks :
    locks.Gathers fun outline settings =>
      ((LockPattern.find outline).mapError .numeral).map fun patterns =>
        ⟨patterns, settings.sharedCooldownThreshold⟩ := by
  apply gathers_of_keeps
  · intro context failure failed
    simp only [locks]
    cases found : LockPattern.find context.outline <;>
      rw [found] at failed <;>
      cases failed
    rfl
  · intro context evidence gathered
    simp only [locks]
    cases found : LockPattern.find context.outline <;>
      rw [found] at gathered <;>
      cases gathered
    exact ⟨_, rfl⟩
  · intro base analyses evidence
    rfl

/-- The checker of state machines looks at the machines, with the names that the settings give. -/
theorem gathers_stateMachines :
    stateMachines.Gathers fun outline settings =>
      (StateMachine.find outline settings.stateNames).mapError .numeral := by
  apply gathers_of_keeps
  · intro context failure failed
    simp only [stateMachines]
    cases found : StateMachine.find context.outline context.settings.stateNames <;>
      rw [found] at failed <;>
      cases failed
    rfl
  · intro context evidence gathered
    simp only [stateMachines]
    cases found : StateMachine.find context.outline context.settings.stateNames <;>
      rw [found] at gathered <;>
      cases gathered
    exact ⟨_, rfl⟩
  · intro base analyses evidence
    rfl

/-- The checker of resources looks at the flows, and fails when a balance cannot be written. -/
theorem gathers_resourceFlows :
    resourceFlows.Gathers fun outline _ =>
      ((ResourceFlow.find outline).bind fun flows =>
        (ResourceFlow.balanceReport flows).map fun _ => flows).mapError .numeral := by
  apply gathers_of_keeps
  · intro context failure failed
    simp only [resourceFlows]
    cases found : ResourceFlow.find context.outline with
    | error fault =>
        rw [found] at failed
        cases failed
        rfl
    | ok flows =>
        rw [found] at failed
        simp only [Except.bind] at failed
        cases reported : ResourceFlow.balanceReport flows <;>
          rw [reported] at failed <;>
          cases failed
        change ((ResourceFlow.balanceReport flows).mapError Failure.numeral).bind _ = _
        rw [reported]
        rfl
  · intro context evidence gathered
    simp only [resourceFlows]
    cases found : ResourceFlow.find context.outline with
    | error fault =>
        rw [found] at gathered
        cases gathered
    | ok flows =>
        rw [found] at gathered
        simp only [Except.bind] at gathered
        cases reported : ResourceFlow.balanceReport flows <;>
          rw [reported] at gathered <;>
          cases gathered
        change ∃ _, ((ResourceFlow.balanceReport flows).mapError Failure.numeral).bind _ = _
        rw [reported]
        exact ⟨_, rfl⟩
  · intro base analyses evidence
    rfl

/-- The checker of the load looks at the load.  It leaves this in the context, and the event
graph stays as it is. -/
theorem gathers_loads :
    loads.Gathers fun outline settings =>
      ((LoadMetrics.ofOutline settings outline).mapError .overflow).map some where
  collect_error := by
    rintro base _ failure ⟨analyses, rfl, _⟩ failed
    simp only [loads]
    cases found : LoadMetrics.ofOutline base.settings base.outline <;>
      rw [found] at failed <;>
      cases failed
    rfl
  collect_ok := by
    rintro base _ evidence ⟨analyses, rfl, exact⟩ gathered
    simp only [loads]
    cases found : LoadMetrics.ofOutline base.settings base.outline <;>
      rw [found] at gathered <;>
      cases gathered
    exact ⟨_, _, ⟨{ analyses with load := some _ }, rfl, exact⟩, rfl⟩
  diagnose_eq := by
    rintro base _ evidence ⟨analyses, rfl, _⟩
    rfl

/-- The checker of cycles looks at the cycles of the event graph. -/
theorem gathers_circularDependencies :
    circularDependencies.Gathers fun outline _ =>
      .ok (EventGraph.ofOutline outline).cycles where
  collect_error _ failed := nomatch failed
  collect_ok := by
    intro base context evidence shares gathered
    cases gathered
    obtain ⟨isGraph, kept⟩ := shares.eventGraph
    rw [← isGraph]
    exact ⟨context.eventGraph.2.1, _, kept, rfl⟩
  diagnose_eq _ := rfl

/-- The checker of deadlocks looks at the risks. -/
theorem gathers_deadlocks :
    deadlocks.Gathers fun outline _ => .ok (DeadlockRisk.find outline) :=
  gathers_of_keeps
    (fun _ _ failed => nomatch failed)
    (fun _ _ gathered => by
      cases gathered
      exact ⟨_, rfl⟩)
    (fun _ _ _ => rfl)

/-- Every standard checker gathers its evidence from the outline and the settings. -/
theorem exists_gathers_of_mem_standard
    {checker : Checker}
    (isStandard : checker ∈ standard) :
    ∃ gather, checker.Gathers gather := by
  simp only [standard, List.mem_cons, List.not_mem_nil, or_false] at isStandard
  rcases isStandard with rfl | rfl | rfl | rfl | rfl | rfl | rfl | rfl
  · exact ⟨_, gathers_duplicateEvents⟩
  · exact ⟨_, gathers_undefinedTargets⟩
  · exact ⟨_, gathers_locks⟩
  · exact ⟨_, gathers_stateMachines⟩
  · exact ⟨_, gathers_resourceFlows⟩
  · exact ⟨_, gathers_loads⟩
  · exact ⟨_, gathers_circularDependencies⟩
  · exact ⟨_, gathers_deadlocks⟩

end Checker

end MissionLint
