import MissionLint.Proofs.Checker.Independence

namespace MissionLint

/-!
# The checkers of a run

A run reads the ids that the settings suppress and selects its checkers, and each of these
then reports on its own.  Only the first two steps can end it.  What a checker finds does not
depend on what is suppressed.
-/

/-- A context with other suppressions, which the settings may name or not. -/
def Context.suppressing
    (context : Context)
    (ids : Data)
    (suppressions : Suppressions) :
    Context :=
  { context with
    settings := { context.settings with suppressedIds := ids }
    suppressions := suppressions }

/-- A checker finds the same whatever is suppressed, when its evidence and what it makes of
that are the same. -/
theorem Checker.Gathers.assess_suppressing
    {checker : Checker}
    {gather : Outline → Settings → Except Failure checker.Evidence}
    (gathers : checker.Gathers gather)
    {context : Context}
    (fresh : context.analyses.eventGraph = none)
    {ids : Data}
    {suppressions : Suppressions}
    (sameEvidence :
      gather context.outline { context.settings with suppressedIds := ids } =
        gather context.outline context.settings)
    (sameFindings : ∀ evidence,
      checker.diagnose (context.suppressing ids suppressions) evidence =
        checker.diagnose context evidence) :
    checker.assess (context.suppressing ids suppressions) = checker.assess context := by
  have suppressing_fresh :
      (context.suppressing ids suppressions).analyses.eventGraph = none := fresh
  rw [gathers.assess_eq (Context.shares_self suppressing_fresh),
    gathers.assess_eq (Context.shares_self fresh)]
  simp only [sameFindings]
  rw [← sameEvidence]
  rfl

/-- What a standard checker assesses does not depend on what is suppressed. -/
theorem Checker.assess_suppressing_of_mem_standard
    {checker : Checker}
    (isStandard : checker ∈ standard)
    {context : Context}
    (fresh : context.analyses.eventGraph = none)
    (ids : Data)
    (suppressions : Suppressions) :
    checker.assess (context.suppressing ids suppressions) = checker.assess context := by
  simp only [standard, List.mem_cons, List.not_mem_nil, or_false] at isStandard
  rcases isStandard with rfl | rfl | rfl | rfl | rfl | rfl | rfl | rfl
  · exact gathers_duplicateEvents.assess_suppressing fresh rfl fun _ => rfl
  · exact gathers_undefinedTargets.assess_suppressing fresh rfl fun _ => rfl
  · exact gathers_locks.assess_suppressing fresh rfl fun _ => rfl
  · exact gathers_stateMachines.assess_suppressing fresh rfl fun _ => rfl
  · exact gathers_resourceFlows.assess_suppressing fresh rfl fun _ => rfl
  · exact gathers_loads.assess_suppressing fresh rfl fun _ => rfl
  · exact gathers_circularDependencies.assess_suppressing fresh rfl fun _ => rfl
  · exact gathers_deadlocks.assess_suppressing fresh rfl fun _ => rfl

namespace Run

variable {settings : Settings} {checkers : List Checker}

/-- Selecting goes on when it is known whether the first checker is disabled. -/
theorem notDisabled_cons_eq_ok_iff
    {first : Checker}
    {rest kept : List Checker} :
    notDisabled settings (first :: rest) = .ok kept ↔
      ∃ isDisabled others,
        settings.disables first.name = .ok isDisabled ∧
          notDisabled settings rest = .ok others ∧
          kept = if isDisabled then others else first :: others := by
  rw [notDisabled]
  constructor
  · intro returns
    cases disabled : settings.disables first.name with
    | error failure =>
        rw [disabled] at returns
        cases returns
    | ok isDisabled =>
        cases areOthers : notDisabled settings rest with
        | error failure =>
            rw [disabled, areOthers] at returns
            cases returns
        | ok others =>
            rw [disabled, areOthers] at returns
            cases returns
            exact ⟨isDisabled, others, rfl, rfl, rfl⟩
  · rintro ⟨isDisabled, others, disabled, areOthers, rfl⟩
    rw [disabled, areOthers]
    rfl

/-- The checkers that are kept are those that the settings do not disable. -/
theorem mem_notDisabled_iff
    {kept : List Checker}
    (returns : notDisabled settings checkers = .ok kept)
    {checker : Checker} :
    checker ∈ kept ↔ checker ∈ checkers ∧ settings.disables checker.name = .ok false := by
  induction checkers generalizing kept with
  | nil =>
      cases returns
      simp
  | cons first rest inductionHypothesis =>
      obtain ⟨isDisabled, others, disabled, areOthers, rfl⟩ :=
        notDisabled_cons_eq_ok_iff.mp returns
      have isOther := inductionHypothesis areOthers
      cases isDisabled with
      | true =>
          simp only [if_true, isOther, List.mem_cons]
          constructor
          · rintro ⟨member, enabled⟩
            exact ⟨.inr member, enabled⟩
          · rintro ⟨rfl | member, enabled⟩
            · cases disabled.symm.trans enabled
            · exact ⟨member, enabled⟩
      | false =>
          simp only [Bool.false_eq_true, if_false, List.mem_cons, isOther]
          constructor
          · rintro (rfl | ⟨member, enabled⟩)
            · exact ⟨.inl rfl, disabled⟩
            · exact ⟨.inr member, enabled⟩
          · rintro ⟨rfl | member, enabled⟩
            · exact .inl rfl
            · exact .inr ⟨member, enabled⟩

/-- Only checkers of the registry are selected. -/
theorem mem_checkers_of_select
    {registry : Registry}
    {names : Option (List Text)}
    (selected : (select registry settings names).2 = .ok checkers)
    {checker : Checker}
    (member : checker ∈ checkers) :
    checker ∈ registry.checkers := by
  cases names with
  | none =>
      have isEnabled := ((mem_notDisabled_iff selected).mp member).1
      exact (List.mem_filter.mp isEnabled).1
  | some names =>
      simp only [select, selectNamed_eq] at selected
      cases selected
      obtain ⟨name, _, found⟩ := List.mem_filterMap.mp member
      exact List.mem_of_find?_eq_some found

/-- What some checkers report, each in a context of its own. -/
def resultsOf (base : Context) (checkers : List Checker) : RunResults :=
  ⟨checkers.map fun checker => (checker.name, reportOf base checker)⟩

/-- The diagnostics of a run are those of each checker, in their order. -/
theorem diagnostics_resultsOf
    (base : Context)
    (checkers : List Checker) :
    (resultsOf base checkers).diagnostics = checkers.flatMap (reportOf base) := by
  rw [RunResults.diagnostics, resultsOf, List.flatMap_map]

/-- A run ends with what its checkers report, unless the settings end it before. -/
theorem result_run_eq
    {registry : Registry}
    (steady : ∀ checker ∈ registry.checkers, ∃ gather, checker.Gathers gather)
    (settings : Settings)
    (script : Text)
    (names : Option (List Text))
    (file : Text) :
    (run registry settings script names file).result =
      settings.suppressedTexts.bind fun ids =>
        (select registry settings names).2.map
          (resultsOf (contextFor settings script file ids)) := by
  cases suppressed : settings.suppressedTexts with
  | error failure =>
      simp only [run, suppressed]
      rfl
  | ok ids =>
      rcases selected : select registry settings names with ⟨log, selection⟩
      cases selection with
      | error failure =>
          simp only [run, suppressed, selected]
          rfl
      | ok checkers =>
          refine result_run suppressed selected (fun checker member => ?_) script file
          exact steady checker (mem_checkers_of_select (congrArg Prod.snd selected) member)

end Run

end MissionLint
