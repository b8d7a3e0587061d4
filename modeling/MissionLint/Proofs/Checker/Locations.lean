import MissionLint.Proofs.Analysis.Origin
import MissionLint.Proofs.Checker.Findings
import MissionLint.Proofs.Checker.Selection

namespace MissionLint

/-!
# The places of diagnostics

Every diagnostic stands at the start of a line of the script, or is about the script as a
whole and stands on line zero.  Only few diagnostics are about the whole script.
-/

namespace Diagnostic

/-- The ids of diagnostics about the load of a script and about failures. -/
def scriptIds : List Text :=
  ["performanceLoad", "performanceHint", "checkerInternalError"]

/-- A diagnostic is about the whole script: about its load, about a checker that failed, or
about the negative balance of a resource that no objective demands. -/
def IsAboutScript (context : Context) (diagnostic : Diagnostic) : Prop :=
  diagnostic.id ∈ scriptIds ∨
    diagnostic.id = "negativeResourceBalance" ∧
      ∃ flows, ResourceFlow.find context.outline = .ok flows ∧
        ∃ flow ∈ flows, flow.sinks = [] ∧
          ∃ finding ∈ Checker.flowFindings flow,
            diagnostic = Checker.resourceFlows.toDiagnostic context finding

/-- A diagnostic stands at the start of a line, or on line zero when it is about the whole
script. -/
structure IsPlaced (context : Context) (diagnostic : Diagnostic) : Prop where
  column_eq : diagnostic.location.column = 0
  line_eq_zero : diagnostic.IsAboutScript context → diagnostic.location.line = 0
  exists_line : ¬diagnostic.IsAboutScript context →
    ∃ number : Nat, context.outline.HasLine number ∧ diagnostic.location.line = number

end Diagnostic

namespace Checker

/-! ## Findings on lines -/

/-- A checker finds only what stands on lines of the script. -/
def FindsOnLines (checker : Checker) : Prop :=
  ∀ {context : Context} {script : Text} {findings : List Finding},
    context.outline = .ofScript script →
    context.analyses.eventGraph = none →
    checker.assess context = .ok findings →
    ∀ finding ∈ findings, ∃ number,
      (Outline.ofScript script).HasLine number ∧ finding.At checker.ids number

/-- It is enough to look at what a checker makes of its evidence. -/
theorem findsOnLines_of_gathers
    {checker : Checker}
    {gather : Outline → Settings → Except Failure checker.Evidence}
    (gathers : checker.Gathers gather)
    (onLines : ∀ {script : Text} {context : Context} {evidence : checker.Evidence},
      gather (.ofScript script) context.settings = .ok evidence →
      context.outline = .ofScript script →
      ∀ finding ∈ (checker.diagnose context evidence).findings, ∃ number,
        (Outline.ofScript script).HasLine number ∧ finding.At checker.ids number) :
    checker.FindsOnLines := by
  intro context script findings isScript fresh assessed
  obtain ⟨evidence, gathered, rfl⟩ := gathers.exists_of_assess fresh assessed
  rw [isScript] at gathered
  exact onLines gathered isScript

/-- Repeated events are found where blocks start. -/
theorem findsOnLines_duplicateEvents : duplicateEvents.FindsOnLines := by
  refine findsOnLines_of_gathers gathers_duplicateEvents ?_
  intro script context repeated gathered _ finding isFinding
  cases gathered
  obtain ⟨event, isRepeated, placed⟩ := exists_of_mem_repeatFindings isFinding
  have isBlock := Outline.mem_of_mem_repeatedFrom isRepeated
  exact ⟨event.start, Outline.hasLine_start isBlock, placed⟩

/-- Undefined targets are found where edges are. -/
theorem findsOnLines_undefinedTargets : undefinedTargets.FindsOnLines := by
  refine findsOnLines_of_gathers gathers_undefinedTargets ?_
  intro script context dangling gathered _ finding isFinding
  cases gathered
  obtain ⟨edge, isDangling, placed⟩ := exists_of_mem_targetFindings isFinding
  have isEdge := (List.mem_filter.mp isDangling).1
  exact ⟨edge.line, EventGraph.hasLine_edge isEdge, placed⟩

/-- Locks are found where their idioms are. -/
theorem findsOnLines_locks : locks.FindsOnLines := by
  refine findsOnLines_of_gathers gathers_locks ?_
  intro script context evidence gathered _ finding isFinding
  obtain ⟨patterns, returned, rfl⟩ := Outcome.exists_of_map gathered
  have found := Outcome.eq_ok_of_mapError returned
  obtain ⟨pattern, isPattern, placed⟩ := exists_of_mem_lockFindings isFinding
  exact ⟨pattern.line, LockPattern.hasLine_of_find found isPattern, placed⟩

/-- State machines are found where their variables are declared. -/
theorem findsOnLines_stateMachines : stateMachines.FindsOnLines := by
  refine findsOnLines_of_gathers gathers_stateMachines ?_
  intro script context machines gathered isScript finding isFinding
  have found := Outcome.eq_ok_of_mapError gathered
  obtain ⟨machine, isMachine, placed⟩ := exists_of_mem_machineFindings isFinding
  obtain ⟨declared, named⟩ := StateMachine.exists_variableNamed?_of_find found isMachine
  rw [isScript, machineLine, named] at placed
  exact ⟨declared.line, Outline.hasLine_of_variableNamed? named, placed⟩

/-- Cycles are found where their closing edges are. -/
theorem findsOnLines_circularDependencies : circularDependencies.FindsOnLines := by
  refine findsOnLines_of_gathers gathers_circularDependencies ?_
  intro script context cycles gathered _ finding isFinding
  cases gathered
  obtain ⟨cycle, isCycle, placed⟩ := exists_of_mem_cycleFindings isFinding
  obtain ⟨_, _, _, edge, isEdge, _, _, isLine⟩ := EventGraph.exists_closing_edge isCycle
  exact ⟨cycle.line, isLine ▸ EventGraph.hasLine_edge isEdge, placed⟩

/-- Deadlock risks are found where their first events open. -/
theorem findsOnLines_deadlocks : deadlocks.FindsOnLines := by
  refine findsOnLines_of_gathers gathers_deadlocks ?_
  intro script context risks gathered _ finding isFinding
  cases gathered
  obtain ⟨risk, isRisk, placed⟩ := exists_of_mem_riskFindings isFinding
  obtain ⟨event, isBlock, _, isLine⟩ := DeadlockRisk.exists_opener isRisk
  exact ⟨risk.line, isLine ▸ Outline.hasLine_start isBlock, placed⟩

/-! ## Placed diagnostics -/

section Placed

variable {checker : Checker} {context : Context} {script : Text} {finding : Finding}

/-- A finding on a line is not about the whole script: a negative balance without sinks is the
same diagnostic, but it has no line. -/
theorem isPlaced_of_hasLine
    (particular : ∀ id ∈ checker.ids, id ∉ Diagnostic.scriptIds)
    {number : Nat}
    (placed : finding.At checker.ids number)
    (hasLine : context.outline.HasLine number) :
    (checker.toDiagnostic context finding).IsPlaced context where
  column_eq := congrArg Nat.cast placed.column_eq
  line_eq_zero := by
    rintro (general | ⟨_, flows, _, flow, _, noSinks, other, isFinding, isSame⟩)
    · exact absurd general (particular _ placed.id_mem)
    · have isLine := (at_of_mem_flowFindings isFinding).1.line_eq
      rw [sinkLine, noSinks] at isLine
      rw [isSame]
      exact congrArg Nat.cast isLine
  exists_line _ := ⟨number, hasLine, congrArg Nat.cast placed.line_eq⟩

/-- A finding about the whole script is placed on line zero. -/
theorem isPlaced_of_isAboutScript
    (placed : finding.At checker.ids 0)
    (isAboutScript : (checker.toDiagnostic context finding).IsAboutScript context) :
    (checker.toDiagnostic context finding).IsPlaced context where
  column_eq := congrArg Nat.cast placed.column_eq
  line_eq_zero _ := congrArg Nat.cast placed.line_eq
  exists_line notAboutScript := absurd isAboutScript notAboutScript

/-- What a checker finds on lines is placed there, as none of its ids is about the whole script. -/
theorem FindsOnLines.isPlaced
    (findsOnLines : checker.FindsOnLines)
    (particular : ∀ id ∈ checker.ids, id ∉ Diagnostic.scriptIds)
    (isScript : context.outline = .ofScript script)
    (fresh : context.analyses.eventGraph = none)
    {findings : List Finding}
    (assessed : checker.assess context = .ok findings)
    (isFinding : finding ∈ findings) :
    (checker.toDiagnostic context finding).IsPlaced context := by
  obtain ⟨number, hasLine, placed⟩ := findsOnLines isScript fresh assessed finding isFinding
  exact isPlaced_of_hasLine particular placed (isScript ▸ hasLine)

/-- The flow of a resource is reported where the first objective demands it, and without a
line when there is none. -/
theorem isPlaced_of_resourceFlows
    (fresh : context.analyses.eventGraph = none)
    {findings : List Finding}
    (assessed : resourceFlows.assess context = .ok findings)
    (isFinding : finding ∈ findings) :
    (resourceFlows.toDiagnostic context finding).IsPlaced context := by
  obtain ⟨flows, gathered, rfl⟩ := gathers_resourceFlows.exists_of_assess fresh assessed
  obtain ⟨_, found, reported⟩ := Outcome.exists_of_bind (Outcome.eq_ok_of_mapError gathered)
  obtain ⟨_, _, rfl⟩ := Outcome.exists_of_map reported
  obtain ⟨flow, isFlow, inFlow⟩ := List.mem_flatMap.mp isFinding
  obtain ⟨placed, ofSinkless⟩ := at_of_mem_flowFindings inFlow
  unfold sinkLine at placed
  cases sinks : flow.sinks with
  | nil =>
      rw [sinks] at placed
      have isNegative := ofSinkless sinks
      exact isPlaced_of_isAboutScript placed
        (.inr ⟨isNegative, _, found, flow, isFlow, sinks, finding, inFlow, rfl⟩)
  | cons amount rest =>
      rw [sinks] at placed
      have isSink : amount ∈ flow.sinks := sinks ▸ List.mem_cons_self
      exact isPlaced_of_hasLine (by decide) placed
        (ResourceFlow.hasLine_of_mem_sinks found isFlow isSink)

/-- What is found about the load is placed on line zero. -/
theorem isPlaced_of_loads
    (fresh : context.analyses.eventGraph = none)
    {findings : List Finding}
    (assessed : loads.assess context = .ok findings)
    (isFinding : finding ∈ findings) :
    (loads.toDiagnostic context finding).IsPlaced context := by
  obtain ⟨metrics, _, rfl⟩ := gathers_loads.exists_of_assess fresh assessed
  have placed := at_of_mem_loadFindings isFinding
  have general : ∀ id ∈ loads.ids, id ∈ Diagnostic.scriptIds := by
    decide
  exact isPlaced_of_isAboutScript placed (.inl (general _ placed.id_mem))

end Placed

/-- What a standard checker finds has a place. -/
theorem isPlaced_of_mem_findings
    {checker : Checker}
    (isStandard : checker ∈ standard)
    {context : Context}
    {script : Text}
    (isScript : context.outline = .ofScript script)
    (fresh : context.analyses.eventGraph = none)
    {findings : List Finding}
    (assessed : checker.assess context = .ok findings)
    {finding : Finding}
    (isFinding : finding ∈ findings) :
    (checker.toDiagnostic context finding).IsPlaced context := by
  simp only [standard, List.mem_cons, List.not_mem_nil, or_false] at isStandard
  rcases isStandard with rfl | rfl | rfl | rfl | rfl | rfl | rfl | rfl
  · exact findsOnLines_duplicateEvents.isPlaced (by decide) isScript fresh assessed isFinding
  · exact findsOnLines_undefinedTargets.isPlaced (by decide) isScript fresh assessed isFinding
  · exact findsOnLines_locks.isPlaced (by decide) isScript fresh assessed isFinding
  · exact findsOnLines_stateMachines.isPlaced (by decide) isScript fresh assessed isFinding
  · exact isPlaced_of_resourceFlows fresh assessed isFinding
  · exact isPlaced_of_loads fresh assessed isFinding
  · exact findsOnLines_circularDependencies.isPlaced (by decide) isScript fresh assessed isFinding
  · exact findsOnLines_deadlocks.isPlaced (by decide) isScript fresh assessed isFinding

end Checker

/-- What a standard checker reports has a place, also when it fails. -/
theorem Run.isPlaced_of_mem_reportOf
    {checker : Checker}
    (isStandard : checker ∈ Checker.standard)
    {context : Context}
    {script : Text}
    (isScript : context.outline = .ofScript script)
    (fresh : context.analyses.eventGraph = none)
    {diagnostic : Diagnostic}
    (reported : diagnostic ∈ reportOf context checker) :
    diagnostic.IsPlaced context := by
  unfold reportOf at reported
  split at reported
  case h_1 failure _ =>
    rw [List.mem_singleton.mp reported]
    have isAboutScript : (failureDiagnostic context checker failure).IsAboutScript context :=
      .inl (by simp [failureDiagnostic, Diagnostic.scriptIds])
    exact ⟨rfl, fun _ => rfl, fun notAboutScript => absurd isAboutScript notAboutScript⟩
  case h_2 findings assessed =>
    obtain ⟨finding, isFinding, rfl⟩ := List.mem_map.mp (List.mem_filter.mp reported).1
    exact Checker.isPlaced_of_mem_findings isStandard isScript fresh assessed isFinding

/-- With lists of names, checkers can always be selected. -/
theorem Run.exists_select_of_lists
    {settings : Settings}
    {disabled ids : List Text}
    (lists : settings.Lists disabled ids)
    (registry : Registry)
    (names : Option (List Text)) :
    ∃ checkers, (select registry settings names).2 = .ok checkers := by
  cases names with
  | none =>
      exact ⟨_, notDisabled_of_lists lists registry.enabled⟩
  | some names =>
      exact ⟨_, rfl⟩

/-- A run of standard checkers places each of its diagnostics at the start of a line of the
script, or on line zero exactly when it is about the whole script.  Nothing that the analyses
look up again is missing. -/
theorem diagnostics_are_placed
    (hidden : List Text)
    {settings : Settings}
    {disabled ids : List Text}
    (lists : settings.Lists disabled ids)
    (script : Text)
    (names : Option (List Text))
    (file : Text) :
    ∃ results,
      (run (.standardWithout hidden) settings script names file).result = .ok results ∧
      (∀ diagnostic ∈ results.diagnostics,
        0 ≤ diagnostic.location.line ∧
        diagnostic.location.line ≤ (script.splitOn ('\n' : CodePoint)).length ∧
        diagnostic.location.column = 0 ∧
        (diagnostic.location.line = 0 ↔
          diagnostic.IsAboutScript (Run.contextFor settings script file ids))) ∧
      (Outline.ofScript script).Resolved settings.stateNames := by
  obtain ⟨checkers, selected⟩ :=
    Run.exists_select_of_lists lists (.standardWithout hidden) names
  let context := Run.contextFor settings script file ids
  have returns :
      (run (.standardWithout hidden) settings script names file).result =
        .ok (Run.resultsOf context checkers) := by
    rw [Run.result_run_eq fun _ => Checker.exists_gathers_of_mem_standard,
      lists.suppressedTexts_eq, selected]
    rfl
  refine ⟨_, returns, ?_, Outline.resolved_ofScript script _⟩
  intro diagnostic member
  rw [Run.diagnostics_resultsOf] at member
  obtain ⟨checker, isSelected, reported⟩ := List.mem_flatMap.mp member
  have isStandard : checker ∈ Checker.standard := Run.mem_checkers_of_select selected isSelected
  have placed : diagnostic.IsPlaced context :=
    Run.isPlaced_of_mem_reportOf isStandard rfl rfl reported
  by_cases isAboutScript : diagnostic.IsAboutScript context
  · have isZero := placed.line_eq_zero isAboutScript
    exact ⟨by omega, by omega, placed.column_eq, iff_of_true isZero isAboutScript⟩
  · obtain ⟨number, hasLine, isNumber⟩ := placed.exists_line isAboutScript
    have bounds := Outline.HasLine.bounds hasLine
    have notZero : diagnostic.location.line ≠ 0 := by omega
    exact ⟨by omega, by omega, placed.column_eq, iff_of_false notZero isAboutScript⟩

/-- A repeated event is reported on its line, and crystals that are only taken without one. -/
theorem diagnostics_are_placed_crystals :
    let script : Text := "crystals:-50;\nA::\nA::"
    let context := Run.contextFor {} script "mission" []
    ∃ results,
      (run (.standardWithout []) {} script (some ["duplicate-events", "resource-flow"])
        "mission").result = .ok results ∧
      (∃ diagnostic ∈ results.diagnostics,
        diagnostic.location.line = 3 ∧ ¬diagnostic.IsAboutScript context) ∧
      ∃ diagnostic ∈ results.diagnostics,
        diagnostic.id = "negativeResourceBalance" ∧ diagnostic.IsAboutScript context := by
  intro script context
  have lists : Settings.Lists {} [] [] := ⟨rfl, rfl⟩
  obtain ⟨results, returns, placed, _⟩ :=
    diagnostics_are_placed [] lists script (some ["duplicate-events", "resource-flow"]) "mission"
  have evaluated :
      (run (.standardWithout []) {} script (some ["duplicate-events", "resource-flow"])
        "mission").result.toOption.map (fun results => results.diagnostics.map fun diagnostic =>
          (diagnostic.id, diagnostic.location.line)) =
        some ([("duplicateEvent", 3), ("negativeResourceBalance", 0)] : List (Text × Int)) := by
    decide +kernel
  rw [returns] at evaluated
  obtain ⟨repeated, rest, areDiagnostics, isRepeated, others⟩ :=
    List.map_eq_cons_iff.mp (Option.some.inj evaluated)
  obtain ⟨balance, _, areOthers, isBalance, _⟩ := List.map_eq_cons_iff.mp others
  have repeatedMember : repeated ∈ results.diagnostics := by
    simp [areDiagnostics]
  have balanceMember : balance ∈ results.diagnostics := by
    simp [areDiagnostics, areOthers]
  obtain ⟨_, _, _, repeated_iff⟩ := placed repeated repeatedMember
  obtain ⟨_, _, _, balance_iff⟩ := placed balance balanceMember
  have repeatedLine : repeated.location.line = 3 := congrArg Prod.snd isRepeated
  refine ⟨results, returns, ⟨repeated, repeatedMember, repeatedLine, ?_⟩,
    balance, balanceMember, congrArg Prod.fst isBalance,
    balance_iff.mp (congrArg Prod.snd isBalance)⟩
  rw [← repeated_iff, repeatedLine]
  decide

end MissionLint
