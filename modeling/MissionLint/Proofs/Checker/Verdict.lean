import MissionLint.Command.Execute
import MissionLint.Proofs.EventGraph.Cycles
import MissionLint.Proofs.Checker.Standard
import MissionLint.Proofs.Analysis.Deadlock

namespace MissionLint

/-!
# When an analysis finds errors

Of the standard checkers only two report errors: one for every cycle, and one for
every pair of events at high risk.  So without suppressions an analysis finds errors
exactly when events lead back to themselves or two events wait on each other.
-/

namespace Run

/-- A checker of warnings whose findings have no severity of their own reports
warnings only, also when it fails. -/
theorem severity_of_mem_reportOf
    {checker : Checker}
    (mild : checker.severity = .warning)
    (plain : ∀ context evidence,
      ∀ finding ∈ (checker.diagnose context evidence).findings, finding.severity = none)
    {base : Context}
    {diagnostic : Diagnostic}
    (reported : diagnostic ∈ reportOf base checker) :
    diagnostic.severity = .warning := by
  unfold reportOf at reported
  split at reported
  · rw [List.mem_singleton.mp reported]
    rfl
  case h_2 findings assessed =>
    obtain ⟨finding, member, rfl⟩ := List.mem_map.mp (List.mem_filter.mp reported).1
    have isPlain : finding.severity = none := by
      unfold Checker.assess Checker.outcomeOf at assessed
      split at assessed
      · cases assessed
      · split at assessed
        · cases assessed
        · cases assessed
          exact plain _ _ finding member
    simp [Checker.toDiagnostic, isPlain, mild]

end Run

namespace Checker

/-- Findings about state machines have no severity of their own. -/
theorem severity_of_mem_machineFindings
    {line : Nat}
    {machine : StateMachine}
    {finding : Finding}
    (member : finding ∈ machineFindings line machine) :
    finding.severity = none := by
  unfold machineFindings at member
  simp only [List.cons_append, List.nil_append, List.mem_cons, List.mem_append,
    List.mem_map] at member
  rcases member with rfl | ⟨state, _, rfl⟩ | ⟨state, _, rfl⟩ <;>
    rfl

/-- Findings about resources have no severity of their own. -/
theorem severity_of_mem_flowFindings
    {flow : ResourceFlow}
    {finding : Finding}
    (member : finding ∈ flowFindings flow) :
    finding.severity = none := by
  unfold flowFindings at member
  rcases List.mem_append.mp member with isNegative | isSourceless
  · split at isNegative
    · rw [List.mem_singleton.mp isNegative]
    · cases isNegative
  · split at isSourceless
    · rw [List.mem_singleton.mp isSourceless]
    · cases isSourceless

/-- Findings about the load have no severity of their own. -/
theorem severity_of_mem_loadFindings
    {settings : Settings}
    {metrics : LoadMetrics}
    {finding : Finding}
    (member : finding ∈ loadFindings settings metrics) :
    finding.severity = none := by
  unfold loadFindings at member
  rcases List.mem_append.mp member with isHeavy | isHint
  · split at isHeavy
    · rw [List.mem_singleton.mp isHeavy]
    · rw [List.mem_singleton.mp isHeavy]
    · cases isHeavy
  · obtain ⟨hint, _, rfl⟩ := List.mem_map.mp isHint
    rfl

/-- The standard checkers that report warnings only. -/
def mild : List Checker :=
  [duplicateEvents, undefinedTargets, locks, stateMachines, resourceFlows, loads]

/-- The standard checkers are the mild ones and the two that can report errors. -/
theorem standard_eq_mild_append :
    standard = mild ++ [circularDependencies, deadlocks] :=
  rfl

/-- A mild checker reports warnings only. -/
theorem severity_of_mem_reportOf_mild
    {checker : Checker}
    (isMild : checker ∈ mild)
    {base : Context}
    {diagnostic : Diagnostic}
    (reported : diagnostic ∈ Run.reportOf base checker) :
    diagnostic.severity = .warning := by
  simp only [mild, List.mem_cons, List.not_mem_nil, or_false] at isMild
  rcases isMild with rfl | rfl | rfl | rfl | rfl | rfl
  · refine Run.severity_of_mem_reportOf rfl ?_ reported
    intro context repeated finding member
    obtain ⟨event, _, rfl⟩ := List.mem_map.mp member
    rfl
  · refine Run.severity_of_mem_reportOf rfl ?_ reported
    intro context dangling finding member
    obtain ⟨edge, _, rfl⟩ := List.mem_map.mp member
    rfl
  · refine Run.severity_of_mem_reportOf rfl ?_ reported
    intro context evidence finding member
    obtain ⟨pattern, _, isFinding⟩ := List.mem_flatMap.mp member
    rcases List.mem_cons.mp isFinding with rfl | isShared
    · rfl
    · split at isShared
      · rw [List.mem_singleton.mp isShared]
        rfl
      · cases isShared
  · refine Run.severity_of_mem_reportOf rfl ?_ reported
    intro context machines finding member
    obtain ⟨machine, _, isFinding⟩ := List.mem_flatMap.mp member
    exact severity_of_mem_machineFindings isFinding
  · refine Run.severity_of_mem_reportOf rfl ?_ reported
    intro context flows finding member
    obtain ⟨flow, _, isFinding⟩ := List.mem_flatMap.mp member
    exact severity_of_mem_flowFindings isFinding
  · refine Run.severity_of_mem_reportOf rfl ?_ reported
    intro context metrics finding member
    obtain ⟨measured, _, isFinding⟩ := List.mem_flatMap.mp member
    exact severity_of_mem_loadFindings isFinding

end Checker

namespace Suppressions

/-- A script without a comment that starts with the marker suppresses nothing. -/
theorem filter_loadInline_of_unmarked
    {lines : List Line}
    (unmarked : ∀ line ∈ lines, ∀ comment, line.comment = some comment →
      ¬marker.isPrefixOf comment)
    (diagnostics : List Diagnostic) :
    (({} : Suppressions).loadInline lines).filter diagnostics = diagnostics := by
  have nothing : ({} : Suppressions).loadInline lines = {} := by
    have none : lines.filterMap (fun line =>
        (idsOf? (line.comment.getD [])).map fun ids => (line.number, ids)) = [] := by
      rw [List.filterMap_eq_nil_iff]
      intro line member
      cases commented : line.comment with
      | none =>
          rfl
      | some comment =>
          simp [idsOf?, unmarked line member comment commented]
    simp [loadInline, none]
  rw [nothing, filter, List.filter_eq_self]
  intro diagnostic _
  simp [suppresses, coversOn, covers]

end Suppressions

namespace Run

section Unsuppressed

variable {base : Context}
  (fresh : base.analyses.eventGraph = none)
  (unsuppressed : ∀ diagnostics, base.suppressions.filter diagnostics = diagnostics)

include fresh unsuppressed

/-- What a checker makes of its evidence is reported as it is. -/
theorem reportOf_eq_map
    {checker : Checker}
    {gather : Outline → Settings → Except Failure checker.Evidence}
    (gathers : checker.Gathers gather)
    {evidence : checker.Evidence}
    (gathered : gather base.outline base.settings = .ok evidence)
    (complete : (checker.diagnose base evidence).failure = none) :
    reportOf base checker =
      (checker.diagnose base evidence).findings.map (checker.toDiagnostic base) := by
  have found := gathers.assess_eq (Context.shares_self fresh)
  rw [gathered] at found
  simp only [Except.bind, Checker.outcomeOf, complete] at found
  unfold reportOf
  rw [found]
  exact unsuppressed _

/-- Every cycle is an error. -/
theorem countP_error_circularDependencies :
    (reportOf base .circularDependencies).countP (fun found => found.severity == .error) =
      (EventGraph.ofOutline base.outline).cycles.length := by
  rw [reportOf_eq_map fresh unsuppressed Checker.gathers_circularDependencies rfl rfl]
  simp [Checker.circularDependencies, Checker.toDiagnostic, List.countP_map, Function.comp_def]

/-- A pair of events is an error when its risk is high. -/
theorem countP_error_deadlocks :
    (reportOf base .deadlocks).countP (fun found => found.severity == .error) =
      (DeadlockRisk.find base.outline).countP fun risk => risk.level == .high := by
  rw [reportOf_eq_map fresh unsuppressed Checker.gathers_deadlocks rfl rfl]
  simp only [Checker.deadlocks, Checker.toDiagnostic, List.countP_map, Function.comp_def,
    Option.getD_some]
  congr 1
  funext risk
  cases risk.level <;>
    rfl

/-- Every error is about a cycle or about two events at risk. -/
theorem origin_of_mem_reportOf_error
    {checker : Checker}
    (isStandard : checker ∈ Checker.standard)
    {diagnostic : Diagnostic}
    (reported : diagnostic ∈ reportOf base checker)
    (isError : diagnostic.severity = .error) :
    diagnostic.checker = "circular-dependencies" ∧ diagnostic.id = "circularDependency" ∨
      diagnostic.checker = "deadlocks" ∧ diagnostic.id = "deadlockRisk" := by
  rw [Checker.standard_eq_mild_append] at isStandard
  rcases List.mem_append.mp isStandard with isMild | isSevere
  · have isWarning := Checker.severity_of_mem_reportOf_mild isMild reported
    rw [isWarning] at isError
    cases isError
  · simp only [List.mem_cons, List.not_mem_nil, or_false] at isSevere
    rcases isSevere with rfl | rfl
    · rw [reportOf_eq_map fresh unsuppressed Checker.gathers_circularDependencies rfl rfl]
        at reported
      obtain ⟨finding, member, rfl⟩ := List.mem_map.mp reported
      obtain ⟨cycle, _, rfl⟩ := List.mem_map.mp member
      exact .inl ⟨rfl, rfl⟩
    · rw [reportOf_eq_map fresh unsuppressed Checker.gathers_deadlocks rfl rfl] at reported
      obtain ⟨finding, member, rfl⟩ := List.mem_map.mp reported
      obtain ⟨risk, _, rfl⟩ := List.mem_map.mp member
      exact .inr ⟨rfl, rfl⟩

/-- There are as many errors as cycles and pairs of events at high risk. -/
theorem errorCount_standard :
    (RunResults.mk (Checker.standard.map fun checker =>
        (checker.name, reportOf base checker))).errorCount =
      (EventGraph.ofOutline base.outline).cycles.length +
        (DeadlockRisk.find base.outline).countP fun risk => risk.level == .high := by
  have noErrors :
      (Checker.mild.flatMap (reportOf base)).countP (fun found => found.severity == .error) =
        0 := by
    rw [List.countP_eq_zero]
    intro diagnostic member
    obtain ⟨checker, isMild, reported⟩ := List.mem_flatMap.mp member
    simp [Checker.severity_of_mem_reportOf_mild isMild reported]
  simp only [RunResults.errorCount, RunResults.bySeverity, RunResults.diagnostics,
    ← List.countP_eq_length_filter, List.flatMap_map, Checker.standard_eq_mild_append,
    List.flatMap_append, List.flatMap_cons, List.flatMap_nil, List.append_nil,
    List.countP_append, noErrors, Nat.zero_add]
  rw [countP_error_circularDependencies fresh unsuppressed,
    countP_error_deadlocks fresh unsuppressed]

end Unsuppressed

/-- The results of all standard checkers without settings. -/
def standardResults (script file : Text) : RunResults :=
  ⟨Checker.standard.map fun checker =>
    (checker.name, reportOf (contextFor {} script file []) checker)⟩

/-- A run of the standard checkers with default settings returns. -/
theorem result_run_standard
    (script file : Text) :
    (run .standard {} script none file).result = .ok (standardResults script file) :=
  result_run rfl select_standard_default
    (fun _ => Checker.exists_gathers_of_mem_standard) script file

end Run

/-- Events lead back to themselves, or two events wait on each other. -/
def Outline.HasConflict (outline : Outline) : Prop :=
  (∃ name, (EventGraph.ofOutline outline).OnCycle name) ∨
    ∃ first ∈ outline.eventNames, ∃ second ∈ outline.eventNames,
      first ≠ second ∧ DeadlockRisk.MutualWait outline first second

/-- There is a conflict when there are cycles or high deadlock risks to count. -/
theorem Outline.hasConflict_iff
    (outline : Outline) :
    outline.HasConflict ↔
      0 < (EventGraph.ofOutline outline).cycles.length +
        (DeadlockRisk.find outline).countP fun risk => risk.level == .high := by
  have cyclic :
      0 < (EventGraph.ofOutline outline).cycles.length ↔
        ∃ name, (EventGraph.ofOutline outline).OnCycle name := by
    rw [List.length_pos_iff, Ne, (EventGraph.indexed_ofOutline outline).showsCycles.eq_nil_iff,
      not_not]
  have risky := DeadlockRisk.exists_high_iff outline
  rw [HasConflict, ← cyclic, ← risky, Nat.add_pos_iff_pos_or_pos, List.countP_pos_iff]
  simp

namespace Command

variable {m : Type → Type} [Monad m] [LawfulMonad m]

/-- Two messages in a row are one longer message. -/
theorem say_bind_say
    (first second : List LogEntry)
    (continued : Unit → Task m Value) :
    (Task.say first >>= fun _ => Task.say second >>= continued) =
      Task.say (first ++ second) >>= continued := by
  have said (entries log : List LogEntry) :
      (Task.say (m := m) entries).run.run log = pure (.ok (), log ++ entries) := by
    simp [Task.say, modify, modifyGet, MonadStateOf.modifyGet, monadLift, MonadLift.monadLift,
      ExceptT.lift, StateT.modifyGet, StateT.run, ExceptT.run, ExceptT.mk, Functor.map, StateT.map]
  apply ExceptT.ext
  apply StateT.ext
  intro log
  simp only [ExceptT.run_bind, StateT.run_bind, said, pure_bind, List.append_assoc]

/-- Without options an analysis reads a script, says something, and ends with the
results of the standard checkers. -/
theorem analyzeScript_plain
    (host : Host m)
    (input : InputRequest)
    (form : OutputForm) :
    ∃ entries : Text → List LogEntry,
      analyzeScript host { input := input, outputForm := form } = (do
        let script ← Task.readScript host input
        Task.say (entries script)
        let results := Run.standardResults script input.script
        return ⟨results.exitCode, results.render form⟩) := by
  have unchanged : ({} : Settings).suppressing [] = .ok {} := rfl
  apply Exists.intro
  unfold analyzeScript settingsOf
  simp only [unchanged, Task.settle, pure_bind, Run.result_run_standard, say_bind_say]
  rfl

end Command

/-- An analysis of a script without suppressing comments finds errors exactly when
events lead back to themselves or two events wait on each other.  Every error is about
one of the two, and the exit code of the command tells whether there are errors. -/
theorem errorCount_pos_iff_hasConflict
    (script file : Text)
    (unmarked : ∀ line ∈ Line.ofScript script, ∀ comment, line.comment = some comment →
      ¬Suppressions.marker.isPrefixOf comment) :
    ∃ results,
      (run .standard {} script none file).result = .ok results ∧
      (0 < results.errorCount ↔ (Outline.ofScript script).HasConflict) ∧
      (∀ diagnostic ∈ results.diagnostics, diagnostic.severity = .error →
        diagnostic.checker = "circular-dependencies" ∧ diagnostic.id = "circularDependency" ∨
          diagnostic.checker = "deadlocks" ∧ diagnostic.id = "deadlockRisk") ∧
      ∀ {m : Type → Type} [Monad m] [LawfulMonad m]
        (host : Host m) (input : InputRequest) (form : OutputForm),
        input.script = file →
        ∃ (entries : Text → List LogEntry) (ending : Text → Command.Result),
          Command.analyzeScript host { input := input, outputForm := form } = (do
            let read ← Task.readScript host input
            Task.say (entries read)
            return ending read) ∧
          ((Outline.ofScript script).HasConflict → (ending script).exitCode = 1) ∧
          (¬(Outline.ofScript script).HasConflict → (ending script).exitCode = 0) := by
  have unsuppressed :
      ∀ diagnostics,
        (Run.contextFor {} script file []).suppressions.filter diagnostics = diagnostics :=
    Suppressions.filter_loadInline_of_unmarked unmarked
  have verdict :
      0 < (Run.standardResults script file).errorCount ↔
        (Outline.ofScript script).HasConflict := by
    rw [Outline.hasConflict_iff]
    exact iff_of_eq (congrArg _ (Run.errorCount_standard rfl unsuppressed))
  refine ⟨Run.standardResults script file, Run.result_run_standard script file, verdict, ?_, ?_⟩
  · intro diagnostic reported isError
    obtain ⟨report, member, inReport⟩ := List.mem_flatMap.mp reported
    obtain ⟨checker, isStandard, rfl⟩ := List.mem_map.mp member
    exact Run.origin_of_mem_reportOf_error rfl unsuppressed isStandard inReport isError
  · rintro m _ _ host input form rfl
    obtain ⟨entries, plain⟩ := Command.analyzeScript_plain host input form
    refine ⟨entries, _, plain, ?_, ?_⟩
    · intro conflict
      exact if_pos (verdict.mpr conflict)
    · intro clear
      exact if_neg (mt verdict.mp clear)

/-- Two events that call each other are an error. -/
theorem errorCount_of_mutual_calls :
    ∃ results,
      (run .standard {} "A::\nB::;\nB::\nA::;" none "mission").result = .ok results ∧
        0 < results.errorCount := by
  have there :
      (EventGraph.ofOutline (Outline.ofScript "A::\nB::;\nB::\nA::;")).Leads "A" "B" := by
    unfold EventGraph.Leads
    decide +kernel
  have back :
      (EventGraph.ofOutline (Outline.ofScript "A::\nB::;\nB::\nA::;")).Leads "B" "A" := by
    unfold EventGraph.Leads
    decide +kernel
  obtain ⟨results, isResult, verdict, _⟩ :=
    errorCount_pos_iff_hasConflict "A::\nB::;\nB::\nA::;" "mission" (by decide)
  exact ⟨results, isResult, verdict.mpr (.inl ⟨"A", .tail (.single there) back⟩)⟩

end MissionLint
