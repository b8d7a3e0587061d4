import MissionLint.Proofs.Checker.Findings
import MissionLint.Proofs.Checker.Selection

namespace MissionLint

/-!
# Suppressed diagnostics

The ids that the settings suppress take no part in what the checkers of a run find.  They
remove diagnostics from what is found, and so do the comments of the script: it makes no
difference which of them come first.  A failure of a checker is never removed.
-/

/-- Suppressing ids everywhere leaves a diagnostic: it tells of a failure, or neither its id
nor the id that stands for all is among them. -/
def Diagnostic.Survives (ids : List Text) (diagnostic : Diagnostic) : Prop :=
  diagnostic.id = "checkerInternalError" ∨ diagnostic.id ∉ ids ∧ ("*" : Text) ∉ ids

/-- Whether a diagnostic survives can be decided. -/
instance (ids : List Text) : DecidablePred (Diagnostic.Survives ids) :=
  fun _ => inferInstanceAs (Decidable (_ ∨ _))

/-- Every diagnostic survives when nothing is suppressed. -/
theorem Diagnostic.survives_nil
    (diagnostic : Diagnostic) :
    diagnostic.Survives [] :=
  .inr ⟨List.not_mem_nil, List.not_mem_nil⟩

/-- What survives when more is suppressed survives when less is. -/
theorem Diagnostic.Survives.of_subset
    {ids more : List Text}
    (subset : ids ⊆ more)
    {diagnostic : Diagnostic}
    (survives : diagnostic.Survives more) :
    diagnostic.Survives ids := by
  rcases survives with isFailure | ⟨notNamed, notAll⟩
  · exact .inl isFailure
  · exact .inr ⟨mt (subset ·) notNamed, mt (subset ·) notAll⟩

/-- What is not a failure survives unless it is covered. -/
theorem Diagnostic.decide_survives
    {diagnostic : Diagnostic}
    (notFailure : diagnostic.id ≠ "checkerInternalError")
    (ids : List Text) :
    decide (diagnostic.Survives ids) = !Suppressions.covers ids diagnostic.id := by
  simp [Survives, notFailure, Suppressions.covers]

namespace Suppressions

/-- A diagnostic is suppressed by an id that holds everywhere or by a marker. -/
theorem suppresses_eq
    (inline : List (Nat × List Text))
    (ids : List Text)
    (id : Text)
    (line : Int) :
    suppresses ⟨inline, ids⟩ id line =
      (covers ids id || suppresses ⟨inline, []⟩ id line) := by
  simp [suppresses, covers, coversOn]

/-- Comments do not reach line zero. -/
theorem suppresses_zero
    (inline : List (Nat × List Text))
    (id : Text) :
    suppresses ⟨inline, []⟩ id 0 = false := by
  simp [suppresses, covers]

/-- Ids that hold everywhere are added in their order. -/
theorem foldl_addEverywhere
    (inline : List (Nat × List Text))
    (before ids : List Text) :
    ids.foldl addEverywhere ⟨inline, before⟩ = ⟨inline, before ++ ids⟩ := by
  induction ids generalizing before with
  | nil =>
      simp
  | cons id rest inductionHypothesis =>
      rw [List.foldl_cons, addEverywhere, inductionHypothesis]
      simp

/-- Nothing is filtered when nothing is suppressed. -/
theorem filter_nothing
    (diagnostics : List Diagnostic) :
    ({} : Suppressions).filter diagnostics = diagnostics := by
  simp [filter, suppresses, covers, coversOn]

/-- Reports can be filtered one by one. -/
theorem filter_flatMap
    (suppressions : Suppressions)
    (report : α → List Diagnostic)
    (items : List α) :
    suppressions.filter (items.flatMap report) =
      items.flatMap fun item => suppressions.filter (report item) :=
  List.filter_flatMap

/-- Comments and other filters can be applied in either order. -/
theorem filter_filter_comm
    (suppressions : Suppressions)
    (keep : Diagnostic → Bool)
    (diagnostics : List Diagnostic) :
    suppressions.filter (diagnostics.filter keep) =
      (suppressions.filter diagnostics).filter keep := by
  simp only [filter, List.filter_filter, Bool.and_comm]

end Suppressions

namespace Checker

/-- What a standard checker finds is never taken for a failure. -/
theorem id_ne_of_mem_findings
    {checker : Checker}
    (isStandard : checker ∈ standard)
    {context : Context}
    {evidence : checker.Evidence}
    {finding : Finding}
    (member : finding ∈ (checker.diagnose context evidence).findings) :
    finding.id ≠ "checkerInternalError" := by
  have notDeclared : ∀ checker ∈ standard, ("checkerInternalError" : Text) ∉ checker.ids := by
    decide
  obtain ⟨_, placed⟩ := exists_at_of_mem_findings isStandard member
  exact ne_of_mem_of_not_mem placed.id_mem (notDeclared checker isStandard)

end Checker

namespace Run

/-- A checker reports what it finds, without what the settings suppress and then without what
comments suppress.  A failure stands on line zero, where no comment does, and no finding has the
id of a failure. -/
theorem reportOf_suppressing
    {checker : Checker}
    (isStandard : checker ∈ Checker.standard)
    {base : Context}
    (fresh : base.analyses.eventGraph = none)
    (value : Data)
    (inline : List (Nat × List Text))
    (ids : List Text) :
    reportOf (base.suppressing value ⟨inline, ids⟩) checker =
      Suppressions.filter ⟨inline, []⟩
        ((reportOf { base with suppressions := {} } checker).filter (·.Survives ids)) := by
  have sameFindings := Checker.assess_suppressing_of_mem_standard isStandard fresh
  have unsuppressed :
      checker.assess { base with suppressions := {} } = checker.assess base :=
    sameFindings base.settings.suppressedIds {}
  unfold reportOf
  rw [sameFindings, unsuppressed]
  cases assessed : checker.assess base with
  | error failure =>
      simp [Diagnostic.Survives, failureDiagnostic, Context.suppressing, Suppressions.filter,
        Suppressions.suppresses_zero]
  | ok findings =>
      obtain ⟨gather, gathers⟩ := Checker.exists_gathers_of_mem_standard isStandard
      obtain ⟨evidence, _, rfl⟩ := gathers.exists_of_assess fresh assessed
      simp only [Suppressions.filter_nothing]
      rw [Suppressions.filter, Suppressions.filter, List.filter_filter]
      refine List.filter_congr fun diagnostic member => ?_
      obtain ⟨finding, isFinding, rfl⟩ := List.mem_map.mp member
      have notFailure := Checker.id_ne_of_mem_findings isStandard isFinding
      change (!Suppressions.suppresses ⟨inline, ids⟩ finding.id finding.line) =
        ((!Suppressions.suppresses ⟨inline, []⟩ finding.id finding.line) &&
          decide (Diagnostic.Survives ids (checker.toDiagnostic _ finding)))
      rw [Suppressions.suppresses_eq, Diagnostic.decide_survives notFailure, Bool.not_or,
        Bool.and_comm]
      rfl

end Run

namespace Settings

/-- Settings that suppress some ids and are the same otherwise. -/
def withSuppressed (settings : Settings) (ids : List Text) : Settings :=
  { settings with suppressedIds := .list (ids.map .text) }

/-- The ids that settings are given are the ones that they suppress. -/
theorem suppressedTexts_withSuppressed
    (settings : Settings)
    (ids : List Text) :
    (settings.withSuppressed ids).suppressedTexts = .ok ids := by
  have lists : Lists { suppressedIds := .list (ids.map .text) } [] ids :=
    ⟨rfl, rfl⟩
  exact lists.suppressedTexts_eq

end Settings

namespace Run

/-- Suppressed ids play no part in selecting checkers. -/
theorem notDisabled_withSuppressed
    (settings : Settings)
    (ids : List Text)
    (checkers : List Checker) :
    notDisabled (settings.withSuppressed ids) checkers = notDisabled settings checkers := by
  induction checkers with
  | nil =>
      rfl
  | cons checker rest inductionHypothesis =>
      have sameAnswer :
          (settings.withSuppressed ids).disables checker.name = settings.disables checker.name :=
        rfl
      rw [notDisabled, notDisabled, sameAnswer, inductionHypothesis]

/-- The ids that are suppressed do not change which checkers run. -/
theorem select_withSuppressed
    (registry : Registry)
    (settings : Settings)
    (ids : List Text)
    (names : Option (List Text)) :
    select registry (settings.withSuppressed ids) names = select registry settings names := by
  cases names with
  | none =>
      simp only [select, notDisabled_withSuppressed]
  | some names =>
      rfl

/-- A run that suppresses ids starts with these and with the comments of the script. -/
theorem contextFor_withSuppressed
    (settings : Settings)
    (script file : Text)
    (ids : List Text) :
    contextFor (settings.withSuppressed ids) script file ids =
      (Context.ofOutline (.ofScript script) settings file).suppressing (.list (ids.map .text))
        ⟨(({} : Suppressions).loadInline (Line.ofScript script)).inline, ids⟩ := by
  have added :=
    Suppressions.foldl_addEverywhere
      (({} : Suppressions).loadInline (Line.ofScript script)).inline [] ids
  rw [List.nil_append] at added
  rw [← added]
  rfl

/-- What the checkers of a run find before anything is suppressed, one after another in a
shared context. -/
def found
    (registry : Registry)
    (settings : Settings)
    (script : Text)
    (names : Option (List Text))
    (file : Text) :
    Except Failure (List Diagnostic) :=
  let context := { Context.ofOutline (.ofScript script) settings file with suppressions := {} }
  (select registry settings names).2.map fun checkers =>
    (steps context checkers).1.flatMap Prod.snd

/-- The diagnostics of a run of standard checkers are what they find, without what the
settings suppress and then without what comments suppress. -/
theorem diagnostics_withSuppressed
    (hidden : List Text)
    (settings : Settings)
    (script : Text)
    (names : Option (List Text))
    (file : Text)
    (ids : List Text) :
    (run (.standardWithout hidden) (settings.withSuppressed ids) script names file).result.map
        RunResults.diagnostics =
      (found (.standardWithout hidden) settings script names file).map fun diagnostics =>
        (({} : Suppressions).loadInline (Line.ofScript script)).filter
          (diagnostics.filter (·.Survives ids)) := by
  have steady :
      ∀ checker ∈ (Registry.standardWithout hidden).checkers, ∃ gather, checker.Gathers gather :=
    fun _ => Checker.exists_gathers_of_mem_standard
  rw [result_run_eq steady, Settings.suppressedTexts_withSuppressed, select_withSuppressed, found]
  simp only [Except.bind]
  cases selected : (select (.standardWithout hidden) settings names).2 with
  | error failure =>
      rfl
  | ok checkers =>
      have areStandard : ∀ checker ∈ checkers, checker ∈ Checker.standard :=
        fun _ => mem_checkers_of_select selected
      let base := Context.ofOutline (.ofScript script) settings file
      have unsuppressed :
          (steps { base with suppressions := {} } checkers).1.flatMap Prod.snd =
            checkers.flatMap (reportOf { base with suppressions := {} }) := by
        rw [steps_of_shares rfl (Context.shares_self rfl) fun checker member =>
          steady checker (areStandard checker member), List.flatMap_map]
      simp only [Except.map]
      rw [diagnostics_resultsOf, contextFor_withSuppressed, unsuppressed, List.filter_flatMap,
        Suppressions.filter_flatMap]
      refine congrArg Except.ok (List.flatMap_congr fun checker member => ?_)
      exact reportOf_suppressing (areStandard checker member) rfl _ _ ids

end Run

/-- Suppressing ids everywhere filters the diagnostics of a run and does nothing else: what
is left is what the run without them gives, in order, but for the diagnostics that do not
survive.  More ids never add a diagnostic.  What a run gives is what its checkers find, and
it makes no difference whether the ids or the comments of the script are applied first. -/
theorem suppression_filters
    (hidden : List Text)
    (settings : Settings)
    (script : Text)
    (names : Option (List Text))
    (file : Text) :
    let registry := Registry.standardWithout hidden
    let comments := ({} : Suppressions).loadInline (Line.ofScript script)
    let found := Run.found registry settings script names file
    let diagnosticsWith (ids : List Text) :=
      (run registry (settings.withSuppressed ids) script names file).result.map
        RunResults.diagnostics
    (∀ ids, diagnosticsWith ids = (diagnosticsWith []).map (List.filter (·.Survives ids))) ∧
    (∀ ids more, ids ⊆ more → ∀ fewer, diagnosticsWith more = .ok fewer →
      ∃ diagnostics, diagnosticsWith ids = .ok diagnostics ∧ fewer.Sublist diagnostics) ∧
    ∀ ids,
      diagnosticsWith ids = found.map (comments.filter ∘ List.filter (·.Survives ids)) ∧
      diagnosticsWith ids = found.map (List.filter (·.Survives ids) ∘ comments.filter) := by
  intro registry comments found diagnosticsWith
  have applied (ids : List Text) :
      diagnosticsWith ids = found.map (comments.filter ∘ List.filter (·.Survives ids)) :=
    Run.diagnostics_withSuppressed hidden settings script names file ids
  have commuted (ids : List Text) :
      diagnosticsWith ids = found.map (List.filter (·.Survives ids) ∘ comments.filter) := by
    rw [applied]
    congr 1
    funext diagnostics
    exact comments.filter_filter_comm _ diagnostics
  refine ⟨?_, ?_, fun ids => ⟨applied ids, commuted ids⟩⟩
  · intro ids
    rw [commuted ids, commuted []]
    cases found with
    | error failure =>
        rfl
    | ok diagnostics =>
        simp [Except.map, Diagnostic.survives_nil]
  · intro ids more subset fewer isFewer
    rw [commuted] at isFewer
    rw [commuted]
    cases isFound : found with
    | error failure =>
        rw [isFound] at isFewer
        cases isFewer
    | ok diagnostics =>
        rw [isFound] at isFewer
        cases isFewer
        refine ⟨_, rfl, List.monotone_filter_right _ fun diagnostic survives => ?_⟩
        exact decide_eq_true ((of_decide_eq_true survives).of_subset subset)

/-- One checker finds an event that is opened three times, the last time with a comment that
suppresses this, and another one fails over a digit without a value.  Suppressing all ids
leaves the failure. -/
theorem suppression_filters_all_but_failure :
    let script : Text :=
      "int x = 0\nx:𖵱;\nA::\nA::\nA:: # mmscript-suppress duplicateEvent"
    let diagnosticsWith (ids : List Text) :=
      (run (.standardWithout []) (Settings.withSuppressed {} ids) script
        (some ["duplicate-events", "mutex-patterns"]) "mission").result.map RunResults.diagnostics
    ∃ diagnostics fewer,
      diagnosticsWith ["stateMachine"] = .ok diagnostics ∧
      diagnosticsWith ["stateMachine", "*"] = .ok fewer ∧
      diagnostics.map Diagnostic.id = ["duplicateEvent", "checkerInternalError"] ∧
      fewer.map Diagnostic.id = ["checkerInternalError"] ∧
      fewer.Sublist diagnostics := by
  intro script diagnosticsWith
  obtain ⟨_, shrinks, _⟩ :=
    suppression_filters [] {} script (some ["duplicate-events", "mutex-patterns"]) "mission"
  have exists_of_evaluated {ids shown : List Text}
      (evaluated : (diagnosticsWith ids).toOption.map (List.map Diagnostic.id) = some shown) :
      ∃ diagnostics,
        diagnosticsWith ids = .ok diagnostics ∧ diagnostics.map Diagnostic.id = shown := by
    cases returned : diagnosticsWith ids with
    | error failure =>
        rw [returned] at evaluated
        cases evaluated
    | ok diagnostics =>
        rw [returned] at evaluated
        exact ⟨diagnostics, rfl, Option.some.inj evaluated⟩
  obtain ⟨diagnostics, isDiagnostics, ids⟩ :
      ∃ diagnostics,
        diagnosticsWith ["stateMachine"] = .ok diagnostics ∧
          diagnostics.map Diagnostic.id = ["duplicateEvent", "checkerInternalError"] :=
    exists_of_evaluated (by decide +kernel)
  obtain ⟨fewer, isFewer, idsLeft⟩ :
      ∃ fewer,
        diagnosticsWith ["stateMachine", "*"] = .ok fewer ∧
          fewer.map Diagnostic.id = ["checkerInternalError"] :=
    exists_of_evaluated (by decide +kernel)
  obtain ⟨_, isSame, sublist⟩ :=
    shrinks ["stateMachine"] ["stateMachine", "*"] (by simp) fewer isFewer
  cases isSame.symm.trans isDiagnostics
  exact ⟨diagnostics, fewer, isDiagnostics, isFewer, ids, idsLeft, sublist⟩

end MissionLint
