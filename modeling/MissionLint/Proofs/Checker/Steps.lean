import MissionLint.Checker.Run

namespace MissionLint

/-!
# What a checker contributes to a run

The checkers of a run share a context, in which they leave the event graph and the
load.  What is left there never differs from what a checker would compute itself,
so a checker reports the same in a shared context as in one of its own.
-/

namespace Context

/-- A context is another one with shared results, of which the event graph is that
of the outline. -/
def Shares (base context : Context) : Prop :=
  ∃ analyses : Analyses,
    context = { base with analyses := analyses } ∧
    ∀ graph, analyses.eventGraph = some graph → graph = EventGraph.ofOutline base.outline

/-- A context without an event graph shares what it has with itself. -/
theorem shares_self
    {base : Context}
    (fresh : base.analyses.eventGraph = none) :
    Shares base base :=
  ⟨base.analyses, rfl, by simp [fresh]⟩

/-- The event graph of a shared context is that of the outline, and asking for it
leaves the context shared. -/
theorem Shares.eventGraph
    {base context : Context}
    (shares : Shares base context) :
    context.eventGraph.1 = EventGraph.ofOutline base.outline ∧
      Shares base context.eventGraph.2.1 := by
  obtain ⟨analyses, rfl, exact⟩ := shares
  unfold Context.eventGraph
  cases known : analyses.eventGraph with
  | some graph =>
      exact ⟨exact graph known, analyses, rfl, exact⟩
  | none =>
      exact ⟨rfl, { analyses with eventGraph := some (EventGraph.ofOutline base.outline) },
        rfl, by simp⟩

end Context

namespace Checker

/-- What a diagnosis comes to: its findings, or the failure that stopped it. -/
def outcomeOf (diagnosis : Diagnosis) : Except Failure (List Finding) :=
  match diagnosis.failure with
  | some failure => .error failure
  | none => .ok diagnosis.findings

/-- What a checker finds in a context, or the failure that stops it. -/
def assess (checker : Checker) (context : Context) : Except Failure (List Finding) :=
  match checker.collect context (checker.configure context checker.initial) with
  | .error failure => .error failure
  | .ok collected => outcomeOf (checker.diagnose collected.context collected.evidence)

/-- A checker gathers its evidence from the outline and the settings alone.  It keeps
what is shared, and what it makes of its evidence does not depend on that. -/
structure Gathers
    (checker : Checker)
    (gather : Outline → Settings → Except Failure checker.Evidence) :
    Prop where
  collect_error : ∀ {base context failure},
    Context.Shares base context →
    gather base.outline base.settings = .error failure →
    checker.collect context (checker.configure context checker.initial) = .error failure
  collect_ok : ∀ {base context evidence},
    Context.Shares base context →
    gather base.outline base.settings = .ok evidence →
    ∃ kept log,
      Context.Shares base kept ∧
      checker.collect context (checker.configure context checker.initial) =
        .ok ⟨evidence, kept, log⟩
  diagnose_eq : ∀ {base context evidence},
    Context.Shares base context →
    checker.diagnose context evidence = checker.diagnose base evidence

/-- What a checker finds is what it makes of its evidence. -/
theorem Gathers.assess_eq
    {checker : Checker}
    {gather : Outline → Settings → Except Failure checker.Evidence}
    (gathers : checker.Gathers gather)
    {base context : Context}
    (shares : Context.Shares base context) :
    checker.assess context =
      (gather base.outline base.settings).bind
        fun evidence => outcomeOf (checker.diagnose base evidence) := by
  unfold assess
  cases gathered : gather base.outline base.settings with
  | error failure =>
      rw [gathers.collect_error shares gathered]
      rfl
  | ok evidence =>
      obtain ⟨kept, log, keeps, collects⟩ := gathers.collect_ok shares gathered
      rw [collects]
      simp only [Except.bind]
      rw [gathers.diagnose_eq keeps]

/-- Findings are made of gathered evidence. -/
theorem Gathers.exists_of_assess
    {checker : Checker}
    {gather : Outline → Settings → Except Failure checker.Evidence}
    (gathers : checker.Gathers gather)
    {base : Context}
    (fresh : base.analyses.eventGraph = none)
    {findings : List Finding}
    (assessed : checker.assess base = .ok findings) :
    ∃ evidence,
      gather base.outline base.settings = .ok evidence ∧
        findings = (checker.diagnose base evidence).findings := by
  rw [gathers.assess_eq (Context.shares_self fresh)] at assessed
  cases gathered : gather base.outline base.settings with
  | error failure =>
      rw [gathered] at assessed
      cases assessed
  | ok evidence =>
      rw [gathered] at assessed
      simp only [Except.bind, outcomeOf] at assessed
      split at assessed <;>
        cases assessed
      exact ⟨evidence, rfl, rfl⟩

end Checker

namespace Run

/-- The diagnostics of a checker that works in a context of its own. -/
def reportOf (base : Context) (checker : Checker) : List Diagnostic :=
  match checker.assess base with
  | .error failure => [failureDiagnostic base checker failure]
  | .ok findings => base.suppressions.filter (findings.map (checker.toDiagnostic base))

/-- A step in a shared context reports what the checker reports on its own, and the
context stays shared. -/
theorem step_of_shares
    {base context : Context}
    {checker : Checker}
    (steady : ∃ gather, checker.Gathers gather)
    (fresh : base.analyses.eventGraph = none)
    (shares : Context.Shares base context) :
    (step context checker).diagnostics = reportOf base checker ∧
      Context.Shares base (step context checker).context := by
  obtain ⟨gather, gathers⟩ := steady
  have found := gathers.assess_eq (Context.shares_self fresh)
  unfold reportOf
  rw [found]
  unfold step CheckerWork.collect CheckerWork.configure CheckerWork.start
  simp only
  cases gathered : gather base.outline base.settings with
  | error failure =>
      rw [gathers.collect_error shares gathered]
      obtain ⟨analyses, rfl, _⟩ := id shares
      exact ⟨rfl, shares⟩
  | ok evidence =>
      obtain ⟨kept, log, keeps, collects⟩ := gathers.collect_ok shares gathered
      rw [collects]
      simp only [bind, Except.bind, pure, Except.pure, CheckerWork.diagnose]
      rw [gathers.diagnose_eq keeps]
      obtain ⟨analyses, rfl, _⟩ := id keeps
      unfold Checker.outcomeOf
      cases (checker.diagnose base evidence).failure with
      | some failure =>
          exact ⟨rfl, keeps⟩
      | none =>
          exact ⟨rfl, keeps⟩

/-- In a run every checker reports as if it ran alone. -/
theorem steps_of_shares
    {base : Context}
    (fresh : base.analyses.eventGraph = none)
    {context : Context}
    (shares : Context.Shares base context)
    {checkers : List Checker}
    (steady : ∀ checker ∈ checkers, ∃ gather, checker.Gathers gather) :
    (steps context checkers).1 =
      checkers.map fun checker => (checker.name, reportOf base checker) := by
  induction checkers generalizing context with
  | nil =>
      rfl
  | cons checker rest inductionHypothesis =>
      obtain ⟨reported, kept⟩ := step_of_shares (steady checker List.mem_cons_self) fresh shares
      have others := inductionHypothesis kept fun other member =>
        steady other (List.mem_cons_of_mem checker member)
      simp only [steps, List.map_cons]
      rw [reported, others]

/-- The context with which a run starts: nothing is shared yet. -/
def contextFor
    (settings : Settings)
    (script file : Text)
    (everywhere : List Text) :
    Context :=
  let unsuppressed := Context.ofOutline (Outline.ofScript script) settings file
  { unsuppressed with
    suppressions := everywhere.foldl Suppressions.addEverywhere unsuppressed.suppressions }

/-- The results of a run are what each selected checker reports on its own. -/
theorem result_run
    {registry : Registry}
    {settings : Settings}
    {names : Option (List Text)}
    {everywhere : List Text}
    {log : List LogEntry}
    {checkers : List Checker}
    (suppressed : settings.suppressedTexts = .ok everywhere)
    (selected : select registry settings names = (log, .ok checkers))
    (steady : ∀ checker ∈ checkers, ∃ gather, checker.Gathers gather)
    (script file : Text) :
    (run registry settings script names file).result =
      .ok ⟨checkers.map fun checker =>
        (checker.name, reportOf (contextFor settings script file everywhere) checker)⟩ := by
  have reports :=
    steps_of_shares rfl
      (Context.shares_self (rfl :
        (contextFor settings script file everywhere).analyses.eventGraph = none))
      steady
  unfold run
  simp only [suppressed, selected]
  rw [← reports]
  rfl

/-- No checker is left out when none is disabled. -/
theorem notDisabled_of_none
    {settings : Settings}
    (noneDisabled : settings.disabledCheckers = .list [])
    (checkers : List Checker) :
    notDisabled settings checkers = .ok checkers := by
  induction checkers with
  | nil =>
      rfl
  | cons checker rest inductionHypothesis =>
      simp [notDisabled, Settings.disables, noneDisabled, inductionHypothesis, Except.map]

/-- By default all standard checkers are selected, without a warning. -/
theorem select_standard_default :
    select .standard {} none = ([], .ok Checker.standard) := by
  have all : Registry.standard.enabled = Checker.standard := by
    simp [Registry.enabled, Registry.standard]
  simp only [select, all]
  rw [notDisabled_of_none rfl]

end Run

end MissionLint
