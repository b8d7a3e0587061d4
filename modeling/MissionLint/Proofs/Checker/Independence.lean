import Mathlib.Algebra.Ring.Nat
import MissionLint.Proofs.Table
import MissionLint.Proofs.Text.Distinct
import MissionLint.Proofs.Checker.Standard

namespace MissionLint

/-!
# Independent checkers

A run can be asked for checkers by name, in any order and repeatedly.  Each of them
reports what it reports in a run of its own: what the others leave in the shared context,
and that some of them fail, makes no difference.  So a run is the concatenation of the
runs of its checkers, and its counts add up.
-/

namespace Settings

/-- The settings name the checkers that they disable and the ids that they suppress. -/
structure Lists (settings : Settings) (disabled ids : List Text) : Prop where
  disabledCheckers_eq : settings.disabledCheckers = .list (disabled.map .text)
  suppressedIds_eq : settings.suppressedIds = .list (ids.map .text)

/-- A list of texts is read back whole. -/
theorem filterMap_text?_map
    (texts : List Text) :
    (texts.map Data.text).filterMap text? = texts := by
  rw [List.filterMap_map]
  exact List.filterMap_some

/-- The ids that are listed are the ones that are suppressed. -/
theorem Lists.suppressedTexts_eq
    {settings : Settings}
    {disabled ids : List Text}
    (lists : settings.Lists disabled ids) :
    settings.suppressedTexts = .ok ids := by
  have allKeys : (ids.map Data.text).find? (fun member => !isKey member) = none := by
    simp [isKey]
  unfold suppressedTexts
  rw [lists.suppressedIds_eq]
  simp only [membersOf?, allKeys, filterMap_text?_map]

/-- The checkers that are listed are the ones that are disabled. -/
theorem Lists.disables_eq
    {settings : Settings}
    {disabled ids : List Text}
    (lists : settings.Lists disabled ids)
    (name : Text) :
    settings.disables name = .ok (disabled.contains name) := by
  unfold disables
  rw [lists.disabledCheckers_eq]
  simp only [filterMap_text?_map]

end Settings

namespace RunResults

/-- Every diagnostic is either an error or a warning. -/
theorem errorCount_add_warningCount
    (results : RunResults) :
    results.errorCount + results.warningCount = results.totalCount := by
  unfold errorCount warningCount bySeverity totalCount
  induction results.diagnostics with
  | nil =>
      rfl
  | cons diagnostic rest inductionHypothesis =>
      simp only [List.filter_cons, List.length_cons]
      cases diagnostic.severity <;>
        simp <;>
        omega

end RunResults

namespace Run

/-! ## Checkers by name -/

/-- A checker that is found under a name has it. -/
theorem name_of_named?
    {registry : Registry}
    {name : Text}
    {checker : Checker}
    (found : registry.named? name = some checker) :
    checker.name = name := by
  simpa using List.find?_some found

/-- A registered name finds a registered checker. -/
theorem exists_named?_of_mem
    {registry : Registry}
    {name : Text}
    (known : name ∈ registry.names) :
    ∃ checker ∈ registry.checkers, registry.named? name = some checker := by
  obtain ⟨checker, member, isName⟩ := List.mem_map.mp known
  have isSome : (registry.named? name).isSome = true := by
    rw [Registry.named?, List.find?_isSome]
    exact ⟨checker, member, by simpa using isName⟩
  obtain ⟨first, found⟩ := Option.isSome_iff_exists.mp isSome
  exact ⟨first, List.mem_of_find?_eq_some found, found⟩

/-- A name that is not registered finds none. -/
theorem named?_eq_none
    {registry : Registry}
    {name : Text}
    (unknown : name ∉ registry.names) :
    registry.named? name = none := by
  rw [Registry.named?, List.find?_eq_none]
  intro checker member isName
  exact unknown (List.mem_map.mpr ⟨checker, member, by simpa using isName⟩)

/-- With distinct names every checker is found under its own. -/
theorem named?_name
    {registry : Registry}
    (distinct : registry.names.Nodup)
    {checker : Checker}
    (member : checker ∈ registry.checkers) :
    registry.named? checker.name = some checker :=
  (find?_key_eq_some_iff distinct).mpr ⟨member, rfl⟩

/-- Known names select their checkers, and every unknown name is warned about. -/
theorem selectNamed_eq
    (registry : Registry)
    (names : List Text) :
    selectNamed registry names =
      ((names.filter fun name => name ∉ registry.names).map fun name =>
          ⟨.warning, origin, "unknown checker '" ++ name ++ "' ignored"⟩,
        names.filterMap registry.named?) := by
  induction names with
  | nil =>
      rfl
  | cons name rest inductionHypothesis =>
      by_cases known : name ∈ registry.names
      · obtain ⟨checker, _, found⟩ := exists_named?_of_mem known
        simp [selectNamed, inductionHypothesis, known, found]
      · simp [selectNamed, inductionHypothesis, known, named?_eq_none known]

/-- Selecting checkers by their own names gives them back. -/
theorem filterMap_named?_filter
    {registry : Registry}
    (distinct : registry.names.Nodup)
    (keep : Text → Bool) :
    (registry.names.filter keep).filterMap registry.named? =
      registry.checkers.filter fun checker => keep checker.name := by
  rw [Registry.names, List.filter_map, List.filterMap_map]
  refine Eq.trans (List.filterMap_congr fun checker member => ?_) List.filterMap_some
  exact named?_name distinct (List.mem_filter.mp member).1

/-- The checkers that are left are those that are not listed. -/
theorem notDisabled_of_lists
    {settings : Settings}
    {disabled ids : List Text}
    (lists : settings.Lists disabled ids)
    (checkers : List Checker) :
    notDisabled settings checkers =
      .ok (checkers.filter fun checker => !disabled.contains checker.name) := by
  induction checkers with
  | nil =>
      rfl
  | cons checker rest inductionHypothesis =>
      simp only [notDisabled, lists.disables_eq, inductionHypothesis, Except.map,
        List.filter_cons]
      cases disabled.contains checker.name <;>
        rfl

/-- A run of all checkers is a run of those that neither the registry nor the settings
disable. -/
theorem select_none_eq
    {registry : Registry}
    (distinct : registry.names.Nodup)
    {settings : Settings}
    {disabled ids : List Text}
    (lists : settings.Lists disabled ids) :
    select registry settings none =
      select registry settings
        (some (registry.names.filter fun name => name ∉ registry.disabled ++ disabled)) := by
  have allKnown :
      (registry.names.filter fun name => name ∉ registry.disabled ++ disabled).filter
        (fun name => name ∉ registry.names) = [] := by
    simp +contextual
  simp only [select, selectNamed_eq, allKnown, List.map_nil, filterMap_named?_filter distinct,
    notDisabled_of_lists lists, Registry.enabled, List.filter_filter]
  simp [Bool.and_comm]

/-! ## Runs of named checkers -/

/-- What the checker of a name reports in a context of its own. -/
def reportNamed (registry : Registry) (base : Context) (name : Text) : List Diagnostic :=
  ((registry.named? name).map (reportOf base)).getD []

/-- The results of the checkers of some names, each in a context of its own. -/
def namedResults (registry : Registry) (base : Context) (names : List Text) : RunResults :=
  ⟨(names.filter fun name => registry.names.contains name).map fun name =>
    (name, reportNamed registry base name)⟩

/-- Each registered name has the report of its checker, and others have none. -/
theorem namedResults_eq
    (registry : Registry)
    (base : Context)
    (names : List Text) :
    namedResults registry base names =
      ⟨(names.filter fun name => name ∈ registry.names).map fun name =>
        (name, reportNamed registry base name)⟩ := by
  simp only [namedResults, List.contains_eq_mem]

/-- The reports are those of the checkers that are found, in the order of the names. -/
theorem reports_namedResults
    (registry : Registry)
    (base : Context)
    (names : List Text) :
    (namedResults registry base names).reports =
      (names.filterMap registry.named?).map
        fun checker => (checker.name, reportOf base checker) := by
  rw [namedResults_eq]
  induction names with
  | nil =>
      rfl
  | cons name rest inductionHypothesis =>
      by_cases known : name ∈ registry.names
      · obtain ⟨checker, _, found⟩ := exists_named?_of_mem known
        simpa [known, found, reportNamed, name_of_named? found] using inductionHypothesis
      · simpa [known, named?_eq_none known] using inductionHypothesis

/-- Checkers that gather their evidence from the script and the settings alone report in a
run what they report on their own. -/
theorem result_run_named
    {registry : Registry}
    (steady : ∀ checker ∈ registry.checkers, ∃ gather, checker.Gathers gather)
    {settings : Settings}
    {disabled ids : List Text}
    (lists : settings.Lists disabled ids)
    (script file : Text)
    (names : List Text) :
    (run registry settings script (some names) file).result =
      .ok (namedResults registry (contextFor settings script file ids) names) := by
  have selected :
      select registry settings (some names) =
        ((selectNamed registry names).1, .ok (names.filterMap registry.named?)) := by
    simp only [select, selectNamed_eq]
  have ran := result_run lists.suppressedTexts_eq selected (fun checker member => by
    obtain ⟨name, _, found⟩ := List.mem_filterMap.mp member
    exact steady checker (List.mem_of_find?_eq_some found)) script file
  rw [ran, ← reports_namedResults]

section NamedResults

variable (registry : Registry) (base : Context) (names : List Text)

/-- The checkers that ran are the registered ones among the names. -/
theorem checkerNames_namedResults :
    (namedResults registry base names).checkerNames =
      names.filter fun name => name ∈ registry.names := by
  simp [RunResults.checkerNames, namedResults_eq, Function.comp_def]

/-- The diagnostics are those of each checker that ran, in the order of the names. -/
theorem diagnostics_namedResults :
    (namedResults registry base names).diagnostics =
      (names.filter fun name => name ∈ registry.names).flatMap (reportNamed registry base) := by
  simp [RunResults.diagnostics, namedResults_eq, List.flatMap_map]

variable {registry names} in
/-- A checker that ran repeatedly reported the same each time, so its last report is any
of them. -/
theorem byChecker_namedResults
    {name : Text}
    (ran : name ∈ names.filter fun name => name ∈ registry.names) :
    (namedResults registry base names).byChecker name = reportNamed registry base name := by
  rw [RunResults.byChecker, namedResults_eq, ← List.map_reverse, Table.find?_map_keys,
    if_pos (List.mem_reverse.mpr ran)]
  rfl

/-- The total count is the sum over the checkers that ran. -/
theorem totalCount_namedResults :
    (namedResults registry base names).totalCount =
      ((namedResults registry base names).checkerNames.map fun name =>
        ((namedResults registry base names).byChecker name).length).sum := by
  rw [RunResults.totalCount, diagnostics_namedResults, List.length_flatMap,
    checkerNames_namedResults]
  refine congrArg List.sum (List.map_congr_left fun name ran => ?_)
  rw [byChecker_namedResults base ran]

end NamedResults

end Run

namespace Registry

/-- The standard checkers, some of them disabled. -/
def standardWithout (hidden : List Text) : Registry :=
  ⟨Checker.standard, hidden⟩

/-- Leaving out standard checkers leaves different names. -/
theorem nodup_names_standardWithout
    (hidden : List Text) :
    (standardWithout hidden).names.Nodup := by
  have distinct : (Checker.standard.map Checker.name).Nodup := by
    decide
  exact distinct

end Registry

/-- Standard checkers are independent of each other.  Asked for by name, in any order and
repeatedly, each of them reports what it reports in a run of its own, whether or not others
ran before it or failed; unknown names are left out.  A run of all checkers is a run of
those that are not disabled.  The counts of a run add up by checker and by severity. -/
theorem checkers_independent
    (hidden : List Text)
    {settings : Settings}
    {disabled ids : List Text}
    (lists : settings.Lists disabled ids)
    (script file : Text)
    (names : List Text) :
    let registry := Registry.standardWithout hidden
    let known := names.filter fun name => name ∈ registry.names
    ∃ (results : RunResults) (alone : Text → RunResults),
      (run registry settings script (some names) file).result = .ok results ∧
      (∀ name, (run registry settings script (some [name]) file).result = .ok (alone name)) ∧
      results.diagnostics = known.flatMap (fun name => (alone name).diagnostics) ∧
      results.checkerNames = known ∧
      (∀ name ∈ known, results.byChecker name = (alone name).diagnostics) ∧
      results.totalCount =
        (results.checkerNames.map fun name => (results.byChecker name).length).sum ∧
      results.errorCount + results.warningCount = results.totalCount ∧
      run registry settings script none file =
        run registry settings script
          (some (registry.names.filter fun name => name ∉ hidden ++ disabled)) file := by
  intro registry known
  have steady : ∀ checker ∈ registry.checkers, ∃ gather, checker.Gathers gather :=
    fun _ => Checker.exists_gathers_of_mem_standard
  have ran := Run.result_run_named steady lists script file
  let base := Run.contextFor settings script file ids
  have alone {name : Text} (isKnown : name ∈ known) :
      (Run.namedResults registry base [name]).diagnostics =
        Run.reportNamed registry base name := by
    simp [Run.diagnostics_namedResults, (List.mem_filter.mp isKnown).2]
  refine ⟨Run.namedResults registry base names, fun name => Run.namedResults registry base [name],
    ran names, fun name => ran [name], ?_, Run.checkerNames_namedResults registry base names, ?_,
    Run.totalCount_namedResults registry base names, RunResults.errorCount_add_warningCount _, ?_⟩
  · rw [Run.diagnostics_namedResults]
    exact List.flatMap_congr fun name isKnown => (alone isKnown).symm
  · intro name isKnown
    rw [Run.byChecker_namedResults base isKnown, alone isKnown]
  · have sameSelection :=
      Run.select_none_eq (Registry.nodup_names_standardWithout hidden) lists
    simp only [run]
    rw [sameSelection]
    rfl

/-- A checker that fails over a digit without a value runs before and after another one.  One
more name is unknown, and the settings disable a checker and suppress an id. -/
theorem checkers_independent_of_failure :
    let script : Text := "int x = 0\nx:𖵱;\nA::\nA::"
    let settings : Settings :=
      { disabledCheckers := .list [.text "performance"]
        suppressedIds := .list [.text "stateMachine"] }
    ∃ results : RunResults,
      (run (.standardWithout []) settings script
        (some ["mutex-patterns", "typo", "duplicate-events", "mutex-patterns"]) "mission").result =
          .ok results ∧
      results.checkerNames = ["mutex-patterns", "duplicate-events", "mutex-patterns"] ∧
      results.diagnostics.map Diagnostic.id =
        ["checkerInternalError", "duplicateEvent", "checkerInternalError"] := by
  intro script settings
  have lists : settings.Lists ["performance"] ["stateMachine"] := ⟨rfl, rfl⟩
  obtain ⟨results, alone, ran, ranAlone, diagnostics, names, _⟩ :=
    checkers_independent [] lists script "mission"
      ["mutex-patterns", "typo", "duplicate-events", "mutex-patterns"]
  have idsAlone {name : Text} {ids : List Text}
      (evaluated :
        (run (.standardWithout []) settings script (some [name]) "mission").result.toOption.map
          (fun single => single.diagnostics.map Diagnostic.id) = some ids) :
      (alone name).diagnostics.map Diagnostic.id = ids := by
    rw [ranAlone name] at evaluated
    exact Option.some.inj evaluated
  have failed : (alone "mutex-patterns").diagnostics.map Diagnostic.id =
      ["checkerInternalError"] :=
    idsAlone (by decide +kernel)
  have repeated : (alone "duplicate-events").diagnostics.map Diagnostic.id = ["duplicateEvent"] :=
    idsAlone (by decide +kernel)
  refine ⟨results, ran, names, ?_⟩
  rw [diagnostics, List.map_flatMap]
  change
    (alone "mutex-patterns").diagnostics.map Diagnostic.id ++
      ((alone "duplicate-events").diagnostics.map Diagnostic.id ++
        ((alone "mutex-patterns").diagnostics.map Diagnostic.id ++ [])) = _
  rw [failed, repeated]
  rfl

end MissionLint
