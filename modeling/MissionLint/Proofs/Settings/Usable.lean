import MissionLint.Proofs.Checker.Selection
import MissionLint.Proofs.Settings.Loading

namespace MissionLint

/-!
# Settings that a run can use

Reading settings converts two of their fields and looks at the numbers.  The disabled
checkers and the suppressed ids are kept as they are given, and a run looks into them before
its checkers start.  So with accepted settings a run returns exactly when it can look into
both.  What the checkers do makes no difference: one that fails reports its failure.
-/

namespace Data

/-- A value in which a name can be looked for. -/
inductive IsSearchable : Data → Prop
  | text (value : Text) : IsSearchable (.text value)
  | list (items : List Data) : IsSearchable (.list items)
  | record (fields : List (Text × Data)) : IsSearchable (.record fields)

/-- A value whose members can be kept in a set.  The members of a list must not be lists or
records themselves; those of a text are its characters, and those of a record are names. -/
inductive ListsKeys : Data → Prop
  | text (value : Text) : ListsKeys (.text value)
  | list (items : List Data) (areKeys : ∀ item ∈ items, Settings.isKey item = true) :
      ListsKeys (.list items)
  | record (fields : List (Text × Data)) : ListsKeys (.record fields)

end Data

namespace Settings

/-! ## What accepted settings hold -/

/-- The disabled checkers and the suppressed ids are kept as they are given. -/
theorem kept_of_ofFields
    {fields : List (Text × Data)}
    {settings : Settings}
    (accepted : ofFields fields = .ok settings) :
    settings.disabledCheckers =
        (Data.field? fields "disabled_checkers").getD (.list []) ∧
      settings.suppressedIds = (Data.field? fields "suppressed_ids").getD (.list []) := by
  have kept := (ofFields_eq_ok_iff.mp accepted).kept
  simp only [keptFields, List.map_append, List.map_cons, List.map_nil] at kept
  have searched := (List.append_inj' kept rfl).2
  simpa using searched

/-! ## Looking into settings -/

/-- Whether a checker is disabled can be said when the disabled checkers can be searched. -/
theorem exists_disables_iff
    (settings : Settings)
    (name : Text) :
    (∃ isDisabled, settings.disables name = .ok isDisabled) ↔
      settings.disabledCheckers.IsSearchable := by
  unfold disables
  cases settings.disabledCheckers with
  | null =>
      exact iff_of_false (by simp) (by rintro ⟨⟩)
  | number value =>
      exact iff_of_false (by simp) (by rintro ⟨⟩)
  | text value =>
      exact iff_of_true ⟨_, rfl⟩ (.text value)
  | list items =>
      exact iff_of_true ⟨_, rfl⟩ (.list items)
  | record fields =>
      exact iff_of_true ⟨_, rfl⟩ (.record fields)

/-- There are suppressed ids when the value lists keys. -/
theorem exists_suppressedTexts_iff
    (settings : Settings) :
    (∃ ids, settings.suppressedTexts = .ok ids) ↔ settings.suppressedIds.ListsKeys := by
  unfold suppressedTexts
  cases settings.suppressedIds with
  | null =>
      exact iff_of_false (by simp [membersOf?]) (by rintro ⟨⟩)
  | number value =>
      exact iff_of_false (by simp [membersOf?]) (by rintro ⟨⟩)
  | text value =>
      have areKeys :
          (value.map fun c => Data.text [c]).find? (fun member => !isKey member) = none := by
        simp [isKey]
      simp only [membersOf?, areKeys]
      exact iff_of_true ⟨_, rfl⟩ (.text value)
  | list items =>
      simp only [membersOf?]
      cases found : items.find? fun member => !isKey member with
      | some member =>
          refine iff_of_false (by simp) ?_
          intro listsKeys
          cases listsKeys with
          | list _ areKeys =>
              have isKnown := areKeys member (List.mem_of_find?_eq_some found)
              have notKey := List.find?_some found
              simp [isKnown] at notKey
      | none =>
          refine iff_of_true ⟨_, rfl⟩ (.list items ?_)
          simpa using List.find?_eq_none.mp found
  | record fields =>
      have areKeys :
          (fields.map fun entry => Data.text entry.1).find? (fun member => !isKey member) =
            none := by
        simp [isKey]
      simp only [membersOf?, areKeys]
      exact iff_of_true ⟨_, rfl⟩ (.record fields)

/-- Values of the wrong kind are all that can be wrong with the disabled checkers. -/
theorem exists_kind_of_disables
    {settings : Settings}
    {name : Text}
    {failure : Failure}
    (fails : settings.disables name = .error failure) :
    ∃ fault, failure = .kind fault := by
  unfold disables at fails
  split at fails <;>
    cases fails
  exact ⟨_, rfl⟩

/-- Reading the suppressed ids fails for the kind of the value only. -/
theorem exists_kind_of_suppressedTexts
    {settings : Settings}
    {failure : Failure}
    (fails : settings.suppressedTexts = .error failure) :
    ∃ fault, failure = .kind fault := by
  unfold suppressedTexts at fails
  split at fails
  · cases fails
    exact ⟨_, rfl⟩
  · split at fails <;>
      cases fails
    exact ⟨_, rfl⟩

end Settings

namespace Run

/-! ## Selecting checkers -/

variable {settings : Settings} {checkers : List Checker}

/-- Checkers can be selected when the settings can be searched for their names. -/
theorem exists_notDisabled_iff
    (nonempty : checkers ≠ []) :
    (∃ kept, notDisabled settings checkers = .ok kept) ↔
      settings.disabledCheckers.IsSearchable := by
  constructor
  · rintro ⟨kept, returns⟩
    obtain ⟨first, rest, rfl⟩ := List.exists_cons_of_ne_nil nonempty
    obtain ⟨isDisabled, _, disabled, _⟩ := notDisabled_cons_eq_ok_iff.mp returns
    exact (settings.exists_disables_iff first.name).mp ⟨isDisabled, disabled⟩
  · intro searchable
    clear nonempty
    induction checkers with
    | nil =>
        exact ⟨[], rfl⟩
    | cons first rest inductionHypothesis =>
        obtain ⟨isDisabled, disabled⟩ := (settings.exists_disables_iff first.name).mpr searchable
        obtain ⟨others, areOthers⟩ := inductionHypothesis
        exact ⟨_, notDisabled_cons_eq_ok_iff.mpr
          ⟨isDisabled, others, disabled, areOthers, rfl⟩⟩

/-- Leaving out disabled checkers fails for the kind of the value only. -/
theorem exists_kind_of_notDisabled
    {failure : Failure}
    (fails : notDisabled settings checkers = .error failure) :
    ∃ fault, failure = .kind fault := by
  induction checkers with
  | nil =>
      cases fails
  | cons first rest inductionHypothesis =>
      rw [notDisabled] at fails
      cases disabled : settings.disables first.name with
      | error fault =>
          rw [disabled] at fails
          cases fails
          exact Settings.exists_kind_of_disables disabled
      | ok isDisabled =>
          rw [disabled] at fails
          exact inductionHypothesis (Outcome.eq_error_of_map fails)

/-- A run that does not return was ended by a value of the wrong kind in its settings. -/
theorem exists_kind_of_result_run
    {script file : Text}
    {failure : Failure}
    (fails : (run .standard settings script none file).result = .error failure) :
    ∃ fault, failure = .kind fault := by
  rw [result_run_eq fun _ => Checker.exists_gathers_of_mem_standard] at fails
  rcases Outcome.eq_error_or_exists_of_bind fails with suppressed | ⟨ids, _, selected⟩
  · exact Settings.exists_kind_of_suppressedTexts suppressed
  · exact exists_kind_of_notDisabled (Outcome.eq_error_of_map selected)

/-- The results of a run are those of the standard checkers that are not disabled. -/
theorem exists_of_result_run
    {script file : Text}
    {results : RunResults}
    (returns : (run .standard settings script none file).result = .ok results) :
    ∃ ids kept,
      settings.suppressedTexts = .ok ids ∧
        notDisabled settings Registry.standard.enabled = .ok kept ∧
        results = resultsOf (contextFor settings script file ids) kept := by
  rw [result_run_eq fun _ => Checker.exists_gathers_of_mem_standard] at returns
  obtain ⟨ids, suppressed, returned⟩ := Outcome.exists_of_bind returns
  obtain ⟨kept, selected, isResults⟩ := Outcome.exists_of_map returned
  exact ⟨ids, kept, suppressed, selected, isResults.symm⟩

/-- A run returns when the disabled checkers can be searched and the suppressed ids are listed. -/
theorem exists_result_run_iff
    (script file : Text) :
    (∃ results, (run .standard settings script none file).result = .ok results) ↔
      settings.disabledCheckers.IsSearchable ∧ settings.suppressedIds.ListsKeys := by
  have nonempty : Registry.standard.enabled ≠ [] := by
    decide
  rw [← exists_notDisabled_iff nonempty, ← Settings.exists_suppressedTexts_iff]
  constructor
  · rintro ⟨results, returns⟩
    obtain ⟨ids, kept, suppressed, selected, _⟩ := exists_of_result_run returns
    exact ⟨⟨kept, selected⟩, ids, suppressed⟩
  · rintro ⟨⟨kept, selected⟩, ids, suppressed⟩
    rw [result_run_eq fun _ => Checker.exists_gathers_of_mem_standard]
    simp only [suppressed, select, selected]
    exact ⟨_, rfl⟩

/-- A checker that fails reports its failure, and this is all that it reports. -/
theorem mem_reports_of_failure
    {script file : Text}
    {results : RunResults}
    (returns : (run .standard settings script none file).result = .ok results)
    {checker : Checker}
    (isStandard : checker ∈ Checker.standard)
    (enabled : settings.disables checker.name = .ok false)
    {failure : Failure}
    (fails : checker.assess (contextFor settings script file []) = .error failure) :
    (checker.name, [failureDiagnostic (contextFor settings script file []) checker failure]) ∈
      results.reports := by
  obtain ⟨ids, kept, _, selected, rfl⟩ := exists_of_result_run returns
  have isEnabled : checker ∈ Registry.standard.enabled := by
    simpa [Registry.enabled, Registry.standard] using isStandard
  have isKept : checker ∈ kept := (mem_notDisabled_iff selected).mpr ⟨isEnabled, enabled⟩
  have sameFailure :
      checker.assess (contextFor settings script file ids) = .error failure :=
    (Checker.assess_suppressing_of_mem_standard isStandard rfl _ _).trans fails
  refine List.mem_map.mpr ⟨checker, isKept, ?_⟩
  rw [reportOf, sameFailure]
  rfl

end Run

namespace Settings

/-- The fields into which a run looks can be looked into, if they are given. -/
structure Usable (fields : List (Text × Data)) : Prop where
  disabledCheckers : ∀ value,
    Data.field? fields "disabled_checkers" = some value → value.IsSearchable
  suppressedIds : ∀ value,
    Data.field? fields "suppressed_ids" = some value → value.ListsKeys

/-- Fields that are accepted are usable when both lists of their settings are. -/
theorem usable_iff_of_ofFields
    {fields : List (Text × Data)}
    {settings : Settings}
    (accepted : ofFields fields = .ok settings) :
    Usable fields ↔
      settings.disabledCheckers.IsSearchable ∧ settings.suppressedIds.ListsKeys := by
  have field_iff
      (holds : Data → Prop) (ofDefault : holds (.list [])) (field : Option Data) :
      (∀ value, field = some value → holds value) ↔ holds (field.getD (.list [])) := by
    cases field <;>
      simp [ofDefault]
  obtain ⟨areDisabled, areSuppressed⟩ := kept_of_ofFields accepted
  rw [areDisabled, areSuppressed, ← field_iff Data.IsSearchable (.list []),
    ← field_iff Data.ListsKeys (.list [] (by simp))]
  exact ⟨fun usable => ⟨usable.1, usable.2⟩, fun usable => ⟨usable.1, usable.2⟩⟩

end Settings

/-- With accepted settings a run returns exactly when it can look into the fields that name
checkers and ids, and otherwise it ends with a value of the wrong kind.  Checkers never end
a run: one that fails reports its failure. -/
theorem run_returns_iff_usable
    {fields : List (Text × Data)}
    {settings : Settings}
    (accepted : Settings.ofData (.record fields) = .ok settings)
    (script file : Text) :
    ((∃ results, (run .standard settings script none file).result = .ok results) ↔
      Settings.Usable fields) ∧
    (∀ failure, (run .standard settings script none file).result = .error failure →
      ∃ fault, failure = .kind fault) ∧
    ∀ results, (run .standard settings script none file).result = .ok results →
      ∀ checker ∈ Checker.standard, settings.disables checker.name = .ok false →
        ∀ failure,
          checker.assess (Run.contextFor settings script file []) = .error failure →
          (checker.name,
            [Run.failureDiagnostic (Run.contextFor settings script file []) checker failure]) ∈
              results.reports := by
  refine ⟨?_, fun _ => Run.exists_kind_of_result_run, fun _ returns _ isStandard enabled _ =>
    Run.mem_reports_of_failure returns isStandard enabled⟩
  rw [Settings.usable_iff_of_ofFields accepted]
  exact Run.exists_result_run_iff script file

/-! ## Accepted settings -/

/-- Nothing is less than itself. -/
theorem Numeral.Exact.less_self
    (value : Numeral.Exact) :
    value.less value = false := by
  cases value with
  | undefined =>
      rfl
  | infinite negative =>
      cases negative <;>
        rfl
  | finite mantissa exponent =>
      simp [less]

namespace Settings

/-- A settings record with whole weights and equal load bounds. -/
def wholeFields (disabled suppressed : Data) : List (Text × Data) := [
  ("event_weight", .number (.integer 1)),
  ("complexity_weight", .number (.integer 1)),
  ("timer_weight", .number (.integer 1)),
  ("spawner_weight", .number (.integer 1)),
  ("load_thresholds", .list [.number (.real 20.0), .number (.real 20.0), .number (.real 20.0)]),
  ("disabled_checkers", disabled),
  ("suppressed_ids", suppressed)
]

/-- The settings of such a record. -/
def whole (disabled suppressed : Data) : Settings where
  eventWeight := .integer 1
  complexityWeight := .integer 1
  timerWeight := .integer 1
  spawnerWeight := .integer 1
  loadBounds := ⟨20.0, 20.0, 20.0⟩
  disabledCheckers := disabled
  suppressedIds := suppressed

/-- Such a record is accepted whatever it disables and suppresses. -/
theorem ofFields_wholeFields
    (disabled suppressed : Data) :
    ofFields (wholeFields disabled suppressed) = .ok (whole disabled suppressed) := by
  have known : unknownNames ((wholeFields disabled suppressed).map Prod.fst) = [] := by
    have noneUnknown :
        ((wholeFields disabled suppressed).map Prod.fst).filter
          (fun name => !fieldNames.contains name) = [] := by
      rfl
    rw [unknownNames, noneUnknown, Text.sortedDistinct]
    simp
  have ascending : boundViolations [20.0, 20.0, 20.0] = [] := by
    simp [boundViolations, isAscending, Number.less, Numeral.Exact.less_self]
  have bounds :
      boundsField (wholeFields disabled suppressed) ({} : Settings).loadBounds =
        .ok [20.0, 20.0, 20.0] := by
    rfl
  unfold ofFields
  simp only [known, bounds, bind, Except.bind, ascending]
  rfl

end Settings

/-- Names in a text disable a checker and names in a record suppress ids.  The checker that
fails over a digit without a value reports that. -/
theorem run_returns_with_text_and_record :
    let fields :=
      Settings.wholeFields (.text "performance deadlocks") (.record [("stateMachine", .null)])
    ∃ settings results,
      Settings.ofData (.record fields) = .ok settings ∧
      (run .standard settings "int x = 0\nx:𖵱;" none "mission").result = .ok results ∧
      ∃ failed ∈ results.diagnostics,
        failed.id = "checkerInternalError" ∧ failed.checker = "mutex-patterns" := by
  intro fields
  let settings : Settings :=
    .whole (.text "performance deadlocks") (.record [("stateMachine", .null)])
  have accepted : Settings.ofData (.record fields) = .ok settings :=
    Settings.ofFields_wholeFields _ _
  have usable : Settings.Usable fields := by
    constructor
    · intro value given
      cases given
      exact .text _
    · intro value given
      cases given
      exact .record _
  obtain ⟨returns_iff, _, reportsFailures⟩ :=
    run_returns_iff_usable accepted "int x = 0\nx:𖵱;" "mission"
  obtain ⟨results, returns⟩ := returns_iff.mpr usable
  have fails :
      (Checker.locks.assess
        (Run.contextFor settings "int x = 0\nx:𖵱;" "mission" [])).toOption.isNone = true := by
    decide +kernel
  have enabled : settings.disables Checker.locks.name = .ok false := by
    rfl
  cases assessed :
      Checker.locks.assess (Run.contextFor settings "int x = 0\nx:𖵱;" "mission" []) with
  | ok findings =>
      rw [assessed] at fails
      cases fails
  | error failure =>
      have reported :=
        reportsFailures results returns .locks (by simp [Checker.standard]) enabled failure assessed
      exact ⟨settings, results, accepted, returns, _,
        List.mem_flatMap.mpr ⟨_, reported, List.mem_singleton_self _⟩, rfl, rfl⟩

/-- Null in place of the suppressed ids is accepted, and then the run cannot go through
them. -/
theorem not_run_returns_with_null_ids :
    let fields := Settings.wholeFields (.list []) .null
    ∃ settings,
      Settings.ofData (.record fields) = .ok settings ∧
        (run .standard settings "" none "<script>").result =
          .error (.kind (.notIterable "NoneType")) :=
  ⟨.whole (.list []) .null, Settings.ofFields_wholeFields _ _, rfl⟩

end MissionLint
