import Mathlib.Data.List.Forall2

namespace MissionLint

/-!
# Outcomes

A step returns a result or fails.  What a sequence of steps and a traversal return, and how
they fail, is told from their parts.
-/

namespace Outcome

/-! ## Steps and traversals -/

/-- An outcome returns when it is some result. -/
theorem isOk_eq_true_iff
    {outcome : Except ε α} :
    outcome.isOk = true ↔ ∃ value, outcome = .ok value := by
  cases outcome <;>
    simp [Except.isOk, Except.toBool]

/-- A step that does not depend on the one before it fails for its own reasons. -/
theorem isOk_bind
    {outcome : Except ε α}
    {next : α → Except ε β}
    {goesOn : Bool}
    (continues : ∀ value, outcome = .ok value → (next value).isOk = goesOn) :
    (outcome >>= next).isOk = (outcome.isOk && goesOn) := by
  cases outcome with
  | error fault =>
      rfl
  | ok value =>
      exact continues value rfl

/-- The first of two steps in sequence returns when both do. -/
theorem isOk_of_isOk_bind
    {outcome : Except ε α}
    {next : α → Except ε β}
    (returns : (outcome >>= next).isOk = true) :
    outcome.isOk = true := by
  cases outcome with
  | error fault =>
      exact returns
  | ok value =>
      rfl

/-- A step that only reshapes a result does not fail. -/
theorem isOk_bind_pure
    (outcome : Except ε α)
    (result : α → β) :
    (outcome >>= fun value => pure (result value)).isOk = outcome.isOk := by
  cases outcome <;>
    rfl

/-- A traversal fails exactly when one of its items does. -/
theorem isOk_mapM
    (step : α → Except ε β)
    (items : List α) :
    (items.mapM step).isOk = items.all fun item => (step item).isOk := by
  induction items with
  | nil =>
      rfl
  | cons item rest inductionHypothesis =>
      rw [List.mapM_cons, List.all_cons, ← inductionHypothesis]
      apply isOk_bind
      intro value _
      exact isOk_bind_pure _ _

/-- Changing what every item gives changes what the traversal gives. -/
theorem mapM_eq_map
    {step other : α → Except ε β}
    {change : β → β}
    (changes : ∀ item, other item = (step item).map change)
    (items : List α) :
    items.mapM other = (items.mapM step).map (List.map change) := by
  induction items with
  | nil =>
      rfl
  | cons item rest inductionHypothesis =>
      rw [List.mapM_cons, List.mapM_cons, changes, inductionHypothesis]
      cases step item with
      | error fault =>
          rfl
      | ok value =>
          cases rest.mapM step <;>
            rfl

/-- Two traversals agree up to a change where all their items do. -/
theorem map_mapM_congr
    {step other : α → Except ε β}
    {change : β → β}
    (agree : ∀ item, (other item).map change = (step item).map change)
    (items : List α) :
    (items.mapM other).map (List.map change) = (items.mapM step).map (List.map change) := by
  calc
    (items.mapM other).map (List.map change) =
        items.mapM fun item => (other item).map change :=
      (mapM_eq_map (fun _ => rfl) items).symm
    _ = items.mapM fun item => (step item).map change := by
      simp only [agree]
    _ = (items.mapM step).map (List.map change) :=
      mapM_eq_map (fun _ => rfl) items

/-- Both of two steps in sequence return when the sequence does. -/
theorem exists_of_bind
    {outcome : Except ε α}
    {next : α → Except ε β}
    {result : β}
    (returns : (outcome >>= next) = .ok result) :
    ∃ value, outcome = .ok value ∧ next value = .ok result := by
  cases outcome with
  | error fault =>
      cases returns
  | ok value =>
      exact ⟨value, rfl, returns⟩

/-- A sequence returns what its second step returns after its first one. -/
theorem bind_eq_ok_iff
    {outcome : Except ε α}
    {next : α → Except ε β}
    {result : β} :
    (outcome >>= next) = .ok result ↔ ∃ value, outcome = .ok value ∧ next value = .ok result := by
  constructor
  · exact exists_of_bind
  · rintro ⟨value, returns, goesOn⟩
    rw [returns]
    exact goesOn

/-- A reshaped result comes from a result. -/
theorem exists_of_map
    {outcome : Except ε α}
    {result : α → β}
    {value : β}
    (returns : outcome.map result = .ok value) :
    ∃ original, outcome = .ok original ∧ result original = value := by
  cases outcome with
  | error fault =>
      cases returns
  | ok original =>
      exact ⟨original, rfl, Except.ok.inj returns⟩

/-- One of two steps that fail in sequence fails by itself. -/
theorem eq_error_or_exists_of_bind
    {outcome : Except ε α}
    {next : α → Except ε β}
    {failure : ε}
    (fails : (outcome >>= next) = .error failure) :
    outcome = .error failure ∨ ∃ value, outcome = .ok value ∧ next value = .error failure := by
  cases outcome with
  | error fault =>
      exact .inl (congrArg Except.error (Except.error.inj fails))
  | ok value =>
      exact .inr ⟨value, rfl, fails⟩

/-- Reshaping a result leaves failures as they are. -/
theorem eq_error_of_map
    {outcome : Except ε α}
    {result : α → β}
    {failure : ε}
    (fails : outcome.map result = .error failure) :
    outcome = .error failure := by
  cases outcome with
  | error fault =>
      exact congrArg Except.error (Except.error.inj fails)
  | ok value =>
      cases fails

/-- Another wording of failures leaves results as they are. -/
theorem eq_ok_of_mapError
    {outcome : Except ε α}
    {wording : ε → δ}
    {value : α}
    (returns : outcome.mapError wording = .ok value) :
    outcome = .ok value := by
  cases outcome with
  | error fault =>
      cases returns
  | ok original =>
      exact congrArg Except.ok (Except.ok.inj returns)

/-- A traversal of an item and more returns what the item gives and what the others give. -/
theorem mapM_cons_eq_ok_iff
    {step : α → Except ε β}
    {item : α}
    {rest : List α}
    {results : List β} :
    (item :: rest).mapM step = .ok results ↔
      ∃ first others,
        step item = .ok first ∧ rest.mapM step = .ok others ∧ results = first :: others := by
  rw [List.mapM_cons]
  constructor
  · intro returns
    obtain ⟨first, isFirst, goesOn⟩ := exists_of_bind returns
    obtain ⟨others, areOthers, areResults⟩ := exists_of_bind goesOn
    exact ⟨first, others, isFirst, areOthers, (Except.ok.inj areResults).symm⟩
  · rintro ⟨first, others, isFirst, areOthers, rfl⟩
    rw [isFirst, areOthers]
    rfl

/-- A traversal returns when every item does, and it returns what they give. -/
theorem mapM_eq_ok_iff
    {step : α → Except ε β}
    {items : List α}
    {results : List β} :
    items.mapM step = .ok results ↔ items.map step = results.map .ok := by
  induction items generalizing results with
  | nil =>
      cases results <;>
        simp [pure, Except.pure]
  | cons item rest inductionHypothesis =>
      rw [mapM_cons_eq_ok_iff, List.map_cons]
      constructor
      · rintro ⟨first, others, isFirst, areOthers, rfl⟩
        rw [isFirst, inductionHypothesis.mp areOthers, List.map_cons]
      · intro areResults
        obtain ⟨first, others, rfl, isFirst, areOthers⟩ :=
          List.map_eq_cons_iff.mp areResults.symm
        exact ⟨first, others, isFirst.symm, inductionHypothesis.mpr areOthers.symm, rfl⟩

/-- A traversal returns what its items return. -/
theorem mapM_eq_ok
    {step : α → Except ε β}
    {result : α → β}
    {items : List α}
    (returns : ∀ item ∈ items, step item = .ok (result item)) :
    items.mapM step = .ok (items.map result) := by
  rw [mapM_eq_ok_iff, List.map_map]
  exact List.map_congr_left returns

/-- A traversal returns, one by one, what its items give. -/
theorem mapM_eq_ok_iff_forall₂
    {step : α → Except ε β}
    {items : List α}
    {results : List β} :
    items.mapM step = .ok results ↔
      List.Forall₂ (fun item result => step item = .ok result) items results := by
  rw [mapM_eq_ok_iff, ← List.forall₂_eq_eq_eq, List.forall₂_map_left_iff,
    List.forall₂_map_right_iff]

/-- A traversal fails as the first of its items that fails. -/
theorem mapM_eq_error_iff
    {step : α → Except ε β}
    {items : List α}
    {failure : ε} :
    items.mapM step = .error failure ↔
      ∃ before item after,
        items = before ++ item :: after ∧
          (∀ earlier ∈ before, ∃ result, step earlier = .ok result) ∧
          step item = .error failure := by
  induction items with
  | nil =>
      simp [pure, Except.pure]
  | cons first rest inductionHypothesis =>
      rw [List.mapM_cons]
      constructor
      · intro fails
        rcases eq_error_or_exists_of_bind fails with atFirst | ⟨result, returns, goesOn⟩
        · exact ⟨[], first, rest, rfl, by simp, atFirst⟩
        · rcases eq_error_or_exists_of_bind goesOn with later | ⟨_, _, returned⟩
          · obtain ⟨before, item, after, rfl, earlierReturn, atItem⟩ :=
              inductionHypothesis.mp later
            exact ⟨first :: before, item, after, rfl,
              List.forall_mem_cons.mpr ⟨⟨result, returns⟩, earlierReturn⟩, atItem⟩
          · cases returned
      · rintro ⟨before, item, after, isSplit, earlierReturn, atItem⟩
        cases before with
        | nil =>
            obtain ⟨rfl, rfl⟩ := List.cons.inj isSplit
            rw [atItem]
            rfl
        | cons earliest others =>
            obtain ⟨rfl, rfl⟩ := List.cons.inj isSplit
            obtain ⟨⟨result, returns⟩, othersReturn⟩ := List.forall_mem_cons.mp earlierReturn
            have later :=
              inductionHypothesis.mpr ⟨others, item, after, rfl, othersReturn, atItem⟩
            rw [returns, later]
            rfl

/-- What a traversal that returns gives is what its items give. -/
theorem mem_mapM_iff
    {step : α → Except ε β}
    {items : List α}
    {results : List β}
    (returns : items.mapM step = .ok results)
    {result : β} :
    result ∈ results ↔ ∃ item ∈ items, step item = .ok result := by
  have okInjective : Function.Injective (Except.ok : β → Except ε β) :=
    fun _ _ same => Except.ok.inj same
  rw [← List.mem_map_of_injective okInjective, ← mapM_eq_ok_iff.mp returns, List.mem_map]

/-- No item of a traversal that returns fails. -/
theorem exists_ok_of_mapM
    {step : α → Except ε β}
    {items : List α}
    {results : List β}
    (returns : items.mapM step = .ok results)
    {item : α}
    (member : item ∈ items) :
    ∃ result, step item = .ok result := by
  have isResult : step item ∈ results.map .ok :=
    mapM_eq_ok_iff.mp returns ▸ List.mem_map_of_mem member
  obtain ⟨result, _, returned⟩ := List.mem_map.mp isResult
  exact ⟨result, returned.symm⟩

/-! ## Reasons of failures -/

/-- An outcome fails only for certain reasons. -/
def FailsWith (reasons : ε → Prop) (outcome : Except ε α) : Prop :=
  ∀ fault, outcome = .error fault → reasons fault

/-- An outcome that returns fails for no reason. -/
theorem failsWith_ok
    {reasons : ε → Prop}
    (value : α) :
    FailsWith reasons (.ok value) := by
  rintro fault ⟨⟩

/-- A sequence fails for the reasons of its steps. -/
theorem FailsWith.bind
    {reasons : ε → Prop}
    {outcome : Except ε α}
    {next : α → Except ε β}
    (first : FailsWith reasons outcome)
    (later : ∀ value, FailsWith reasons (next value)) :
    FailsWith reasons (outcome >>= next) := by
  cases outcome with
  | error fault =>
      rintro _ ⟨⟩
      exact first fault rfl
  | ok value =>
      exact later value

/-- Reshaping a result adds no reason to fail. -/
theorem FailsWith.map
    {reasons : ε → Prop}
    {outcome : Except ε α}
    (fails : FailsWith reasons outcome)
    (result : α → β) :
    FailsWith reasons (outcome.map result) := by
  cases outcome with
  | error fault =>
      rintro _ ⟨⟩
      exact fails fault rfl
  | ok value =>
      exact failsWith_ok _

/-- A failure in other words has a reason in the words before. -/
theorem FailsWith.mapError
    {reasons : ε → Prop}
    {others : δ → Prop}
    {outcome : Except ε α}
    (fails : FailsWith reasons outcome)
    {wording : ε → δ}
    (reworded : ∀ fault, reasons fault → others (wording fault)) :
    FailsWith others (outcome.mapError wording) := by
  cases outcome with
  | error fault =>
      rintro _ ⟨⟩
      exact reworded fault (fails fault rfl)
  | ok value =>
      exact failsWith_ok _

/-- A failure in other words, all of which are reasons. -/
theorem failsWith_mapError
    {reasons : δ → Prop}
    {wording : ε → δ}
    (reworded : ∀ fault, reasons (wording fault))
    (outcome : Except ε α) :
    FailsWith reasons (outcome.mapError wording) := by
  have anyReason : FailsWith (fun _ => True) outcome := fun _ _ => trivial
  exact anyReason.mapError fun fault _ => reworded fault

/-- A traversal fails for the reasons of its items. -/
theorem failsWith_mapM
    {reasons : ε → Prop}
    {step : α → Except ε β}
    {items : List α}
    (each : ∀ item ∈ items, FailsWith reasons (step item)) :
    FailsWith reasons (items.mapM step) := by
  intro fault fails
  obtain ⟨_, item, _, rfl, _, atItem⟩ := mapM_eq_error_iff.mp fails
  exact each item (by simp) fault atItem

/-- A traversal in which an item fails, and none for another reason, fails for that reason. -/
theorem mapM_eq_error_of_mem
    {step : α → Except ε β}
    {items : List α}
    {reason : ε}
    (each : ∀ item ∈ items, FailsWith (· = reason) (step item))
    {item : α}
    (member : item ∈ items)
    (fails : step item = .error reason) :
    items.mapM step = .error reason := by
  cases outcome : items.mapM step with
  | ok results =>
      obtain ⟨result, returns⟩ := exists_ok_of_mapM outcome member
      cases fails.symm.trans returns
  | error fault =>
      rw [failsWith_mapM each fault outcome]

end Outcome

end MissionLint
