import MissionLint.Data
import MissionLint.Proofs.Numeral.Conversion
import MissionLint.Proofs.Outcome

namespace MissionLint

/-!
# Values that cannot be written

An integer is written within the digit limit only.  So a value is written out unless it holds
an integer past that limit, itself or in one of its parts, however deep.
-/

/-- Integers are compared as they are. -/
theorem Number.less_integer
    (left right : Int) :
    (integer left).less (.integer right) = decide (left < right) := by
  simp [less, exact, Numeral.Exact.ofInt, Numeral.Exact.less, Numeral.Exact.scaled, Int.pow]

namespace Data

/-- A value that holds an integer past the digit limit, itself or in one of its parts. -/
inductive HasLongInteger : Data → Prop
  | integer {value : Int} (long : 10 ^ digitLimit ≤ value.natAbs) :
      HasLongInteger (.number (.integer value))
  | item {items : List Data} {item : Data} (isItem : item ∈ items) (long : HasLongInteger item) :
      HasLongInteger (.list items)
  | field {fields : List (Text × Data)} {entry : Text × Data} (isField : entry ∈ fields)
      (long : HasLongInteger entry.2) :
      HasLongInteger (.record fields)

/-- A number is past the limit when it is an integer past the limit. -/
theorem hasLongInteger_number_iff
    {value : Number} :
    HasLongInteger (.number value) ↔
      ∃ integer, value = .integer integer ∧ 10 ^ digitLimit ≤ integer.natAbs := by
  constructor
  · rintro ⟨long⟩
    exact ⟨_, rfl, long⟩
  · rintro ⟨integer, rfl, long⟩
    exact .integer long

/-- A list is past the limit where one of its items is. -/
theorem hasLongInteger_list_iff
    {items : List Data} :
    HasLongInteger (.list items) ↔ ∃ item ∈ items, item.HasLongInteger := by
  constructor
  · rintro ⟨⟩
    exact ⟨_, ‹_›, ‹_›⟩
  · rintro ⟨item, isItem, long⟩
    exact .item isItem long

/-- A record is past the limit where the value of one of its fields is. -/
theorem hasLongInteger_record_iff
    {fields : List (Text × Data)} :
    HasLongInteger (.record fields) ↔ ∃ entry ∈ fields, entry.2.HasLongInteger := by
  constructor
  · rintro ⟨⟩
    exact ⟨_, ‹_›, ‹_›⟩
  · rintro ⟨entry, isField, long⟩
    exact .field isField long

/-- Induction over documents: lists follow from their items, and records from the values of
their fields. -/
theorem induction_on
    {holds : Data → Prop}
    (null : holds .null)
    (number : ∀ value, holds (.number value))
    (text : ∀ value, holds (.text value))
    (list : ∀ items, (∀ item ∈ items, holds item) → holds (.list items))
    (record : ∀ fields, (∀ entry ∈ fields, holds entry.2) → holds (.record fields))
    (value : Data) :
    holds value := by
  refine @Data.rec holds (fun items => ∀ item ∈ items, holds item)
    (fun fields => ∀ entry ∈ fields, holds entry.2) (fun entry => holds entry.2)
    null number text list record ?_ ?_ ?_ ?_ ?_ value
  · simp
  · intro item rest first others
    exact List.forall_mem_cons.mpr ⟨first, others⟩
  · simp
  · intro entry rest first others
    exact List.forall_mem_cons.mpr ⟨first, others⟩
  · intro name value held
    exact held

/-! ## Writing -/

/-- The items of a list are written one after another. -/
theorem literals_eq_mapM
    (items : List Data) :
    literals items = items.mapM literal := by
  induction items with
  | nil =>
      rw [literals]
      rfl
  | cons item rest inductionHypothesis =>
      rw [literals, List.mapM_cons, inductionHypothesis]

/-- The fields of a record are written one after another. -/
theorem fieldLiterals_eq_mapM
    (fields : List (Text × Data)) :
    fieldLiterals fields =
      fields.mapM fun entry => do return Text.quoted entry.1 ++ ": " ++ (← literal entry.2) := by
  induction fields with
  | nil =>
      rw [fieldLiterals]
      rfl
  | cons entry rest inductionHypothesis =>
      rw [fieldLiterals, List.mapM_cons, inductionHypothesis, bind_assoc]
      rfl

/-- A number is written out unless it is an integer past the digit limit. -/
theorem isOk_numberText_iff
    {value : Number} :
    (numberText value).isOk = true ↔ ¬HasLongInteger (.number value) := by
  rw [hasLongInteger_number_iff]
  cases value with
  | flag isSet =>
      cases isSet <;>
        simp [numberText, Except.isOk, Except.toBool]
  | integer integer =>
      simp [numberText, Numeral.isOk_writeInteger]
  | real real =>
      simp [numberText, Except.isOk, Except.toBool]

/-- A value is written out unless it holds an integer past the digit limit. -/
theorem isOk_literal_iff
    (value : Data) :
    value.literal.isOk = true ↔ ¬value.HasLongInteger := by
  induction value using induction_on with
  | null =>
      rw [literal]
      exact iff_of_true rfl (by rintro ⟨⟩)
  | number value =>
      rw [literal]
      exact isOk_numberText_iff
  | text value =>
      rw [literal]
      exact iff_of_true rfl (by rintro ⟨⟩)
  | list items inductionHypothesis =>
      rw [literal, literals_eq_mapM, Outcome.isOk_bind_pure, Outcome.isOk_mapM,
        List.all_eq_true, hasLongInteger_list_iff]
      simp only [not_exists, not_and]
      exact forall₂_congr inductionHypothesis
  | record fields inductionHypothesis =>
      rw [literal, fieldLiterals_eq_mapM, Outcome.isOk_bind_pure, Outcome.isOk_mapM,
        List.all_eq_true, hasLongInteger_record_iff]
      simp only [Outcome.isOk_bind_pure, not_exists, not_and]
      exact forall₂_congr inductionHypothesis

/-- All that can stop the writing of a number is the limit of what is written. -/
theorem failsWith_numberText
    (value : Number) :
    Outcome.FailsWith (· = .writing) (numberText value) := by
  cases value with
  | flag isSet =>
      cases isSet <;>
        exact Outcome.failsWith_ok _
  | integer integer =>
      rw [numberText, Numeral.writeInteger]
      split
      · rintro _ ⟨⟩
        rfl
      · exact Outcome.failsWith_ok _
  | real real =>
      exact Outcome.failsWith_ok _

/-- All that can stop the writing of a value is the limit of what is written. -/
theorem failsWith_literal
    (value : Data) :
    Outcome.FailsWith (· = .writing) value.literal := by
  induction value using induction_on with
  | null =>
      rw [literal]
      exact Outcome.failsWith_ok _
  | number value =>
      rw [literal]
      exact failsWith_numberText value
  | text value =>
      rw [literal]
      exact Outcome.failsWith_ok _
  | list items inductionHypothesis =>
      rw [literal, literals_eq_mapM]
      exact (Outcome.failsWith_mapM inductionHypothesis).bind fun _ => Outcome.failsWith_ok _
  | record fields inductionHypothesis =>
      rw [literal, fieldLiterals_eq_mapM]
      refine (Outcome.failsWith_mapM fun entry isField => ?_).bind fun _ => Outcome.failsWith_ok _
      exact (inductionHypothesis entry isField).bind fun _ => Outcome.failsWith_ok _

/-- Writing a value fails at the limit, and exactly when it holds an integer past it. -/
theorem literal_eq_error_iff
    {value : Data}
    {limit : DigitLimit} :
    value.literal = .error limit ↔ limit = .writing ∧ value.HasLongInteger := by
  have written_iff := value.isOk_literal_iff
  have limited := value.failsWith_literal
  cases outcome : value.literal with
  | ok shown =>
      rw [outcome] at written_iff
      simp [written_iff.mp rfl]
  | error fault =>
      rw [outcome] at written_iff limited
      obtain rfl := limited fault rfl
      have long : value.HasLongInteger := by
        by_contra short
        cases written_iff.mpr short
      simp [long, eq_comm]

/-- A value has a text unless it holds an integer past the digit limit. -/
theorem display_eq_error_iff
    {value : Data}
    {limit : DigitLimit} :
    value.display = .error limit ↔ limit = .writing ∧ value.HasLongInteger := by
  cases value with
  | text value =>
      refine iff_of_false (by simp [display]) ?_
      rintro ⟨_, ⟨⟩⟩
  | _ =>
      exact literal_eq_error_iff

/-- A value that has a text holds no integer past the digit limit. -/
theorem not_hasLongInteger_of_display
    {value : Data}
    {text : Text}
    (displays : value.display = .ok text) :
    ¬value.HasLongInteger := by
  intro long
  rw [display_eq_error_iff.mpr ⟨rfl, long⟩] at displays
  cases displays

/-- A value with an integer past the limit is something. -/
theorem HasLongInteger.isSomething
    {value : Data}
    (long : value.HasLongInteger) :
    value.isSomething = true := by
  cases long with
  | @integer integer long =>
      have large : 0 < integer.natAbs :=
        Nat.lt_of_lt_of_le (Nat.pow_pos (by decide)) long
      have apart : 0 < integer ∨ integer < 0 := by
        omega
      simp [Data.isSomething, Number.less_integer, apart]
  | item isItem =>
      simpa [Data.isSomething] using List.ne_nil_of_mem isItem
  | field isField =>
      simpa [Data.isSomething] using List.ne_nil_of_mem isField

end Data

end MissionLint
