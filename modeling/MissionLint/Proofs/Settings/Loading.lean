import Mathlib.Algebra.Ring.Int.Defs
import MissionLint.Settings.Reader
import MissionLint.Proofs.Data.LongInteger
import MissionLint.Proofs.Numeral.Overflow
import MissionLint.Proofs.Text.Distinct

namespace MissionLint

/-!
# Records that are settings

A record with known fields only gives settings when its load bounds and its state names can
be converted and the settings follow their rules.  All other fields are kept as they are
given, and fields that are not given keep their defaults.  Any other record is refused as
settings, also when the name of a state holds an integer past the digit limit.  There is one
exception: a load bound that is an integer too large for a real ends the reading with an
overflow.
-/

/-! ## What settings are read from -/

namespace LoadBounds

/-- The bounds in ascending order of levels. -/
def toList (bounds : LoadBounds) : List Float :=
  [bounds.low, bounds.medium, bounds.high]

end LoadBounds

namespace Settings

/-- The weights under the names of their fields. -/
def weights (settings : Settings) : List (Text × Number) := [
  ("event_weight", settings.eventWeight), ("complexity_weight", settings.complexityWeight),
  ("timer_weight", settings.timerWeight), ("spawner_weight", settings.spawnerWeight)
]

/-- The thresholds under the names of their fields. -/
def thresholds (settings : Settings) : List (Text × Number) := [
  ("complexity_hint_threshold", settings.complexityHintThreshold),
  ("timer_hint_threshold", settings.timerHintThreshold),
  ("spawner_hint_threshold", settings.spawnerHintThreshold),
  ("event_hint_threshold", settings.eventHintThreshold),
  ("shared_cooldown_threshold", settings.sharedCooldownThreshold)
]

/-- The rules that settings break. -/
def violations (settings : Settings) : List Violation :=
  settings.weights.flatMap violationOf ++ boundViolations settings.loadBounds.toList ++
    settings.thresholds.flatMap violationOf

/-- The fields that are not converted. -/
def keptFields (settings : Settings) : List (Text × Data) :=
  let numbers := settings.weights ++ settings.thresholds
  let searched : List (Text × Data) := [
    ("disabled_checkers", settings.disabledCheckers), ("suppressed_ids", settings.suppressedIds)
  ]
  numbers.map (Prod.map id Data.number) ++ searched

/-- A value that names states: a record in which the name of each field spells an integer and
each value can be displayed. -/
inductive NamesStates : Data → Table Int Text → Prop
  | record {fields : List (Text × Data)} {entries : List (Int × Text)}
      (states : List.Forall₂
        (fun given entry =>
          Numeral.integerOf given.1 = .ok entry.1 ∧ given.2.display = .ok entry.2)
        fields entries) :
      NamesStates (.record fields) (Table.ofEntries entries)

/-- A record that gives settings.  Its fields are known, those that are not converted are
kept as given, those that are not given keep their defaults, and no rule is broken. -/
structure ReadFrom (fields : List (Text × Data)) (settings : Settings) : Prop where
  known : ∀ entry ∈ fields, entry.1 ∈ fieldNames
  kept :
    settings.keptFields =
      ({} : Settings).keptFields.map fun entry =>
        (entry.1, (Data.field? fields entry.1).getD entry.2)
  defaultBounds :
    Data.field? fields "load_thresholds" = none →
      settings.loadBounds = ({} : Settings).loadBounds
  givenBounds : ∀ value,
    Data.field? fields "load_thresholds" = some value →
      boundsOf value = .ok settings.loadBounds.toList
  defaultStateNames :
    Data.field? fields "state_names" = none →
      settings.stateNames = ({} : Settings).stateNames
  givenStateNames : ∀ value,
    Data.field? fields "state_names" = some value → NamesStates value settings.stateNames
  valid : settings.violations = []

/-- A record with known fields only, in which the first load bound that cannot be converted
is an integer too large for a real. -/
structure OverflowsBounds (fields : List (Text × Data)) : Prop where
  known : ∀ entry ∈ fields, entry.1 ∈ fieldNames
  tooLarge : ∃ before integer after,
    Data.field? fields "load_thresholds" =
        some (.list (before ++ .number (.integer integer) :: after)) ∧
      (∀ earlier ∈ before, ∃ bound, boundOf earlier = .ok bound) ∧
      2 ^ 1024 - 2 ^ 970 ≤ integer.natAbs

/-! ## Reading -/

/-- No field is unknown when all of them are settings. -/
theorem unknownNames_eq_nil_iff
    {fields : List (Text × Data)} :
    unknownNames (fields.map Prod.fst) = [] ↔ ∀ entry ∈ fields, entry.1 ∈ fieldNames := by
  rw [unknownNames, List.eq_nil_iff_forall_not_mem]
  simp

/-- A number is kept as it is given, or is the default. -/
theorem numberField_eq_ok_iff
    {fields : List (Text × Data)}
    {name : Text}
    {default number : Number} :
    numberField fields name default = .ok number ↔
      .number number = (Data.field? fields name).getD (.number default) := by
  unfold numberField
  cases Data.field? fields name with
  | none =>
      simp [eq_comm]
  | some value =>
      cases value <;>
        simp [numberOf, eq_comm]

/-- The load bounds are converted when they are given, or are the defaults. -/
theorem boundsField_eq_ok_iff
    {fields : List (Text × Data)}
    {default bounds : LoadBounds} :
    boundsField fields default = .ok bounds.toList ↔
      (Data.field? fields "load_thresholds" = none → bounds = default) ∧
        ∀ value, Data.field? fields "load_thresholds" = some value →
          boundsOf value = .ok bounds.toList := by
  unfold boundsField
  cases Data.field? fields "load_thresholds" <;>
    cases bounds <;> cases default <;>
    simp [LoadBounds.toList, eq_comm]

/-- The name of a state is what its value is displayed as. -/
theorem stateNameOf_eq_ok_iff
    {value : Data}
    {name : Text} :
    stateNameOf value = .ok name ↔ value.display = .ok name := by
  unfold stateNameOf
  cases value.display <;>
    simp [Except.mapError]

/-- A state is the integer that the name of its field spells. -/
theorem stateOf_eq_ok_iff
    {name : Text}
    {state : Int} :
    stateOf name = .ok state ↔ Numeral.integerOf name = .ok state := by
  unfold stateOf
  cases Numeral.integerOf name <;>
    simp [Except.mapError]

/-- State names are read from a value that names states. -/
theorem stateNamesOf_eq_ok_iff
    {value : Data}
    {names : Table Int Text} :
    stateNamesOf value = .ok names ↔ NamesStates value names := by
  have entry_iff (given : Text × Data) (entry : Int × Text) :
      (do return (← stateOf given.1, ← stateNameOf given.2) : Except Failure _) = .ok entry ↔
        Numeral.integerOf given.1 = .ok entry.1 ∧ given.2.display = .ok entry.2 := by
    rw [← stateOf_eq_ok_iff, ← stateNameOf_eq_ok_iff]
    cases stateOf given.1 <;> cases stateNameOf given.2 <;>
      simp [bind, Except.bind, pure, Except.pure, Prod.ext_iff]
  cases value with
  | record fields =>
      rw [stateNamesOf, Outcome.bind_eq_ok_iff]
      simp only [Outcome.mapM_eq_ok_iff_forall₂, entry_iff]
      constructor
      · rintro ⟨entries, states, ⟨⟩⟩
        exact .record states
      · rintro ⟨states⟩
        exact ⟨_, states, rfl⟩
  | _ =>
      refine iff_of_false (by simp [stateNamesOf]) ?_
      rintro ⟨⟩

/-- The state names are converted when they are given, or are the defaults. -/
theorem stateNamesField_eq_ok_iff
    {fields : List (Text × Data)}
    {default names : Table Int Text} :
    stateNamesField fields default = .ok names ↔
      (Data.field? fields "state_names" = none → names = default) ∧
        ∀ value, Data.field? fields "state_names" = some value → NamesStates value names := by
  unfold stateNamesField
  cases Data.field? fields "state_names" with
  | none =>
      simp [eq_comm]
  | some value =>
      simp [stateNamesOf_eq_ok_iff]

/-- A record from which settings are read gives them.  Every field is read before the rules are
looked at. -/
theorem readFrom_of_ofFields
    {fields : List (Text × Data)}
    {settings : Settings}
    (accepted : ofFields fields = .ok settings) :
    settings.ReadFrom fields := by
  unfold ofFields at accepted
  dsimp only at accepted
  split at accepted
  case isTrue =>
    cases accepted
  case isFalse known =>
    simp only [Outcome.bind_eq_ok_iff] at accepted
    obtain ⟨bounds, readBounds, stateNames, readStateNames, eventWeight, readEvent,
      complexityWeight, readComplexity, timerWeight, readTimer, spawnerWeight, readSpawner,
      complexityHint, readComplexityHint, timerHint, readTimerHint, spawnerHint, readSpawnerHint,
      eventHint, readEventHint, sharedCooldown, readSharedCooldown, accepted⟩ := accepted
    split at accepted
    case h_1 low medium high noneBroken =>
      cases accepted
      have readLoadBounds :
          boundsField fields _ = .ok (LoadBounds.toList ⟨low, medium, high⟩) := readBounds
      obtain ⟨defaultBounds, givenBounds⟩ := boundsField_eq_ok_iff.mp readLoadBounds
      obtain ⟨defaultStateNames, givenStateNames⟩ := stateNamesField_eq_ok_iff.mp readStateNames
      refine ⟨unknownNames_eq_nil_iff.mp (by simpa using known), ?_, defaultBounds, givenBounds,
        defaultStateNames, givenStateNames, noneBroken⟩
      simp [keptFields, weights, thresholds, ← numberField_eq_ok_iff, readEvent, readComplexity,
        readTimer, readSpawner, readComplexityHint, readTimerHint, readSpawnerHint, readEventHint,
        readSharedCooldown]
    case h_2 =>
      cases accepted

/-- Settings are read from a record that gives them. -/
theorem ofFields_of_readFrom
    {fields : List (Text × Data)}
    {settings : Settings}
    (readFrom : settings.ReadFrom fields) :
    ofFields fields = .ok settings := by
  have known := unknownNames_eq_nil_iff.mpr readFrom.known
  have readBounds := boundsField_eq_ok_iff.mpr ⟨readFrom.defaultBounds, readFrom.givenBounds⟩
  have readStateNames :=
    stateNamesField_eq_ok_iff.mpr ⟨readFrom.defaultStateNames, readFrom.givenStateNames⟩
  have kept := readFrom.kept
  simp only [keptFields, weights, thresholds, List.cons_append, List.nil_append, List.map_cons,
    List.map_nil, Prod.map, id_eq, ← numberField_eq_ok_iff, List.cons.injEq, Prod.mk.injEq,
    true_and, and_true] at kept
  obtain ⟨readEvent, readComplexity, readTimer, readSpawner, readComplexityHint, readTimerHint,
    readSpawnerHint, readEventHint, readSharedCooldown, isDisabled, isSuppressed⟩ := kept
  have noneBroken := readFrom.valid
  simp only [violations, weights, thresholds, LoadBounds.toList] at noneBroken
  unfold ofFields
  simp only [known, readBounds, readStateNames, readEvent, readComplexity, readTimer, readSpawner,
    readComplexityHint, readTimerHint, readSpawnerHint, readEventHint, readSharedCooldown, bind,
    Except.bind, LoadBounds.toList, noneBroken]
  rw [← isDisabled, ← isSuppressed]
  rfl

/-- The records from which settings are read are those that give them. -/
theorem ofFields_eq_ok_iff
    {fields : List (Text × Data)}
    {settings : Settings} :
    ofFields fields = .ok settings ↔ settings.ReadFrom fields :=
  ⟨readFrom_of_ofFields, ofFields_of_readFrom⟩

/-- The defaults break no rule. -/
example : ({} : Settings).violations = [] := by
  decide +kernel

/-- No value that names a state holds an integer past the digit limit. -/
theorem NamesStates.not_hasLongInteger
    {fields : List (Text × Data)}
    {names : Table Int Text}
    (namesStates : NamesStates (.record fields) names) :
    ∀ entry ∈ fields, ¬entry.2.HasLongInteger := by
  cases namesStates with
  | record states =>
      have displayed :
          List.Forall₂ (fun (given : Text × Data) (_ : Int × Text) =>
            ¬given.2.HasLongInteger ∧ True) fields _ :=
        states.imp fun given entry named =>
          ⟨Data.not_hasLongInteger_of_display named.2, trivial⟩
      exact ((List.forall₂_and_left _ _).mp displayed).1

/-! ## Refusing -/

/-- A failure that is a problem of settings. -/
def IsRefusal (failure : Failure) : Prop :=
  ∃ problem, failure = .settings problem

/-- A problem of settings is a refusal. -/
theorem failsWith_settings
    (problem : SettingsProblem) :
    Outcome.FailsWith IsRefusal (.error (.settings problem) : Except Failure α) := by
  rintro _ ⟨⟩
  exact ⟨problem, rfl⟩

/-- A failure that is worded as a problem of settings is a refusal. -/
theorem failsWith_mapError_settings
    (outcome : Except ε α)
    (wording : ε → SettingsProblem) :
    Outcome.FailsWith IsRefusal (outcome.mapError fun fault => .settings (wording fault)) :=
  Outcome.failsWith_mapError (fun fault => ⟨wording fault, rfl⟩) outcome

/-- What is no number is refused. -/
theorem failsWith_numberOf
    (value : Data) :
    Outcome.FailsWith IsRefusal (numberOf value) := by
  cases value with
  | number number =>
      exact Outcome.failsWith_ok number
  | _ =>
      exact failsWith_settings _

/-- A field that holds no number is refused. -/
theorem failsWith_numberField
    (fields : List (Text × Data))
    (name : Text)
    (default : Number) :
    Outcome.FailsWith IsRefusal (numberField fields name default) := by
  unfold numberField
  split
  · exact Outcome.failsWith_ok default
  · exact failsWith_numberOf _

/-- State names are refused when a state is no integer or its name cannot be written. -/
theorem failsWith_stateNamesOf
    (value : Data) :
    Outcome.FailsWith IsRefusal (stateNamesOf value) := by
  cases value with
  | record entries =>
      refine (Outcome.failsWith_mapM fun entry _ => ?_).bind fun _ => Outcome.failsWith_ok _
      exact (failsWith_mapError_settings _ _).bind fun _ =>
        (failsWith_mapError_settings _ _).bind fun _ => Outcome.failsWith_ok _
  | _ =>
      exact failsWith_settings _

/-- A field that names no states is refused. -/
theorem failsWith_stateNamesField
    (fields : List (Text × Data))
    (default : Table Int Text) :
    Outcome.FailsWith IsRefusal (stateNamesField fields default) := by
  unfold stateNamesField
  split
  · exact Outcome.failsWith_ok default
  · exact failsWith_stateNamesOf _

/-! ## Load bounds that are too large -/

/-- An integer overflows when the reals end before it. -/
theorem mapError_realOfInt_eq_error_iff
    {integer : Int}
    {failure : Failure} :
    (Number.realOfInt integer).mapError Failure.overflow = .error failure ↔
      2 ^ 1024 - 2 ^ 970 ≤ integer.natAbs ∧ failure = .overflow .tooLarge := by
  rw [← Number.realOfInt_eq_error_iff]
  cases Number.realOfInt integer with
  | error fault =>
      cases fault
      simp [Except.mapError, eq_comm]
  | ok real =>
      simp [Except.mapError]

/-- Among the values that are no load bounds, only integers overflow, as a truth value counts as
one or zero. -/
theorem isRefusal_or_integer_of_boundOf
    {value : Data}
    {failure : Failure}
    (fails : boundOf value = .error failure) :
    IsRefusal failure ∨
      ∃ integer : Int,
        value = .number (.integer integer) ∧ 2 ^ 1024 - 2 ^ 970 ≤ integer.natAbs := by
  cases value with
  | number number =>
      cases number with
      | flag isSet =>
          exfalso
          obtain ⟨tooLarge, _⟩ := mapError_realOfInt_eq_error_iff.mp fails
          revert tooLarge
          cases isSet <;>
            decide +kernel
      | integer integer =>
          exact .inr ⟨integer, rfl, (mapError_realOfInt_eq_error_iff.mp fails).1⟩
      | real value =>
          cases fails
  | text text =>
      exact .inl (failsWith_mapError_settings _ _ failure fails)
  | _ =>
      cases fails
      exact .inl ⟨_, rfl⟩

/-- The members of a text or of a record are texts. -/
theorem eq_list_of_number_mem
    {value : Data}
    {members : List Data}
    (areMembers : membersOf? value = some members)
    {number : Number}
    (isMember : .number number ∈ members) :
    value = .list members := by
  cases value with
  | list items =>
      cases areMembers
      rfl
  | text text =>
      cases areMembers
      simp at isMember
  | record fields =>
      cases areMembers
      simp at isMember
  | _ =>
      cases areMembers

/-- Load bounds are refused, unless the first that cannot be converted is an integer that
overflows. -/
theorem isRefusal_or_integer_of_boundsOf
    {value : Data}
    {failure : Failure}
    (fails : boundsOf value = .error failure) :
    IsRefusal failure ∨
      ∃ before integer after,
        value = .list (before ++ .number (.integer integer) :: after) ∧
          (∀ earlier ∈ before, ∃ bound, boundOf earlier = .ok bound) ∧
          2 ^ 1024 - 2 ^ 970 ≤ integer.natAbs := by
  unfold boundsOf at fails
  split at fails
  case h_1 members areMembers =>
    obtain ⟨before, item, after, rfl, earlierReturn, atItem⟩ :=
      Outcome.mapM_eq_error_iff.mp fails
    rcases isRefusal_or_integer_of_boundOf atItem with refused | ⟨integer, rfl, tooLarge⟩
    · exact .inl refused
    · have isList :=
        eq_list_of_number_mem areMembers (List.mem_append_right before List.mem_cons_self)
      exact .inr ⟨before, integer, after, isList, earlierReturn, tooLarge⟩
  case h_2 =>
    cases fails
    exact .inl ⟨_, rfl⟩

/-- Known fields are read one after another, and only the load bounds can overflow.  Once these
are read, all that can go wrong is a problem of settings. -/
theorem isRefusal_or_boundsField_of_ofFields
    {fields : List (Text × Data)}
    {failure : Failure}
    (fails : ofFields fields = .error failure) :
    IsRefusal failure ∨
      (∀ entry ∈ fields, entry.1 ∈ fieldNames) ∧
        boundsField fields ({} : Settings).loadBounds = .error failure := by
  unfold ofFields at fails
  dsimp only at fails
  split at fails
  case isTrue =>
    cases fails
    exact .inl ⟨_, rfl⟩
  case isFalse known =>
    rcases Outcome.eq_error_or_exists_of_bind fails with atBounds | ⟨bounds, _, later⟩
    · exact .inr ⟨unknownNames_eq_nil_iff.mp (by simpa using known), atBounds⟩
    · left
      revert later
      refine (failsWith_stateNamesField _ _).bind (fun stateNames => ?_) failure
      iterate 9 refine (failsWith_numberField _ _ _).bind fun number => ?_
      intro failure broken
      split at broken <;>
        cases broken
      exact ⟨_, rfl⟩

/-- A record that is not read is refused, unless its load bounds overflow. -/
theorem isRefusal_or_overflowsBounds_of_ofFields
    {fields : List (Text × Data)}
    {failure : Failure}
    (fails : ofFields fields = .error failure) :
    IsRefusal failure ∨ OverflowsBounds fields := by
  rcases isRefusal_or_boundsField_of_ofFields fails with refused | ⟨known, atBounds⟩
  · exact .inl refused
  · unfold boundsField at atBounds
    split at atBounds
    case h_1 =>
      cases atBounds
    case h_2 value given =>
      rcases isRefusal_or_integer_of_boundsOf atBounds with
        refused | ⟨before, integer, after, rfl, converted, tooLarge⟩
      · exact .inl refused
      · exact .inr ⟨known, before, integer, after, given, converted, tooLarge⟩

/-- Load bounds that overflow end the reading of a record. -/
theorem ofFields_of_overflowsBounds
    {fields : List (Text × Data)}
    (overflows : OverflowsBounds fields) :
    ofFields fields = .error (.overflow .tooLarge) := by
  obtain ⟨known, before, integer, after, given, converted, tooLarge⟩ := overflows
  have atItem : boundOf (.number (.integer integer)) = .error (.overflow .tooLarge) :=
    mapError_realOfInt_eq_error_iff.mpr ⟨tooLarge, rfl⟩
  have atBounds :
      boundsField fields ({} : Settings).loadBounds = .error (.overflow .tooLarge) := by
    unfold boundsField
    rw [given]
    exact Outcome.mapM_eq_error_iff.mpr ⟨before, _, after, rfl, converted, atItem⟩
  unfold ofFields
  simp only [unknownNames_eq_nil_iff.mpr known, atBounds]
  rfl

/-- A record is read as the settings that it gives, or it is refused as settings. -/
def LoadsOrRefuses (fields : List (Text × Data)) : Prop :=
  (∃ settings, ofData (.record fields) = .ok settings ∧ settings.ReadFrom fields) ∨
    ∃ problem, ofData (.record fields) = .error (.settings problem)

/-- Fields that overflow are neither read nor refused as settings. -/
theorem not_loadsOrRefuses_of_overflowsBounds
    {fields : List (Text × Data)}
    (overflows : OverflowsBounds fields) :
    ¬LoadsOrRefuses fields := by
  have fails := ofFields_of_overflowsBounds overflows
  rintro (⟨_, returns, _⟩ | ⟨_, refuses⟩)
  · cases fails.symm.trans returns
  · cases fails.symm.trans refuses

/-- Reading a record returns the settings that it gives or refuses it as settings, unless its
fields are known and the first load bound that cannot be converted is an integer too large
for a real.  Then, and only then, it ends with an overflow.  A name of a state that holds an
integer past the digit limit is not read. -/
theorem loads_or_refuses_unless_bounds_overflow
    (fields : List (Text × Data)) :
    (LoadsOrRefuses fields ↔ ¬OverflowsBounds fields) ∧
      (OverflowsBounds fields ↔ ofData (.record fields) = .error (.overflow .tooLarge)) ∧
      (∀ settings, ofData (.record fields) = .ok settings ↔ settings.ReadFrom fields) ∧
      ∀ states, Data.field? fields "state_names" = some (.record states) →
        (∃ entry ∈ states, entry.2.HasLongInteger) →
          ∀ settings, ofData (.record fields) ≠ .ok settings := by
  refine ⟨⟨?_, ?_⟩, ⟨ofFields_of_overflowsBounds, ?_⟩, fun _ => ofFields_eq_ok_iff, ?_⟩
  · intro loads overflows
    exact not_loadsOrRefuses_of_overflowsBounds overflows loads
  · intro fits
    cases outcome : ofData (.record fields) with
    | ok settings =>
        exact .inl ⟨settings, outcome, ofFields_eq_ok_iff.mp outcome⟩
    | error failure =>
        obtain ⟨problem, rfl⟩ :=
          (isRefusal_or_overflowsBounds_of_ofFields outcome).resolve_right fits
        exact .inr ⟨problem, outcome⟩
  · intro fails
    refine (isRefusal_or_overflowsBounds_of_ofFields fails).resolve_left ?_
    rintro ⟨problem, isSettings⟩
    cases isSettings
  · rintro states given ⟨entry, isState, long⟩ settings returns
    have namesStates := (ofFields_eq_ok_iff.mp returns).givenStateNames _ given
    exact namesStates.not_hasLongInteger entry isState long

/-- A load bound of four hundred zeros is neither read nor refused as settings. -/
theorem not_loadsOrRefuses_of_large_bound :
    ¬LoadsOrRefuses [("load_thresholds", .list [.number (.integer (10 ^ 400))])] := by
  apply not_loadsOrRefuses_of_overflowsBounds
  refine ⟨by decide, [], 10 ^ 400, [], rfl, by simp, ?_⟩
  rw [Int.natAbs_pow]
  decide +kernel

end Settings

end MissionLint
