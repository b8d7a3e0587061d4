import MissionLint.Settings
import MissionLint.Failure

namespace MissionLint

/-!
# Reading settings

Settings are read from a record.  Unknown fields come first, then the fields that
are converted, then the rules that the numbers have to follow.  Fields that are
not given keep their defaults.
-/

namespace Settings

/-- The fields of a settings record. -/
def fieldNames : List Text := [
  "event_weight", "complexity_weight", "timer_weight", "spawner_weight", "load_thresholds",
  "complexity_hint_threshold", "timer_hint_threshold", "spawner_hint_threshold",
  "event_hint_threshold", "shared_cooldown_threshold", "state_names", "disabled_checkers",
  "suppressed_ids"
]

/-- A value as the real that a load bound is. -/
def boundOf : Data → Except Failure Float
  | .number value => value.toReal.mapError .overflow
  | .text text =>
      (Numeral.realOf text).mapError fun fault => .settings (.bounds (.numeral fault))
  | value => .error (.settings (.bounds (.numeral (.notNumeric value.kindName))))

/-- What a value has one after another: the items of a list, the characters of a
text, the names of a record. -/
def membersOf? : Data → Option (List Data)
  | .list items => some items
  | .text text => some (text.map fun c => .text [c])
  | .record fields => some (fields.map fun entry => .text entry.1)
  | _ => none

/-- The load bounds that a value gives, however many. -/
def boundsOf (value : Data) : Except Failure (List Float) :=
  match membersOf? value with
  | some members => members.mapM boundOf
  | none => .error (.settings (.bounds (.kind (.notIterable value.kindName))))

/-- The integer that the name of a field spells. -/
def stateOf (name : Text) : Except Failure Int :=
  (Numeral.integerOf name).mapError fun fault => .settings (.stateNames (.numeral fault))

/-- The name that a value gives a state. -/
def stateNameOf (value : Data) : Except Failure Text :=
  value.display.mapError fun limit => .settings (.stateNames (.numeral (.tooLong limit)))

/-- The state names that a value gives. -/
def stateNamesOf : Data → Except Failure (Table Int Text)
  | .record fields => do
      let entries ← fields.mapM fun entry => do
        return (← stateOf entry.1, ← stateNameOf entry.2)
      return Table.ofEntries entries
  | value => .error (.settings (.stateNames (.kind (.noAttribute value.kindName "items"))))

/-- A value that must be a number. -/
def numberOf : Data → Except Failure Number
  | .number value => .ok value
  | value => .error (.settings (.wrongKind (.notOrdered value.kindName)))

/-- Whether no value is less than the one before it. -/
def isAscending : List Float → Bool
  | first :: second :: rest =>
      !(Number.real second).less (.real first) && isAscending (second :: rest)
  | _ => true

/-- The rule that a number under a name breaks. -/
def violationOf (field : Text × Number) : List Violation :=
  if field.2.less (.integer 0) then [.negative field.1] else []

/-- The rules that load bounds break. -/
def boundViolations (bounds : List Float) : List Violation :=
  if bounds.length != 3 then
    [.boundCount]
  else if isAscending bounds then
    []
  else
    [.boundOrder]

/-- The load bounds of a record, or the given ones. -/
def boundsField
    (fields : List (Text × Data))
    (default : LoadBounds) :
    Except Failure (List Float) :=
  match Data.field? fields "load_thresholds" with
  | none => .ok [default.low, default.medium, default.high]
  | some value => boundsOf value

/-- The state names of a record, or the given ones. -/
def stateNamesField
    (fields : List (Text × Data))
    (default : Table Int Text) :
    Except Failure (Table Int Text) :=
  match Data.field? fields "state_names" with
  | none => .ok default
  | some value => stateNamesOf value

/-- A field that must be a number, or its default. -/
def numberField
    (fields : List (Text × Data))
    (name : Text)
    (default : Number) :
    Except Failure Number :=
  match Data.field? fields name with
  | none => .ok default
  | some value => numberOf value

/-- The names of the fields that are no settings, in ascending order. -/
def unknownNames (names : List Text) : List Text :=
  Text.sortedDistinct (names.filter fun name => !fieldNames.contains name)

/-- Read settings from the fields of a record. -/
def ofFields (fields : List (Text × Data)) : Except Failure Settings := do
  let defaults : Settings := {}
  let unknown := unknownNames (fields.map Prod.fst)
  if !unknown.isEmpty then
    throw (.settings (.unknownFields unknown))
  let bounds ← boundsField fields defaults.loadBounds
  let stateNames ← stateNamesField fields defaults.stateNames
  let eventWeight ← numberField fields "event_weight" defaults.eventWeight
  let complexityWeight ← numberField fields "complexity_weight" defaults.complexityWeight
  let timerWeight ← numberField fields "timer_weight" defaults.timerWeight
  let spawnerWeight ← numberField fields "spawner_weight" defaults.spawnerWeight
  let complexityHint ←
    numberField fields "complexity_hint_threshold" defaults.complexityHintThreshold
  let timerHint ← numberField fields "timer_hint_threshold" defaults.timerHintThreshold
  let spawnerHint ← numberField fields "spawner_hint_threshold" defaults.spawnerHintThreshold
  let eventHint ← numberField fields "event_hint_threshold" defaults.eventHintThreshold
  let sharedCooldown ←
    numberField fields "shared_cooldown_threshold" defaults.sharedCooldownThreshold
  let weights : List (Text × Number) := [
    ("event_weight", eventWeight), ("complexity_weight", complexityWeight),
    ("timer_weight", timerWeight), ("spawner_weight", spawnerWeight)
  ]
  let thresholds : List (Text × Number) := [
    ("complexity_hint_threshold", complexityHint), ("timer_hint_threshold", timerHint),
    ("spawner_hint_threshold", spawnerHint), ("event_hint_threshold", eventHint),
    ("shared_cooldown_threshold", sharedCooldown)
  ]
  let broken :=
    weights.flatMap violationOf ++ boundViolations bounds ++ thresholds.flatMap violationOf
  match broken, bounds with
  | [], [low, medium, high] =>
      return {
        eventWeight := eventWeight
        complexityWeight := complexityWeight
        timerWeight := timerWeight
        spawnerWeight := spawnerWeight
        loadBounds := ⟨low, medium, high⟩
        complexityHintThreshold := complexityHint
        timerHintThreshold := timerHint
        spawnerHintThreshold := spawnerHint
        eventHintThreshold := eventHint
        sharedCooldownThreshold := sharedCooldown
        stateNames := stateNames
        disabledCheckers :=
          (Data.field? fields "disabled_checkers").getD defaults.disabledCheckers
        suppressedIds := (Data.field? fields "suppressed_ids").getD defaults.suppressedIds
      }
  | _, _ => throw (.settings (.violations broken))

/-- Whether a value can be a member of a set. -/
def isKey : Data → Bool
  | .list _ => false
  | .record _ => false
  | _ => true

/-- The text of a value that is one. -/
def text? : Data → Option Text
  | .text text => some text
  | _ => none

/-- Read settings from a list, which is taken for field names without values. -/
def ofNames (items : List Data) : Except Failure Settings :=
  match items.find? fun item => !isKey item with
  | some item => .error (.kind (.notAKey item.kindName))
  | none =>
      match items.find? fun item => (text? item).isNone with
      | some item => .error (.kind (.notText item.kindName))
      | none =>
          let names := items.filterMap text?
          match unknownNames names, names with
          | [], [] => .ok {}
          | [], name :: _ => .error (.kind (.notAPair name.length))
          | unknown, _ => .error (.settings (.unknownFields unknown))

/-- Read settings from a document.  Only a record, or something empty, is
accepted. -/
def ofData : Data → Except Failure Settings
  | .record fields => ofFields fields
  | .list items => ofNames items
  | .text text => ofNames (text.map fun c => .text [c])
  | value => .error (.kind (.notIterable value.kindName))

end Settings

end MissionLint
