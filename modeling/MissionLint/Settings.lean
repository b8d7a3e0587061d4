import MissionLint.Data

namespace MissionLint

/-!
# Settings

The thresholds and switches of an analysis.  Numbers keep the form in which they
were given.  The disabled checkers and the suppressed ids keep whatever document
was given and are looked at when a run needs them.
-/

/-- The upper bounds of the low, the medium and the high load, which do not
belong to them. -/
structure LoadBounds where
  low : Float
  medium : Float
  high : Float

/-- The settings of an analysis. -/
structure Settings where
  eventWeight : Number := .real 1.0
  complexityWeight : Number := .real 0.5
  timerWeight : Number := .real 2.0
  spawnerWeight : Number := .real 3.0
  loadBounds : LoadBounds := ⟨20.0, 50.0, 100.0⟩
  complexityHintThreshold : Number := .integer 50
  timerHintThreshold : Number := .integer 10
  spawnerHintThreshold : Number := .integer 5
  eventHintThreshold : Number := .integer 100
  sharedCooldownThreshold : Number := .integer 3
  stateNames : Table Int Text :=
    [(0, "IDLE"), (1, "ACTIVE"), (2, "COMPLETE"), (3, "FAILED")]
  disabledCheckers : Data := .list []
  suppressedIds : Data := .list []

end MissionLint
