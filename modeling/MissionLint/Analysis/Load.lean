import MissionLint.Settings
import MissionLint.Script.Outline
import MissionLint.Script.Condition

namespace MissionLint

/-!
# Load estimates

The load of a script is a weighted sum of its event blocks, the branching of its
`when` clauses, its timers and its spawners, sorted into four levels.
-/

/-- How heavy a script is. -/
inductive LoadLevel where
  | low
  | medium
  | high
  | critical
  deriving Repr, DecidableEq

namespace LoadLevel

/-- The name of a level. -/
def name : LoadLevel → Text
  | .low => "low"
  | .medium => "medium"
  | .high => "high"
  | .critical => "critical"

/-- The level of a score: the first whose bound is above it. -/
def ofScore (bounds : LoadBounds) (score : Number) : LoadLevel :=
  if score.less (.real bounds.low) then
    .low
  else if score.less (.real bounds.medium) then
    .medium
  else if score.less (.real bounds.high) then
    .high
  else
    .critical

end LoadLevel

/-- What is counted in a script. -/
structure LoadCounts where
  events : Int
  complexity : Int
  timers : Int
  spawners : Int
  deriving Repr, DecidableEq

/-- The counts of a script, their weighted sum and its level. -/
structure LoadMetrics where
  counts : LoadCounts
  score : Number
  level : LoadLevel

namespace LoadCounts

/-- The branching of the `when` clauses of a line: one for each clause and one for
each of its connectives. -/
def complexityOn (code : Text) : Nat :=
  ((WhenClause.inCode code).map fun condition =>
    1 + (Condition.ofText condition).connectives).foldr (· + ·) 0

/-- Whether a line declares a timer, whether or not its name is declared before. -/
def declaresTimer (code : Text) : Bool :=
  (Declaration.ofCode? code).any fun declaration => declaration.type == .timer

/-- Count what a script has. -/
def ofOutline (outline : Outline) : LoadCounts where
  events := outline.events.length
  complexity := ((outline.lines.map fun line => complexityOn line.code).foldr (· + ·) 0 : Nat)
  timers := (outline.lines.countP fun line => declaresTimer line.code : Nat)
  spawners := (outline.lines.countP fun line => Spawner.occursIn line.code : Nat)

/-- The weighted sum of the counts, added from left to right. -/
def score (settings : Settings) (counts : LoadCounts) : Except RealOverflow Number := do
  let byEvents := Number.weigh counts.events settings.eventWeight
  let byComplexity ← byEvents.add (Number.weigh counts.complexity settings.complexityWeight)
  let byTimers ← byComplexity.add (Number.weigh counts.timers settings.timerWeight)
  byTimers.add (Number.weigh counts.spawners settings.spawnerWeight)

/-- The counts above their thresholds, each with its advice. -/
def advice (settings : Settings) (counts : LoadCounts) : List Text :=
  let above (threshold : Number) (count : Int) (hint : Text) : List Text :=
    if threshold.less (.integer count) then [hint] else []
  above settings.complexityHintThreshold counts.complexity
      ("Complex conditions may impact performance - consider "
        ++ "simplifying or using state machines")
    ++ above settings.timerHintThreshold counts.timers
      "High timer count - consider consolidating timers where possible"
    ++ above settings.spawnerHintThreshold counts.spawners
      "Multiple spawners active - ensure spawn caps are reasonable"
    ++ above settings.eventHintThreshold counts.events
      ("Large number of events - consider using event chains to "
        ++ "reduce duplication")

end LoadCounts

namespace LoadMetrics

/-- Measure a script. -/
def ofOutline (settings : Settings) (outline : Outline) : Except RealOverflow LoadMetrics := do
  let counts := LoadCounts.ofOutline outline
  let score ← counts.score settings
  return ⟨counts, score, .ofScore settings.loadBounds score⟩

end LoadMetrics

end MissionLint
