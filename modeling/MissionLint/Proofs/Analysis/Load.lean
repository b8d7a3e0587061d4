import Mathlib.Algebra.BigOperators.Group.List.Basic
import Mathlib.Algebra.Order.Ring.Int
import Mathlib.Tactic.Positivity
import MissionLint.Analysis.Load
import MissionLint.Proofs.Script.Literal
import MissionLint.Proofs.Script.Ownership

namespace MissionLint

/-!
# Loads add up

Each opener starts one block, so every count of a script is a sum over its lines.  The
counts of two scripts, one after the other, are therefore the sums of their counts,
whatever is open where they meet, and the order of lines makes no difference.  With whole
weights the score is such a sum too.  A greater score is never on a lower level, in
whatever order the bounds of the levels are.
-/

attribute [ext] LoadCounts

namespace LoadCounts

/-! ## Counts of lines -/

/-- The counts of an empty script. -/
instance : Zero LoadCounts where
  zero := ⟨0, 0, 0, 0⟩

/-- Counts are added one by one. -/
instance : Add LoadCounts where
  add left right :=
    { events := left.events + right.events
      complexity := left.complexity + right.complexity
      timers := left.timers + right.timers
      spawners := left.spawners + right.spawners }

section Fields

variable (left right : LoadCounts)

@[simp] theorem events_zero : (0 : LoadCounts).events = 0 := rfl

@[simp] theorem complexity_zero : (0 : LoadCounts).complexity = 0 := rfl

@[simp] theorem timers_zero : (0 : LoadCounts).timers = 0 := rfl

@[simp] theorem spawners_zero : (0 : LoadCounts).spawners = 0 := rfl

@[simp] theorem events_add : (left + right).events = left.events + right.events := rfl

@[simp] theorem complexity_add :
    (left + right).complexity = left.complexity + right.complexity := rfl

@[simp] theorem timers_add : (left + right).timers = left.timers + right.timers := rfl

@[simp] theorem spawners_add : (left + right).spawners = left.spawners + right.spawners := rfl

end Fields

/-- Counts are added field by field. -/
instance : AddCommMonoid LoadCounts where
  add_assoc first second third := by
    ext <;>
      simp [Int.add_assoc]
  zero_add counts := by
    ext <;>
      simp
  add_zero counts := by
    ext <;>
      simp
  add_comm left right := by
    ext <;>
      simp [Int.add_comm]
  nsmul := nsmulRec

/-- What one line of code counts. -/
def ofCode (code : Text) : LoadCounts where
  events := if (Opener.ofCode? code).isSome then 1 else 0
  complexity := complexityOn code
  timers := if declaresTimer code then 1 else 0
  spawners := if Spawner.occursIn code then 1 else 0

/-- There is one block for each opener. -/
theorem length_events
    (lines : List Line) :
    (Outline.ofLines lines).events.length = (Outline.openers lines).length := by
  have opened := congrArg List.length (Outline.openers_blocksFrom none lines)
  simpa [Outline.ofLines] using opened

/-- A line at the top adds what it counts. -/
theorem ofOutline_cons
    (line : Line)
    (rest : List Line) :
    ofOutline (.ofLines (line :: rest)) = ofCode line.code + ofOutline (.ofLines rest) := by
  ext
  · simp only [ofOutline, length_events, events_add, ofCode]
    cases opens : Opener.ofCode? line.code <;>
      simp [Outline.openers, opens, Int.add_comm]
  · simp [ofOutline, Outline.ofLines, ofCode]
  · simp only [ofOutline, Outline.ofLines, List.countP_cons, timers_add, ofCode]
    cases declaresTimer line.code <;>
      simp [Int.add_comm]
  · simp only [ofOutline, Outline.ofLines, List.countP_cons, spawners_add, ofCode]
    cases Spawner.occursIn line.code <;>
      simp [Int.add_comm]

/-- What a script counts is what its lines count. -/
theorem ofOutline_ofLines
    (lines : List Line) :
    ofOutline (.ofLines lines) = (lines.map fun line => ofCode line.code).sum := by
  induction lines with
  | nil =>
      rfl
  | cons line rest inductionHypothesis =>
      rw [ofOutline_cons, inductionHypothesis, List.map_cons, List.sum_cons]

/-- What one line counts, as it is written. -/
def ofRaw (raw : Text) : LoadCounts :=
  ofCode (Line.ofRaw 0 raw).code

/-- What lines count does not depend on their numbers. -/
theorem map_ofCode_numberFrom
    (first : Nat)
    (raws : List Text) :
    (Line.numberFrom first raws).map (fun line => ofCode line.code) = raws.map ofRaw := by
  induction raws generalizing first with
  | nil =>
      rfl
  | cons raw rest inductionHypothesis =>
      rw [Line.numberFrom, List.map_cons, List.map_cons, inductionHypothesis]
      rfl

/-- What a script counts is what the lines of its text count. -/
theorem ofOutline_ofScript
    (script : Text) :
    ofOutline (.ofScript script) = ((script.splitOn ('\n' : CodePoint)).map ofRaw).sum := by
  rw [Outline.ofScript, ofOutline_ofLines, Line.ofScript, map_ofCode_numberFrom]

/-- The counts of two scripts, one after the other, add up. -/
theorem ofOutline_append
    (front back : Text) :
    ofOutline (.ofScript (front ++ "\n" ++ back)) =
      ofOutline (.ofScript front) + ofOutline (.ofScript back) := by
  simp only [ofOutline_ofScript, Text.splitOn_append_break, List.map_append, List.sum_append]

/-- Lines in another order count the same. -/
theorem ofOutline_perm
    {script other : Text}
    (permuted :
      (script.splitOn ('\n' : CodePoint)).Perm (other.splitOn ('\n' : CodePoint))) :
    ofOutline (.ofScript other) = ofOutline (.ofScript script) := by
  rw [ofOutline_ofScript, ofOutline_ofScript]
  exact (permuted.map ofRaw).sum_eq.symm

end LoadCounts

/-! ## Whole scores -/

namespace Number

/-- A whole weight counts a whole amount. -/
theorem weigh_of_integer?
    {weight : Number}
    {value : Int}
    (isWhole : weight.integer? = some value)
    (count : Int) :
    weigh count weight = .integer (count * value) := by
  cases weight with
  | flag isSet =>
      cases isSet <;>
        cases isWhole <;>
        simp [weigh]
  | integer whole =>
      cases isWhole
      rfl
  | real value =>
      cases isWhole

/-- Integers are added exactly. -/
theorem add_integer
    (left right : Int) :
    add (.integer left) (.integer right) = .ok (.integer (left + right)) :=
  rfl

end Number

/-- A whole weight for each of the counts.  None of them is negative. -/
structure WholeWeights where
  event : Nat
  complexity : Nat
  timer : Nat
  spawner : Nat

namespace WholeWeights

/-- Settings give these weights, as integers or as truth values. -/
structure GivenBy (weights : WholeWeights) (settings : Settings) : Prop where
  event_eq : settings.eventWeight.integer? = some (weights.event : Int)
  complexity_eq : settings.complexityWeight.integer? = some (weights.complexity : Int)
  timer_eq : settings.timerWeight.integer? = some (weights.timer : Int)
  spawner_eq : settings.spawnerWeight.integer? = some (weights.spawner : Int)

/-- The weighted sum of some counts. -/
def total (weights : WholeWeights) (counts : LoadCounts) : Int :=
  counts.events * weights.event + counts.complexity * weights.complexity +
    counts.timers * weights.timer + counts.spawners * weights.spawner

/-- The total of added counts is the sum of their totals. -/
theorem total_add
    (weights : WholeWeights)
    (left right : LoadCounts) :
    weights.total (left + right) = weights.total left + weights.total right := by
  simp only [total, LoadCounts.events_add, LoadCounts.complexity_add, LoadCounts.timers_add,
    LoadCounts.spawners_add, Int.add_mul]
  omega

/-- No script has a negative total. -/
theorem total_ofOutline_nonneg
    (weights : WholeWeights)
    (outline : Outline) :
    0 ≤ weights.total (.ofOutline outline) := by
  simp only [total, LoadCounts.ofOutline]
  positivity

variable {weights : WholeWeights} {settings : Settings}
  (given : weights.GivenBy settings)

include given

/-- With whole weights the score is a whole number. -/
theorem GivenBy.score_eq
    (counts : LoadCounts) :
    counts.score settings = .ok (.integer (weights.total counts)) := by
  simp only [LoadCounts.score, Number.weigh_of_integer? given.event_eq,
    Number.weigh_of_integer? given.complexity_eq, Number.weigh_of_integer? given.timer_eq,
    Number.weigh_of_integer? given.spawner_eq, Number.add_integer, bind, Except.bind]
  rfl

/-- With whole weights the load has a score, the weighted total of its counts, and no failure. -/
theorem GivenBy.ofOutline_eq
    (outline : Outline) :
    LoadMetrics.ofOutline settings outline =
      .ok
        { counts := .ofOutline outline
          score := .integer (weights.total (.ofOutline outline))
          level := .ofScore settings.loadBounds
            (.integer (weights.total (.ofOutline outline))) } := by
  simp only [LoadMetrics.ofOutline, given.score_eq, bind, Except.bind]
  rfl

end WholeWeights

/-! ## Levels -/

/-- What is above an integer is above every lesser one: both integers are brought to the same
power of two. -/
theorem Number.less_of_le
    {lesser greater : Int}
    (le : lesser ≤ greater)
    {bound : Number}
    (isBelow : (Number.integer greater).less bound = true) :
    (Number.integer lesser).less bound = true := by
  unfold Number.less at isBelow ⊢
  cases isBound : bound.exact with
  | undefined =>
      rw [isBound] at isBelow
      cases isBelow
  | infinite negative =>
      rw [isBound] at isBelow
      exact isBelow
  | finite mantissa exponent =>
      rw [isBound] at isBelow
      have greaterBelow := of_decide_eq_true isBelow
      have scaledLe :
          Numeral.Exact.scaled lesser 0 (min 0 exponent) ≤
            Numeral.Exact.scaled greater 0 (min 0 exponent) :=
        mul_le_mul_of_nonneg_right le (pow_nonneg (by decide) _)
      exact decide_eq_true (lt_of_le_of_lt scaledLe greaterBelow)

namespace LoadLevel

/-- The place of a level, from low to critical. -/
def rank : LoadLevel → Nat
  | .low => 0
  | .medium => 1
  | .high => 2
  | .critical => 3

/-- No level is above the critical one. -/
theorem rank_le_critical
    (level : LoadLevel) :
    level.rank ≤ critical.rank := by
  cases level <;>
    decide

/-- A score is on no lower level than another one when each bound above it is above the
other one too.  The bounds need not be in order: the first one above a score decides. -/
theorem rank_ofScore_le
    {lesser greater : Number}
    (below : ∀ {bound}, greater.less bound = true → lesser.less bound = true)
    (bounds : LoadBounds) :
    (ofScore bounds lesser).rank ≤ (ofScore bounds greater).rank := by
  unfold ofScore
  by_cases belowLow : greater.less (.real bounds.low) = true
  · rw [if_pos (below belowLow)]
    exact Nat.zero_le _
  · rw [if_neg belowLow]
    by_cases belowMedium : greater.less (.real bounds.medium) = true
    · rw [if_pos belowMedium, if_pos (below belowMedium)]
      split <;>
        decide
    · rw [if_neg belowMedium]
      by_cases belowHigh : greater.less (.real bounds.high) = true
      · rw [if_pos belowHigh, if_pos (below belowHigh)]
        split
        · decide
        · split <;>
            decide
      · rw [if_neg belowHigh]
        exact rank_le_critical _

end LoadLevel

/-- Loads add up.  The counts that are measured are those of the script, and they add up over
two scripts, one after the other, whatever the scripts are.  Lines in another order count the
same.  With whole weights, and with bounds in any order, the score of the two is a whole
number that is not less than that of the first one, and it is on no lower level. -/
theorem loads_add_up
    (front back : Text) :
    (∀ settings script metrics,
      LoadMetrics.ofOutline settings (.ofScript script) = .ok metrics →
        metrics.counts = .ofOutline (.ofScript script)) ∧
      (∀ script, ∃ metrics, LoadMetrics.ofOutline {} (.ofScript script) = .ok metrics) ∧
      LoadCounts.ofOutline (.ofScript (front ++ "\n" ++ back)) =
        LoadCounts.ofOutline (.ofScript front) + LoadCounts.ofOutline (.ofScript back) ∧
      (∀ script other : Text,
        (script.splitOn ('\n' : CodePoint)).Perm (other.splitOn ('\n' : CodePoint)) →
          LoadCounts.ofOutline (.ofScript other) = LoadCounts.ofOutline (.ofScript script)) ∧
      ∀ (settings : Settings) (weights : WholeWeights),
        weights.GivenBy settings →
        ∃ first whole : LoadMetrics,
          LoadMetrics.ofOutline settings (.ofScript front) = .ok first ∧
          LoadMetrics.ofOutline settings (.ofScript (front ++ "\n" ++ back)) = .ok whole ∧
          first.score = .integer (weights.total first.counts) ∧
          whole.score = .integer (weights.total whole.counts) ∧
          weights.total first.counts ≤ weights.total whole.counts ∧
          first.level.rank ≤ whole.level.rank := by
  refine ⟨?_, ?_, LoadCounts.ofOutline_append front back,
    fun _ _ => LoadCounts.ofOutline_perm, ?_⟩
  · intro settings script metrics measured
    obtain ⟨score, _, isMetrics⟩ := Outcome.exists_of_bind measured
    cases isMetrics
    rfl
  · intro script
    exact ⟨_, rfl⟩
  · intro settings weights given
    have grows :
        weights.total (.ofOutline (.ofScript front)) ≤
          weights.total (.ofOutline (.ofScript (front ++ "\n" ++ back))) := by
      rw [LoadCounts.ofOutline_append, weights.total_add]
      exact Int.le_add_of_nonneg_right (weights.total_ofOutline_nonneg _)
    refine ⟨_, _, given.ofOutline_eq _, given.ofOutline_eq _, rfl, rfl, grows, ?_⟩
    exact LoadLevel.rank_ofScore_le (Number.less_of_le grows) settings.loadBounds

/-- Two scripts that meet inside a block, with bounds in descending order.  The first one has
a clause with a connective, the second one a declared timer, a spawner and an opener. -/
theorem loads_add_up_patrol :
    let front : Text := "Patrol::\nwhen(x==1 and y==2)[Rest]"
    let back : Text := "timer T=1\nRest::\nspawncap:1,2;"
    let reordered : Text := "when(x==1 and y==2)[Rest]\nPatrol::"
    let settings : Settings :=
      { eventWeight := .integer 1
        complexityWeight := .flag true
        timerWeight := .integer 2
        spawnerWeight := .integer 0
        loadBounds := ⟨4.0, 3.0, 2.0⟩ }
    LoadCounts.ofOutline (.ofScript (front ++ "\n" ++ back)) = ⟨2, 2, 1, 1⟩ ∧
      LoadCounts.ofOutline (.ofScript reordered) = ⟨1, 2, 0, 0⟩ ∧
      ∃ first whole : LoadMetrics,
        LoadMetrics.ofOutline settings (.ofScript front) = .ok first ∧
        LoadMetrics.ofOutline settings (.ofScript (front ++ "\n" ++ back)) = .ok whole ∧
        first.score = .integer 3 ∧
        whole.score = .integer 6 ∧
        first.level.rank ≤ whole.level.rank := by
  intro front back reordered settings
  obtain ⟨measured, _, adds, permutes, grows⟩ := loads_add_up front back
  have inFront : LoadCounts.ofOutline (.ofScript front) = ⟨1, 2, 0, 0⟩ := by
    decide +kernel
  have inBack : LoadCounts.ofOutline (.ofScript back) = ⟨1, 0, 1, 1⟩ := by
    decide +kernel
  have inWhole : LoadCounts.ofOutline (.ofScript (front ++ "\n" ++ back)) = ⟨2, 2, 1, 1⟩ := by
    rw [adds, inFront, inBack]
    rfl
  have isReordered :
      (front.splitOn ('\n' : CodePoint)).Perm (reordered.splitOn ('\n' : CodePoint)) := by
    decide +kernel
  obtain ⟨first, whole, isFirst, isWhole, firstScore, wholeScore, _, noLower⟩ :=
    grows settings ⟨1, 1, 2, 0⟩ ⟨rfl, rfl, rfl, rfl⟩
  refine ⟨inWhole, (permutes front reordered isReordered).trans inFront, first, whole, isFirst,
    isWhole, ?_, ?_, noLower⟩
  · rw [firstScore, measured settings front first isFirst, inFront]
    rfl
  · rw [wholeScore, measured settings _ whole isWhole, inWhole]
    rfl

end MissionLint
