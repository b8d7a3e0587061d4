import Mathlib.Data.List.Basic
import Mathlib.Data.Sym.Sym2
import MissionLint.Analysis.Deadlock
import MissionLint.Proofs.Script.Blocks
import MissionLint.Proofs.Table
import MissionLint.Proofs.Text.Distinct

namespace MissionLint

/-!
# Pairs at risk

A pair of events is looked at once, with the earlier one first.  What is said of it does
not depend on which one that is.  It is at high risk exactly when the two hold something
in common and each waits on what the other holds.
-/

namespace DeadlockRisk

/-- The pairs of a list are its sublists with two members. -/
theorem mem_pairs_iff
    {first second : Text}
    {names : List Text} :
    (first, second) ∈ pairs names ↔ [first, second].Sublist names := by
  induction names with
  | nil =>
      simp [pairs]
  | cons name rest inductionHypothesis =>
      rw [pairs, List.mem_append, inductionHypothesis, List.sublist_cons_iff]
      constructor
      · rintro (isHead | ordered)
        · obtain ⟨later, member, same⟩ := List.mem_map.mp isHead
          obtain ⟨rfl, rfl⟩ := Prod.mk.inj same
          exact Or.inr ⟨[later], rfl, List.singleton_sublist.mpr member⟩
        · exact Or.inl ordered
      · rintro (ordered | ⟨others, shape, member⟩)
        · exact Or.inr ordered
        · obtain ⟨rfl, rfl⟩ := List.cons.inj shape
          exact Or.inl (List.mem_map.mpr ⟨second, List.singleton_sublist.mp member, rfl⟩)

/-- Of two different names one comes first. -/
theorem pair_sublist_of_ne
    {first second : Text}
    {names : List Text}
    (different : first ≠ second)
    (hasFirst : first ∈ names)
    (hasSecond : second ∈ names) :
    [first, second].Sublist names ∨ [second, first].Sublist names := by
  obtain ⟨before, after, rfl⟩ := List.append_of_mem hasFirst
  rcases List.mem_append.mp hasSecond with isBefore | isAfter
  · right
    exact (List.singleton_sublist.mpr isBefore).append
      (List.singleton_sublist.mpr List.mem_cons_self)
  · left
    have later : second ∈ after :=
      (List.mem_cons.mp isAfter).resolve_left (Ne.symm different)
    exact ((List.singleton_sublist.mpr later).cons_cons first).trans
      (List.sublist_append_right before _)

/-- Two lists meet in a common member. -/
theorem meets_eq_true_iff
    {left right : List Text} :
    meets left right = true ↔ ∃ name, name ∈ left ∧ name ∈ right := by
  simp [meets]

/-- Meeting has no direction. -/
theorem meets_comm
    (left right : List Text) :
    meets left right = meets right left := by
  rw [Bool.eq_iff_iff]
  simp only [meets_eq_true_iff, and_comm]

/-- What an event holds is tracked, and a command of one of its blocks assigns it. -/
theorem mem_heldBy_iff
    {outline : Outline}
    {name held : Text} :
    held ∈ heldBy outline name ↔
      held ∈ tracked outline ∧
        ∃ codes,
          (name, codes) ∈ outline.events.map Event.contents ∧
            ∃ code ∈ codes, held ∈ (Assignment.inCode code).map Assignment.name := by
  simp only [heldBy, Outline.eventsNamed, List.mem_eraseDups, List.mem_filter, List.mem_flatMap,
    List.contains_iff_mem, beq_iff_eq, List.mem_map, Event.contents, Prod.mk.injEq]
  constructor
  · rintro ⟨⟨event, ⟨isEvent, isNamed⟩, line, isLine, assigned⟩, isTracked⟩
    exact ⟨isTracked, _, ⟨event, isEvent, isNamed, rfl⟩, line.code,
      List.mem_map_of_mem isLine, assigned⟩
  · rintro ⟨isTracked, _, ⟨event, isEvent, isNamed, rfl⟩, code, isCode, assigned⟩
    obtain ⟨line, isLine, rfl⟩ := List.mem_map.mp isCode
    exact ⟨⟨event, ⟨isEvent, isNamed⟩, line, isLine, assigned⟩, isTracked⟩

/-- An event waits on what a guard that leads to it reads. -/
theorem mem_waitedBy_iff
    {outline : Outline}
    {name read : Text} :
    read ∈ waitedBy (guardReads outline) name ↔
      ∃ guard ∈ Outline.guards outline.lines, guard.target = name ∧ read ∈ readBy guard := by
  simp only [waitedBy, guardReads, List.mem_eraseDups, List.mem_flatMap, List.mem_filter,
    List.mem_map, beq_iff_eq]
  constructor
  · rintro ⟨_, ⟨⟨guard, isGuard, rfl⟩, leads⟩, reads⟩
    exact ⟨guard, isGuard, leads, reads⟩
  · rintro ⟨guard, isGuard, leads, reads⟩
    exact ⟨_, ⟨⟨guard, isGuard, rfl⟩, leads⟩, reads⟩

/-- What an event waits on, whether or not a guard leads to it. -/
theorem find?_waits
    (outline : Outline)
    (name : Text) :
    (Table.find? (waits outline) name).getD [] = waitedBy (guardReads outline) name := by
  simp only [waits]
  rw [Table.find?_map_keys]
  split
  · rfl
  case isFalse unguarded =>
    have nothing : (guardReads outline).filter (fun guard => guard.1 == name) = [] := by
      rw [List.filter_eq_nil_iff]
      intro guard member leads
      rw [List.mem_eraseDups] at unguarded
      exact unguarded (List.mem_map.mpr ⟨guard, member, by simpa using leads⟩)
    simp [waitedBy, nothing]

/-- The risk between two events, the first of which opens earlier. -/
def between? (outline : Outline) (first second : Text) : Option DeadlockRisk :=
  let held := heldBy outline
  let waited := waitedBy (guardReads outline)
  (levelOf? (held first) (held second) (waited first) (waited second)).map fun level =>
    { first := first
      second := second
      shared := Text.sortedDistinct
        ((held first).filter fun name => (held second).contains name)
      level := level
      line := ((outline.firstEvent? first).map Event.start).getD 0 }

/-- The risks of a script are those between the pairs of its events. -/
theorem find_eq_filterMap_between?
    (outline : Outline) :
    find outline =
      (pairs outline.eventNames).filterMap fun pair => between? outline pair.1 pair.2 := by
  unfold find
  simp only [find?_waits]
  apply List.filterMap_congr
  rintro ⟨first, second⟩ member
  have ordered := mem_pairs_iff.mp member
  have hasFirst : first ∈ outline.eventNames := ordered.subset (by simp)
  have hasSecond : second ∈ outline.eventNames := ordered.subset (by simp)
  simp only [held, Table.find?_map_keys, hasFirst, hasSecond, if_true, Option.getD_some]
  rfl

/-! ## Verdicts -/

/-- What a risk says of two events, whichever of them opens first. -/
def verdict (risk : DeadlockRisk) : Sym2 Text × List Text × RiskLevel :=
  (s(risk.first, risk.second), risk.shared, risk.level)

/-- The level of a risk does not depend on which event comes first. -/
theorem levelOf?_swap
    (firstHeld secondHeld firstWaits secondWaits : List Text) :
    levelOf? secondHeld firstHeld secondWaits firstWaits =
      levelOf? firstHeld secondHeld firstWaits secondWaits := by
  simp only [levelOf?, meets_comm secondHeld firstHeld,
    Bool.and_comm (meets secondWaits firstHeld), Bool.or_comm (meets secondWaits firstHeld)]

/-- The verdict on two events is determined by what each of them holds and waits on.  A level
says which lists meet, for which only their members matter. -/
theorem verdict_between?_congr
    {outline other : Outline}
    (sameHeld : ∀ name held, held ∈ heldBy other name ↔ held ∈ heldBy outline name)
    (sameWaited :
      ∀ name read,
        read ∈ waitedBy (guardReads other) name ↔ read ∈ waitedBy (guardReads outline) name)
    (first second : Text) :
    (between? other first second).map verdict = (between? outline first second).map verdict := by
  have sameLevel :
      levelOf? (heldBy other first) (heldBy other second)
          (waitedBy (guardReads other) first) (waitedBy (guardReads other) second) =
        levelOf? (heldBy outline first) (heldBy outline second)
          (waitedBy (guardReads outline) first) (waitedBy (guardReads outline) second) := by
    have sameMeets
        {left right otherLeft otherRight : List Text}
        (sameLeft : ∀ name, name ∈ otherLeft ↔ name ∈ left)
        (sameRight : ∀ name, name ∈ otherRight ↔ name ∈ right) :
        meets otherLeft otherRight = meets left right := by
      rw [Bool.eq_iff_iff]
      simp only [meets_eq_true_iff, sameLeft, sameRight]
    simp only [levelOf?, sameMeets (sameHeld first) (sameHeld second),
      sameMeets (sameWaited first) (sameHeld second),
      sameMeets (sameWaited second) (sameHeld first)]
  have sameShared :
      Text.sortedDistinct
          ((heldBy other first).filter fun name => (heldBy other second).contains name) =
        Text.sortedDistinct
          ((heldBy outline first).filter fun name => (heldBy outline second).contains name) := by
    rw [Text.sortedDistinct_eq_iff]
    intro name
    simp only [List.mem_filter, List.contains_iff_mem, sameHeld]
  simp only [between?, sameLevel, sameShared, Option.map_map]
  rfl

/-- The verdict on two events does not depend on which one comes first. -/
theorem verdict_between?_swap
    (outline : Outline)
    (first second : Text) :
    (between? outline second first).map verdict =
      (between? outline first second).map verdict := by
  have sameShared :
      Text.sortedDistinct
          ((heldBy outline second).filter fun name => (heldBy outline first).contains name) =
        Text.sortedDistinct
          ((heldBy outline first).filter fun name => (heldBy outline second).contains name) := by
    rw [Text.sortedDistinct_eq_iff]
    intro name
    simp only [List.mem_filter, List.contains_iff_mem, and_comm]
  simp only [between?, verdict, levelOf?_swap, sameShared, Option.map_map, Function.comp_def,
    Sym2.eq_swap]

/-- The verdicts on a script are those on any two different events of it. -/
theorem mem_verdicts_iff
    {outline : Outline}
    {found : Sym2 Text × List Text × RiskLevel} :
    found ∈ (find outline).map verdict ↔
      ∃ first ∈ outline.eventNames, ∃ second ∈ outline.eventNames,
        first ≠ second ∧ (between? outline first second).map verdict = some found := by
  have distinct : outline.eventNames.Nodup := nodup_eraseDups _
  rw [find_eq_filterMap_between?, List.map_filterMap]
  simp only [List.mem_filterMap, Prod.exists]
  constructor
  · rintro ⟨first, second, member, isFound⟩
    have ordered := mem_pairs_iff.mp member
    have different : first ≠ second := by
      have pair := distinct.sublist ordered
      simpa using pair
    exact ⟨first, ordered.subset (by simp), second, ordered.subset (by simp), different, isFound⟩
  · rintro ⟨first, hasFirst, second, hasSecond, different, isFound⟩
    rcases pair_sublist_of_ne different hasFirst hasSecond with ordered | swapped
    · exact ⟨first, second, mem_pairs_iff.mpr ordered, isFound⟩
    · rw [← verdict_between?_swap] at isFound
      exact ⟨second, first, mem_pairs_iff.mpr swapped, isFound⟩

/-- Two events hold something in common, and each waits on what the other holds. -/
structure MutualWait (outline : Outline) (first second : Text) : Prop where
  shared : ∃ name, name ∈ heldBy outline first ∧ name ∈ heldBy outline second
  firstWaits :
    ∃ name, name ∈ waitedBy (guardReads outline) first ∧ name ∈ heldBy outline second
  secondWaits :
    ∃ name, name ∈ waitedBy (guardReads outline) second ∧ name ∈ heldBy outline first

/-- Waiting on each other has no direction. -/
theorem MutualWait.swap
    {outline : Outline}
    {first second : Text}
    (mutualWait : MutualWait outline first second) :
    MutualWait outline second first := by
  obtain ⟨name, inFirst, inSecond⟩ := mutualWait.shared
  exact ⟨⟨name, inSecond, inFirst⟩, mutualWait.secondWaits, mutualWait.firstWaits⟩

/-- A risk is high when something is held in common and both sides wait on each other. -/
theorem levelOf?_eq_high_iff
    (firstHeld secondHeld firstWaits secondWaits : List Text) :
    levelOf? firstHeld secondHeld firstWaits secondWaits = some .high ↔
      meets firstHeld secondHeld = true ∧
        meets firstWaits secondHeld = true ∧
        meets secondWaits firstHeld = true := by
  unfold levelOf?
  cases meets firstHeld secondHeld <;>
    cases meets firstWaits secondHeld <;>
    cases meets secondWaits firstHeld <;>
    simp

/-- There is a high risk exactly when two different events wait on each other. -/
theorem exists_high_iff
    (outline : Outline) :
    (∃ risk ∈ find outline, risk.level = .high) ↔
      ∃ first ∈ outline.eventNames, ∃ second ∈ outline.eventNames,
        first ≠ second ∧ MutualWait outline first second := by
  have high (first second : Text) :
      (∃ found, (between? outline first second).map verdict = some found ∧ found.2.2 = .high) ↔
        MutualWait outline first second := by
    simp only [between?, Option.map_map, Option.map_eq_some_iff]
    constructor
    · rintro ⟨_, ⟨level, isLevel, rfl⟩, isHigh⟩
      have isHighLevel : level = .high := isHigh
      rw [isHighLevel, levelOf?_eq_high_iff] at isLevel
      simp only [meets_eq_true_iff] at isLevel
      exact ⟨isLevel.1, isLevel.2.1, isLevel.2.2⟩
    · intro mutualWait
      refine ⟨_, ⟨.high, ?_, rfl⟩, rfl⟩
      rw [levelOf?_eq_high_iff]
      simp only [meets_eq_true_iff]
      exact ⟨mutualWait.shared, mutualWait.firstWaits, mutualWait.secondWaits⟩
  calc
    (∃ risk ∈ find outline, risk.level = .high) ↔
        ∃ found ∈ (find outline).map verdict, found.2.2 = .high := by
      simp [verdict]
    _ ↔ ∃ first ∈ outline.eventNames, ∃ second ∈ outline.eventNames,
          first ≠ second ∧ MutualWait outline first second := by
      simp only [mem_verdicts_iff, ← high]
      grind

end DeadlockRisk

end MissionLint
