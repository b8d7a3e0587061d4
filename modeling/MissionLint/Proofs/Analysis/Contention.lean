import MissionLint.Proofs.Analysis.Deadlock

namespace MissionLint

/-!
# Events in contention

An event holds the variables and resources that its blocks assign, and awaits the names
that a guard leading to it reads.  Two events contend when both hold some name and one of
them awaits what the other holds.  Each two events in contention are at risk once, in the
order in which they are defined.
-/

namespace Outline

/-- Whether a script has a block of an event. -/
def Defines (outline : Outline) (event : Text) : Prop :=
  ∃ block ∈ outline.events, block.name = event

/-- The position of the first block of an event among all blocks. -/
def definedAt (outline : Outline) (event : Text) : Nat :=
  (outline.events.map Event.name).idxOf event

/-- The events of an outline are those with a block. -/
theorem mem_eventNames_iff
    {outline : Outline}
    {event : Text} :
    event ∈ outline.eventNames ↔ outline.Defines event := by
  simp [eventNames, Defines]

/-- The events of an outline are in the order of their first blocks. -/
theorem pairwise_definedAt
    (outline : Outline) :
    outline.eventNames.Pairwise fun earlier later =>
      outline.definedAt earlier < outline.definedAt later :=
  pairwise_idxOf_eraseDups (outline.events.map Event.name)

end Outline

namespace DeadlockRisk

/-! ## Holding and awaiting -/

/-- A declared variable or a resource. -/
def IsTracked (outline : Outline) (name : Text) : Prop :=
  (∃ declared ∈ outline.declared, declared.name = name) ∨
    ∃ resource ∈ Resource.all, resource.name = name

/-- A block of an event assigns a name. -/
def Assigns (outline : Outline) (event name : Text) : Prop :=
  ∃ block ∈ outline.events, block.name = event ∧
    ∃ line ∈ block.commands, ∃ assignment ∈ Assignment.inCode line.code, assignment.name = name

/-- An event holds the tracked names that its blocks assign. -/
def Holds (outline : Outline) (event name : Text) : Prop :=
  IsTracked outline name ∧ Assigns outline event name

/-- A guard that leads to an event, anywhere in the script, reads a name that is no
keyword. -/
def Awaits (outline : Outline) (event name : Text) : Prop :=
  name ∉ Condition.keywords ∧
    ∃ line ∈ outline.lines, ∃ trigger ∈ Trigger.inCode line.code,
      trigger.word = .onWhen ∧ trigger.target = event ∧
        name ∈ (Condition.ofText trigger.condition).names

/-- Whether an event assigns a name can be decided. -/
instance (outline : Outline) (event name : Text) : Decidable (Assigns outline event name) :=
  inferInstanceAs (Decidable (∃ block ∈ outline.events, block.name = event ∧
    ∃ line ∈ block.commands, ∃ assignment ∈ Assignment.inCode line.code, assignment.name = name))

/-- An event awaits what another one holds. -/
def WaitsOn (outline : Outline) (event other : Text) : Prop :=
  ∃ name, Awaits outline event name ∧ Holds outline other name

/-- Two events hold something in common, and one of them awaits what the other holds. -/
structure Contend (outline : Outline) (first second : Text) : Prop where
  shared : ∃ name, Holds outline first name ∧ Holds outline second name
  waits : WaitsOn outline first second ∨ WaitsOn outline second first

/-- Contention has no direction. -/
theorem Contend.swap
    {outline : Outline}
    {first second : Text}
    (contend : Contend outline first second) :
    Contend outline second first := by
  obtain ⟨name, ofFirst, ofSecond⟩ := contend.shared
  exact ⟨⟨name, ofSecond, ofFirst⟩, contend.waits.symm⟩

section Lists

variable {outline : Outline}
  {first second event name : Text}

/-- The variables that are listed for an event are those that it holds. -/
theorem mem_heldBy_iff_holds :
    name ∈ heldBy outline event ↔ Holds outline event name := by
  simp only [heldBy, tracked, Holds, IsTracked, Assigns, Outline.eventsNamed, List.mem_eraseDups,
    List.mem_filter, List.mem_flatMap, List.mem_map, List.contains_iff_mem, List.mem_append,
    beq_iff_eq, and_assoc]
  exact and_comm

/-- The names that are read for an event are those that it awaits. -/
theorem mem_waitedBy_iff_awaits :
    name ∈ waitedBy (guardReads outline) event ↔ Awaits outline event name := by
  simp only [mem_waitedBy_iff, Outline.guards, readBy, Trigger.isGuard, Awaits, List.mem_flatMap,
    List.mem_filter, beq_iff_eq, Bool.not_eq_true', List.contains_eq_mem, decide_eq_false_iff_not]
  constructor
  · rintro ⟨trigger, ⟨line, isLine, isTrigger, isWhen⟩, leads, reads, noKeyword⟩
    exact ⟨noKeyword, line, isLine, trigger, isTrigger, isWhen, leads, reads⟩
  · rintro ⟨noKeyword, line, isLine, trigger, isTrigger, isWhen, leads, reads⟩
    exact ⟨trigger, ⟨line, isLine, isTrigger, isWhen⟩, leads, reads, noKeyword⟩

/-- Two lists of held variables meet when the events hold something in common. -/
theorem meets_held_iff :
    meets (heldBy outline first) (heldBy outline second) = true ↔
      ∃ name, Holds outline first name ∧ Holds outline second name := by
  simp only [meets_eq_true_iff, mem_heldBy_iff_holds]

/-- What one event awaits meets what another holds when it waits on the other. -/
theorem meets_waited_iff :
    meets (waitedBy (guardReads outline) first) (heldBy outline second) = true ↔
      WaitsOn outline first second := by
  simp only [meets_eq_true_iff, mem_heldBy_iff_holds, mem_waitedBy_iff_awaits, WaitsOn]

end Lists

/-! ## Pairs of events -/

/-- There is a risk when something is held in common and one side waits on the other. -/
theorem levelOf?_isSome_iff
    (firstHeld secondHeld firstWaits secondWaits : List Text) :
    (levelOf? firstHeld secondHeld firstWaits secondWaits).isSome = true ↔
      meets firstHeld secondHeld = true ∧
        (meets firstWaits secondHeld = true ∨ meets secondWaits firstHeld = true) := by
  unfold levelOf?
  cases meets firstHeld secondHeld <;>
    cases meets firstWaits secondHeld <;>
    cases meets secondWaits firstHeld <;>
    simp

/-- There is a risk between two events exactly when they contend. -/
theorem exists_between?_iff
    {outline : Outline}
    {first second : Text} :
    (∃ risk, between? outline first second = some risk) ↔ Contend outline first second := by
  rw [← Option.isSome_iff_exists, between?, Option.isSome_map, levelOf?_isSome_iff,
    meets_held_iff, meets_waited_iff, meets_waited_iff]
  constructor
  · intro atRisk
    exact ⟨atRisk.1, atRisk.2⟩
  · intro contend
    exact ⟨contend.shared, contend.waits⟩

/-- What a risk says of its events: all that both hold, whether each awaits what the other
holds, and the line on which the first one is first opened. -/
structure Describes (outline : Outline) (risk : DeadlockRisk) : Prop where
  shared : ∀ name,
    name ∈ risk.shared ↔ Holds outline risk.first name ∧ Holds outline risk.second name
  distinct : risk.shared.Nodup
  high : risk.level = .high ↔
    WaitsOn outline risk.first risk.second ∧ WaitsOn outline risk.second risk.first
  opens : (outline.firstEvent? risk.first).map Event.start = some risk.line

/-- A risk between two events names them in their order. -/
theorem names_of_between?
    {outline : Outline}
    {first second : Text}
    {risk : DeadlockRisk}
    (isRisk : between? outline first second = some risk) :
    risk.first = first ∧ risk.second = second := by
  obtain ⟨level, _, rfl⟩ := Option.map_eq_some_iff.mp isRisk
  exact ⟨rfl, rfl⟩

/-- A risk between two events says what the blocks and guards of both say. -/
theorem describes_of_between?
    {outline : Outline}
    {first second : Text}
    {risk : DeadlockRisk}
    (defined : outline.Defines first)
    (isRisk : between? outline first second = some risk) :
    Describes outline risk := by
  obtain ⟨level, isLevel, rfl⟩ := Option.map_eq_some_iff.mp isRisk
  refine ⟨fun name => ?_, Text.nodup_sortedDistinct _, ?_, ?_⟩
  · simp only [Text.mem_sortedDistinct, List.mem_filter, List.contains_iff_mem,
      mem_heldBy_iff_holds]
  · have holdInCommon := (levelOf?_isSome_iff _ _ _ _).mp (Option.isSome_of_eq_some isLevel)
    have isHigh := levelOf?_eq_high_iff (heldBy outline first) (heldBy outline second)
      (waitedBy (guardReads outline) first) (waitedBy (guardReads outline) second)
    rw [isLevel, Option.some.injEq, meets_waited_iff, meets_waited_iff] at isHigh
    exact isHigh.trans (and_iff_right holdInCommon.1)
  · obtain ⟨block, isBlock, isNamed⟩ := defined
    have hasFirst : (outline.firstEvent? first).isSome = true :=
      List.find?_isSome.mpr ⟨block, isBlock, by simp [isNamed]⟩
    obtain ⟨firstBlock, isFirst⟩ := Option.isSome_iff_exists.mp hasFirst
    simp [isFirst]

/-- The risks of a script are those between two of its events, the first of which is
defined first. -/
theorem mem_find_iff
    {outline : Outline}
    {risk : DeadlockRisk} :
    risk ∈ find outline ↔
      [risk.first, risk.second].Sublist outline.eventNames ∧
        between? outline risk.first risk.second = some risk := by
  simp only [find_eq_filterMap_between?, List.mem_filterMap, Prod.exists, mem_pairs_iff]
  constructor
  · rintro ⟨first, second, ordered, isRisk⟩
    obtain ⟨rfl, rfl⟩ := names_of_between? isRisk
    exact ⟨ordered, isRisk⟩
  · rintro ⟨ordered, isRisk⟩
    exact ⟨risk.first, risk.second, ordered, isRisk⟩

/-! ## Order -/

/-- The pairs of a list in order come in lexicographic order. -/
theorem pairwise_pairs
    {names : List Text}
    {rank : Text → Nat}
    (inOrder : names.Pairwise fun earlier later => rank earlier < rank later) :
    (pairs names).Pairwise fun earlier later =>
      Prod.Lex (· < ·) (· < ·) (rank earlier.1, rank earlier.2) (rank later.1, rank later.2) := by
  induction names with
  | nil =>
      exact List.Pairwise.nil
  | cons name rest inductionHypothesis =>
      obtain ⟨ahead, restInOrder⟩ := List.pairwise_cons.mp inOrder
      refine List.pairwise_append.mpr ⟨?_, inductionHypothesis restInOrder, ?_⟩
      · refine List.pairwise_map.mpr (restInOrder.imp fun precedes => ?_)
        exact Prod.Lex.right _ precedes
      · rintro pair isOfName ⟨first, second⟩ isOfRest
        obtain ⟨later, _, rfl⟩ := List.mem_map.mp isOfName
        have inRest : first ∈ rest :=
          (mem_pairs_iff.mp isOfRest).subset List.mem_cons_self
        exact Prod.Lex.left _ _ (ahead first inRest)

/-- Where the events of a risk are defined. -/
def definedAt (outline : Outline) (risk : DeadlockRisk) : Nat × Nat :=
  (outline.definedAt risk.first, outline.definedAt risk.second)

/-- Risks are in the order of the first blocks of their first events, then of their second ones. -/
theorem pairwise_find
    (outline : Outline) :
    (find outline).Pairwise fun earlier later =>
      Prod.Lex (· < ·) (· < ·) (definedAt outline earlier) (definedAt outline later) := by
  rw [find_eq_filterMap_between?]
  refine List.Pairwise.filterMap _ ?_ (pairwise_pairs outline.pairwise_definedAt)
  rintro ⟨first, second⟩ ⟨laterFirst, laterSecond⟩ precedes risk isRisk laterRisk isLaterRisk
  obtain ⟨rfl, rfl⟩ := names_of_between? isRisk
  obtain ⟨rfl, rfl⟩ := names_of_between? isLaterRisk
  exact precedes

/-- The first event of a risk is defined first. -/
theorem definedAt_lt_of_mem_find
    {outline : Outline}
    {risk : DeadlockRisk}
    (isRisk : risk ∈ find outline) :
    outline.definedAt risk.first < outline.definedAt risk.second := by
  have ordered := outline.pairwise_definedAt.sublist (mem_find_iff.mp isRisk).1
  exact (List.pairwise_cons.mp ordered).1 risk.second List.mem_cons_self

/-- No two risks are between the same events. -/
theorem nodup_map_pair_find
    (outline : Outline) :
    ((find outline).map fun risk => s(risk.first, risk.second)).Nodup := by
  refine List.pairwise_map.mpr ((pairwise_find outline).imp_of_mem ?_)
  intro earlier later isEarlier isLater precedes same
  have earlierInOrder := definedAt_lt_of_mem_find isEarlier
  have laterInOrder := definedAt_lt_of_mem_find isLater
  simp only [Prod.lex_def, definedAt] at precedes
  rcases Sym2.eq_iff.mp same with ⟨sameFirst, sameSecond⟩ | ⟨firstIsSecond, secondIsFirst⟩
  · rw [sameFirst, sameSecond] at precedes
    omega
  · rw [firstIsSecond, secondIsFirst] at earlierInOrder
    omega

/-! ## Every pair in contention -/

/-- Two different events are at risk exactly when they contend. -/
theorem mem_map_pair_find_iff
    {outline : Outline}
    {first second : Text} :
    s(first, second) ∈ (find outline).map (fun risk => s(risk.first, risk.second)) ↔
      first ≠ second ∧ outline.Defines first ∧ outline.Defines second ∧
        Contend outline first second := by
  constructor
  · intro isPair
    obtain ⟨risk, isRisk, same⟩ := List.mem_map.mp isPair
    obtain ⟨ordered, isBetween⟩ := mem_find_iff.mp isRisk
    have different : risk.first ≠ risk.second := by
      intro sameName
      have inOrder := definedAt_lt_of_mem_find isRisk
      rw [sameName] at inOrder
      exact Nat.lt_irrefl _ inOrder
    have definesFirst : outline.Defines risk.first :=
      Outline.mem_eventNames_iff.mp (ordered.subset (by simp))
    have definesSecond : outline.Defines risk.second :=
      Outline.mem_eventNames_iff.mp (ordered.subset (by simp))
    have contend := exists_between?_iff.mp ⟨risk, isBetween⟩
    rcases Sym2.eq_iff.mp same with ⟨rfl, rfl⟩ | ⟨rfl, rfl⟩
    · exact ⟨different, definesFirst, definesSecond, contend⟩
    · exact ⟨different.symm, definesSecond, definesFirst, contend.swap⟩
  · rintro ⟨different, definesFirst, definesSecond, contend⟩
    rcases pair_sublist_of_ne different (Outline.mem_eventNames_iff.mpr definesFirst)
      (Outline.mem_eventNames_iff.mpr definesSecond) with ordered | swapped
    · obtain ⟨risk, isBetween⟩ := exists_between?_iff.mpr contend
      obtain ⟨rfl, rfl⟩ := names_of_between? isBetween
      exact List.mem_map.mpr ⟨risk, mem_find_iff.mpr ⟨ordered, isBetween⟩, rfl⟩
    · obtain ⟨risk, isBetween⟩ := exists_between?_iff.mpr contend.swap
      obtain ⟨rfl, rfl⟩ := names_of_between? isBetween
      exact List.mem_map.mpr ⟨risk, mem_find_iff.mpr ⟨swapped, isBetween⟩, Sym2.eq_swap⟩

/-- The risks of a script are exact.  Two events are at risk at most once, and exactly when
they are different events of the script that contend.  The one that is defined first comes
first, the risk has all that both hold and is high exactly when each awaits what the other
holds, and its line is the first one that opens the first event.  Risks come in the
lexicographic order in which their events are defined. -/
theorem find_reports_each_contending_pair_once
    (script : Text) :
    let outline := Outline.ofScript script
    ((find outline).map fun risk => s(risk.first, risk.second)).Nodup ∧
      (∀ first second,
        s(first, second) ∈ (find outline).map (fun risk => s(risk.first, risk.second)) ↔
          first ≠ second ∧ outline.Defines first ∧ outline.Defines second ∧
            Contend outline first second) ∧
      (∀ risk ∈ find outline,
        outline.definedAt risk.first < outline.definedAt risk.second ∧ Describes outline risk) ∧
      (find outline).Pairwise fun earlier later =>
        Prod.Lex (· < ·) (· < ·) (definedAt outline earlier) (definedAt outline later) := by
  intro outline
  refine ⟨nodup_map_pair_find outline, fun _ _ => mem_map_pair_find_iff, ?_,
    pairwise_find outline⟩
  intro risk isRisk
  obtain ⟨ordered, isBetween⟩ := mem_find_iff.mp isRisk
  have definesFirst : outline.Defines risk.first :=
    Outline.mem_eventNames_iff.mp (ordered.subset (by simp))
  exact ⟨definedAt_lt_of_mem_find isRisk, describes_of_between? definesFirst isBetween⟩

/-- A one-way wait on a variable that the other event assigns. -/
theorem find_reports_wait_on_declared_name :
    let outline := Outline.ofScript
      "int X = 0\nint Flag = 0\nwhen(Flag==1)[B]\nA::\nX:1;\nFlag:1;\nB::\nX:2;"
    let risk : DeadlockRisk := ⟨"A", "B", ["X"], .medium, 4⟩
    risk ∈ find outline ∧
      outline.definedAt risk.first < outline.definedAt risk.second ∧ Describes outline risk := by
  intro outline risk
  have isRisk : risk ∈ find outline := by
    decide +kernel
  exact ⟨isRisk, (find_reports_each_contending_pair_once _).2.2.1 risk isRisk⟩

/-- A wait on a name that the other event assigns is no risk when the name is neither
declared nor a resource, though both events hold a variable. -/
theorem no_risk_of_wait_on_untracked_name :
    let outline := Outline.ofScript
      "int X = 0\nwhen(Flag==1)[B]\nA::\nX:1;\nFlag:1;\nB::\nX:2;"
    find outline = [] ∧
      (∃ name, Holds outline "A" name ∧ Holds outline "B" name) ∧
      ∃ name, Awaits outline "B" name ∧ Assigns outline "A" name := by
  intro outline
  have facts :
      find outline = [] ∧ ("X" : Text) ∈ heldBy outline "A" ∧ ("X" : Text) ∈ heldBy outline "B" ∧
        ("Flag" : Text) ∈ waitedBy (guardReads outline) "B" ∧ Assigns outline "A" "Flag" := by
    decide +kernel
  obtain ⟨noRisk, ofFirst, ofSecond, awaited, assigned⟩ := facts
  exact ⟨noRisk, ⟨"X", mem_heldBy_iff_holds.mp ofFirst, mem_heldBy_iff_holds.mp ofSecond⟩,
    "Flag", mem_waitedBy_iff_awaits.mp awaited, assigned⟩

end DeadlockRisk

end MissionLint
