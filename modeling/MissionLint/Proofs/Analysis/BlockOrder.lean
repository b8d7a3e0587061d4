import Mathlib.Algebra.BigOperators.Group.List.Basic
import MissionLint.Proofs.Analysis.Deadlock
import MissionLint.Proofs.Analysis.Modularity
import MissionLint.Proofs.EventGraph.Cycles

namespace MissionLint

/-!
# The order of blocks

What the analyses take from a script is the union of what they take from its parts, as
long as every part but the first starts with an opener.  So the parts can change places:
the lines of what is found and its order change, but nothing else does.
-/

/-- The last text is joined after a separator. -/
theorem Text.join_concat
    (separator first : Text)
    (parts : List Text)
    (last : Text) :
    join separator (first :: (parts ++ [last])) =
      join separator (first :: parts) ++ separator ++ last := by
  induction parts generalizing first with
  | nil =>
      simp [join, List.intercalate]
  | cons part rest inductionHypothesis =>
      simp only [join, List.cons_append, List.intercalate_cons_cons] at inductionHypothesis ⊢
      rw [inductionHypothesis part]
      simp only [List.append_assoc]

/-! ## Parts of a script -/

section PartsOf

variable {Part : Type} (partsOf : Text → List Part)
  (adds :
    ∀ front back,
      Outline.startsBlock (Line.ofScript back) = true →
      partsOf (front ++ "\n" ++ back) = partsOf front ++ partsOf back)
  {blocks others : List Text}
  (start : ∀ block ∈ blocks, Outline.startsBlock (Line.ofScript block) = true)

include adds start

/-- What adds up over two scripts adds up over any number of them.  The induction takes off the
last part, so that the part below the seam starts with an opener. -/
theorem partsOf_join
    (preamble : Text) :
    partsOf (Text.join "\n" (preamble :: blocks)) =
      partsOf preamble ++ blocks.flatMap partsOf := by
  induction blocks using List.reverseRecOn with
  | nil =>
      simp [Text.join, List.intercalate]
  | append_singleton earlier last inductionHypothesis =>
      have earlierStart :
          ∀ block ∈ earlier, Outline.startsBlock (Line.ofScript block) = true :=
        fun block isEarlier => start block (List.mem_append_left _ isEarlier)
      have lastStarts : Outline.startsBlock (Line.ofScript last) = true :=
        start last (by simp)
      rw [Text.join_concat, adds _ _ lastStarts, inductionHypothesis earlierStart]
      simp

/-- What is taken of every part of a script is the same in any order of the parts below the
first, up to its own order. -/
theorem partsOf_join_perm
    (permuted : blocks.Perm others)
    (preamble : Text) :
    (partsOf (Text.join "\n" (preamble :: blocks))).Perm
      (partsOf (Text.join "\n" (preamble :: others))) := by
  have othersStart : ∀ block ∈ others, Outline.startsBlock (Line.ofScript block) = true :=
    fun block isOther => start block (permuted.mem_iff.mpr isOther)
  rw [partsOf_join partsOf adds start, partsOf_join partsOf adds othersStart]
  exact (permuted.flatMap_right partsOf).append_left (partsOf preamble)

end PartsOf

namespace Outline

/-- Two outlines have the same blocks, guards and declared names, in any order. -/
structure Rearranged (outline other : Outline) : Prop where
  contents : (outline.events.map Event.contents).Perm (other.events.map Event.contents)
  guards : (Outline.guards outline.lines).Perm (Outline.guards other.lines)
  declared :
    ∀ name,
      name ∈ outline.declared.map Variable.name ↔ name ∈ other.declared.map Variable.name

/-- The blocks of a script and of one that starts with an opener below it. -/
theorem contents_append
    (front : Text)
    {back : Text}
    (starts : startsBlock (Line.ofScript back) = true) :
    (ofScript (front ++ "\n" ++ back)).events.map Event.contents =
      (ofScript front).events.map Event.contents ++
        (ofScript back).events.map Event.contents := by
  have movedContents (offset : Nat) (event : Event) :
      (event.moved offset).contents = event.contents := by
    simp only [Event.contents, Event.moved, Event.mapLines, List.map_map]
    rfl
  have contents := map_events_append front starts Event.contents fun _ => rfl
  simpa only [movedContents] using contents

/-- The guards of a script and of another one below it. -/
theorem guards_ofScript_append
    (front back : Text) :
    guards (Line.ofScript (front ++ "\n" ++ back)) =
      guards (Line.ofScript front) ++ guards (Line.ofScript back) := by
  rw [Line.ofScript_append, guards_append, guards_map (Line.keepsShape_moved _)]

/-- The names that are declared, once for each declaration. -/
def declaredNames (script : Text) : List Text :=
  (declarationsFrom false (Line.ofScript script)).map Variable.name

/-- The declared names of a script and of one that starts with an opener below it. -/
theorem declaredNames_append
    (front : Text)
    {back : Text}
    (starts : startsBlock (Line.ofScript back) = true) :
    declaredNames (front ++ "\n" ++ back) = declaredNames front ++ declaredNames back := by
  simp only [declaredNames, Line.ofScript_append,
    declarationsFrom_append (startsBlock_moved starts _),
    declarationsFrom_map (Line.keepsShape_moved _), List.map_append, List.map_map]
  rfl

/-- Parts that start with openers can change places. -/
theorem rearranged_of_perm
    (preamble : Text)
    {blocks others : List Text}
    (start : ∀ block ∈ blocks, startsBlock (Line.ofScript block) = true)
    (permuted : blocks.Perm others) :
    Rearranged (ofScript (Text.join "\n" (preamble :: blocks)))
      (ofScript (Text.join "\n" (preamble :: others))) where
  contents :=
    partsOf_join_perm (fun script => (ofScript script).events.map Event.contents)
      (fun front _ starts => contents_append front starts) start permuted preamble
  guards :=
    partsOf_join_perm (fun script => guards (Line.ofScript script))
      (fun front back _ => guards_ofScript_append front back) start permuted preamble
  declared name := by
    have names :=
      partsOf_join_perm declaredNames (fun front _ starts => declaredNames_append front starts)
        start permuted preamble
    have declares (script : Text) :
        name ∈ (ofScript script).declared.map Variable.name ↔ name ∈ declaredNames script :=
      mem_map_eraseDupsBy_iff
    rw [declares, declares, names.mem_iff]

end Outline

/-! ## Edges and cycles -/

/-- What an edge says, wherever it is written. -/
def Edge.arrow (edge : Edge) : Text × Text × ReferenceKind :=
  (edge.source, edge.target, edge.kind)

namespace EventGraph

/-- What a block refers to. -/
def arrowsOf (contents : Text × List Text) : List (Text × Text × ReferenceKind) :=
  contents.2.flatMap fun code =>
    (references code).map fun reference => (contents.1, reference)

/-- The arrows of the event graph are the references of all blocks that do not lead back to the
block itself. -/
theorem map_arrow_edges
    (outline : Outline) :
    (ofOutline outline).edges.map Edge.arrow =
      ((outline.events.map Event.contents).flatMap arrowsOf).filter
        fun arrow => arrow.1 != arrow.2.1 := by
  have arrows (event : Event) :
      (referencesOf event).map Edge.arrow = arrowsOf event.contents := by
    simp only [referencesOf, arrowsOf, Event.contents, List.map_flatMap, List.flatMap_map,
      List.map_map]
    rfl
  have inEvents :
      (outline.events.flatMap referencesOf).map Edge.arrow =
        (outline.events.map Event.contents).flatMap arrowsOf := by
    simp only [List.map_flatMap, List.flatMap_map, arrows]
  rw [edges_ofOutline, ← inEvents, List.filter_map]
  rfl

end EventGraph

namespace Outline.Rearranged

variable {outline other : Outline}
  (rearranged : Rearranged outline other)

include rearranged

/-- Rearranged outlines have the same arrows. -/
theorem arrows :
    ((EventGraph.ofOutline outline).edges.map Edge.arrow).Perm
      ((EventGraph.ofOutline other).edges.map Edge.arrow) := by
  rw [EventGraph.map_arrow_edges, EventGraph.map_arrow_edges]
  exact (rearranged.contents.flatMap_right EventGraph.arrowsOf).filter _

/-- In rearranged outlines an event leads to the same events. -/
theorem leads_iff
    (source target : Text) :
    (EventGraph.ofOutline outline).Leads source target ↔
      (EventGraph.ofOutline other).Leads source target := by
  have byArrow (outline : Outline) :
      (EventGraph.ofOutline outline).Leads source target ↔
        ∃ kind, (source, target, kind) ∈ (EventGraph.ofOutline outline).edges.map Edge.arrow := by
    rw [(EventGraph.indexed_ofOutline outline).leads_iff]
    simp only [List.mem_map, Edge.arrow, Prod.mk.injEq]
    constructor
    · rintro ⟨edge, isEdge, isSource, isTarget⟩
      exact ⟨edge.kind, edge, isEdge, isSource, isTarget, rfl⟩
    · rintro ⟨_, edge, isEdge, isSource, isTarget, _⟩
      exact ⟨edge, isEdge, isSource, isTarget⟩
  simp only [byArrow, rearranged.arrows.mem_iff]

/-- Rearranged outlines are both free of cycles or both not. -/
theorem cycles_eq_nil_iff :
    (EventGraph.ofOutline outline).cycles = [] ↔ (EventGraph.ofOutline other).cycles = [] := by
  have sameLeads :
      (EventGraph.ofOutline outline).Leads = (EventGraph.ofOutline other).Leads := by
    funext source target
    exact propext (rearranged.leads_iff source target)
  rw [(EventGraph.indexed_ofOutline outline).showsCycles.eq_nil_iff,
    (EventGraph.indexed_ofOutline other).showsCycles.eq_nil_iff]
  simp only [EventGraph.OnCycle, sameLeads]

/-! ## Deadlock risks -/

/-- In rearranged outlines an event holds the same variables. -/
theorem mem_heldBy_iff
    (name held : Text) :
    held ∈ DeadlockRisk.heldBy outline name ↔ held ∈ DeadlockRisk.heldBy other name := by
  simp only [DeadlockRisk.mem_heldBy_iff, DeadlockRisk.tracked, List.mem_append,
    rearranged.declared, rearranged.contents.mem_iff]

/-- In rearranged outlines the guards that lead to an event read the same names. -/
theorem mem_waitedBy_iff
    (name read : Text) :
    read ∈ DeadlockRisk.waitedBy (DeadlockRisk.guardReads outline) name ↔
      read ∈ DeadlockRisk.waitedBy (DeadlockRisk.guardReads other) name := by
  simp only [DeadlockRisk.mem_waitedBy_iff, rearranged.guards.mem_iff]

/-- Rearranged outlines define the same events. -/
theorem mem_eventNames_iff
    (name : Text) :
    name ∈ outline.eventNames ↔ name ∈ other.eventNames := by
  have named (outline : Outline) :
      name ∈ outline.eventNames ↔ name ∈ (outline.events.map Event.contents).map Prod.fst := by
    rw [eventNames, List.mem_eraseDups, List.map_map]
    rfl
  rw [named, named, (rearranged.contents.map Prod.fst).mem_iff]

/-- Rearranged outlines have the same deadlock verdicts. -/
theorem mem_verdicts_iff
    (found : Sym2 Text × List Text × RiskLevel) :
    found ∈ (DeadlockRisk.find outline).map DeadlockRisk.verdict ↔
      found ∈ (DeadlockRisk.find other).map DeadlockRisk.verdict := by
  simp only [DeadlockRisk.mem_verdicts_iff, rearranged.mem_eventNames_iff,
    DeadlockRisk.verdict_between?_congr rearranged.mem_heldBy_iff rearranged.mem_waitedBy_iff]

end Outline.Rearranged

/-! ## Balances -/

namespace ResourceFlow

/-- An entry of which the line is left out. -/
def Entry.unplaced (entry : Entry) : Entry :=
  { entry with amount := { entry.amount with line := 0 } }

/-- What each line of a script grants and demands, wherever the line is. -/
def unplacedOutcomes (script : Text) : List (Except NumeralFault (List Entry)) :=
  (outcomes (Outline.ofScript script)).map (Except.map (List.map Entry.unplaced))

/-- What the lines of a script grant and demand, and those of one that starts with an opener
below it. -/
theorem unplacedOutcomes_append
    (front : Text)
    {back : Text}
    (starts : Outline.startsBlock (Line.ofScript back) = true) :
    unplacedOutcomes (front ++ "\n" ++ back) =
      unplacedOutcomes front ++ unplacedOutcomes back := by
  have unplacedMoved (outcome : Except NumeralFault (List Entry)) (offset : Nat) :
      (outcome.map (List.map (Entry.moved offset))).map (List.map Entry.unplaced) =
        outcome.map (List.map Entry.unplaced) := by
    cases outcome with
    | error fault =>
        rfl
    | ok entries =>
        simp only [Except.map, List.map_map]
        rfl
  simp only [unplacedOutcomes, outcomes_append front starts, List.map_append, List.map_map,
    Function.comp_def, unplacedMoved]

/-- The balance of a resource does not depend on the lines of its entries. -/
theorem balance_ofEntries_unplaced
    (entries : List Entry)
    (resource : Resource) :
    (ofEntries (entries.map Entry.unplaced) resource).balance =
      (ofEntries entries resource).balance := by
  simp only [balance, totalSources, totalSinks, total, ofEntries, List.filter_map, List.map_map]
  rfl

/-- The balance of a resource does not depend on the order of its entries. -/
theorem balance_ofEntries_perm
    {entries others : List Entry}
    (permuted : entries.Perm others)
    (resource : Resource) :
    (ofEntries entries resource).balance = (ofEntries others resource).balance := by
  have sameTotal (side : Side) :
      total ((entries.filter fun entry => entry.resource == resource && entry.side == side).map
          Entry.amount) =
        total ((others.filter fun entry => entry.resource == resource && entry.side == side).map
          Entry.amount) :=
    (((permuted.filter _).map Entry.amount).map ResourceAmount.amount).sum_eq
  simp only [balance, totalSources, totalSinks, ofEntries, sameTotal]

/-- Where the analysis returns, it returns for the same lines in any order, with the same
balances: no line fails in one order, so none fails in the other. -/
theorem find_of_perm
    {script other : Text}
    (permuted : (unplacedOutcomes script).Perm (unplacedOutcomes other))
    {flows : List ResourceFlow}
    (returns : find (.ofScript script) = .ok flows) :
    ∃ otherFlows,
      find (.ofScript other) = .ok otherFlows ∧
        otherFlows.map ResourceFlow.resource = flows.map ResourceFlow.resource ∧
        otherFlows.map balance = flows.map balance := by
  obtain ⟨entries, areEntries, rfl, fits⟩ := find_eq_ok_iff.mp returns
  simp only [unplacedOutcomes, areEntries, List.map_map] at permuted
  obtain ⟨otherEntries, areOthers⟩ :
      outcomes (.ofScript other) ∈ Set.range (List.map Except.ok) := by
    rw [Set.range_list_map]
    intro outcome isOutcome
    have isPermuted := permuted.mem_iff.mpr (List.mem_map_of_mem isOutcome)
    cases outcome with
    | ok found =>
        exact ⟨found, rfl⟩
    | error fault =>
        simp [Except.map] at isPermuted
  have sameEntries :
      (entries.flatten.map Entry.unplaced).Perm (otherEntries.flatten.map Entry.unplaced) := by
    have returned (found : List (List Entry)) :
        (found.map (Except.map (List.map Entry.unplaced) ∘ Except.ok)).flatMap
            (fun outcome : Except NumeralFault (List Entry) => outcome.toOption.getD []) =
          found.flatten.map Entry.unplaced := by
      rw [List.flatMap_map, List.map_flatten, List.flatMap_def]
      rfl
    rw [← areOthers, List.map_map] at permuted
    rw [← returned, ← returned]
    exact permuted.flatMap_right _
  have sameBalance (resource : Resource) :
      (ofEntries otherEntries.flatten resource).balance =
        (ofEntries entries.flatten resource).balance := by
    have permutedBalance := balance_ofEntries_perm sameEntries resource
    rw [balance_ofEntries_unplaced, balance_ofEntries_unplaced] at permutedBalance
    exact permutedBalance.symm
  have balances :
      (Resource.all.map (ofEntries otherEntries.flatten)).map balance =
        (Resource.all.map (ofEntries entries.flatten)).map balance := by
    simp only [List.map_map, Function.comp_def, sameBalance]
  refine ⟨_, find_eq_ok_iff.mpr ⟨otherEntries, areOthers.symm, rfl, ?_⟩, rfl, balances⟩
  intro flow isFlow
  obtain ⟨resource, isResource, rfl⟩ := List.mem_map.mp isFlow
  rw [sameBalance]
  exact fits _ (List.mem_map_of_mem isResource)

end ResourceFlow

/-- Parts of a script that start with openers can change places, after any first part.  The
pairs of events at risk stay the same, with what they share and how likely they block each
other.  So do the edges, whether there are cycles, and the balances of all resources. -/
theorem analyses_of_permuted_blocks
    (preamble : Text)
    (blocks others : List Text)
    (start : ∀ block ∈ blocks, Outline.startsBlock (Line.ofScript block) = true)
    (permuted : blocks.Perm others) :
    let outline := Outline.ofScript (Text.join "\n" (preamble :: blocks))
    let other := Outline.ofScript (Text.join "\n" (preamble :: others))
    (∀ found,
        found ∈ (DeadlockRisk.find outline).map DeadlockRisk.verdict ↔
          found ∈ (DeadlockRisk.find other).map DeadlockRisk.verdict) ∧
      ((EventGraph.ofOutline outline).edges.map Edge.arrow).Perm
        ((EventGraph.ofOutline other).edges.map Edge.arrow) ∧
      ((EventGraph.ofOutline outline).cycles = [] ↔
        (EventGraph.ofOutline other).cycles = []) ∧
      ∀ flows,
        ResourceFlow.find outline = .ok flows →
          ∃ otherFlows,
            ResourceFlow.find other = .ok otherFlows ∧
              otherFlows.map ResourceFlow.resource = flows.map ResourceFlow.resource ∧
              otherFlows.map ResourceFlow.balance = flows.map ResourceFlow.balance := by
  intro outline other
  have rearranged : Outline.Rearranged outline other :=
    Outline.rearranged_of_perm preamble start permuted
  have amounts :=
    partsOf_join_perm ResourceFlow.unplacedOutcomes
      (fun front _ starts => ResourceFlow.unplacedOutcomes_append front starts) start permuted
      preamble
  exact ⟨rearranged.mem_verdicts_iff, rearranged.arrows, rearranged.cycles_eq_nil_iff,
    fun _ returns => ResourceFlow.find_of_perm amounts returns⟩

/-- Two events that wait on and call each other change places. -/
theorem analyses_of_swapped_blocks :
    let preamble : Text := "int X=0\nwhen(X==1)[A]\nwhen(X==2)[B]"
    let first : Text := "A::\nX:2;\ncall:B;\ncrystals:3;"
    let second : Text := "B::\nX:1;\ncall:A;\nore:4;"
    let outline := Outline.ofScript (Text.join "\n" [preamble, first, second])
    let other := Outline.ofScript (Text.join "\n" [preamble, second, first])
    (∀ block ∈ [first, second], Outline.startsBlock (Line.ofScript block) = true) ∧
      outline.eventNames ≠ other.eventNames ∧
      (s(("A" : Text), ("B" : Text)), [("X" : Text)], RiskLevel.high) ∈
        (DeadlockRisk.find other).map DeadlockRisk.verdict ∧
      ((EventGraph.ofOutline other).edges.map Edge.arrow).length = 2 ∧
      (EventGraph.ofOutline other).cycles ≠ [] ∧
      ∃ flows,
        ResourceFlow.find other = .ok flows ∧ flows.map ResourceFlow.balance = [3, 4, 0, 0] := by
  intro preamble first second outline other
  obtain ⟨start, namesDiffer, isFound, edges, returns⟩ :
      (∀ block ∈ [first, second], Outline.startsBlock (Line.ofScript block) = true) ∧
        outline.eventNames ≠ other.eventNames ∧
        DeadlockRisk.find outline = [⟨"A", "B", ["X"], .high, 4⟩] ∧
        (EventGraph.ofOutline outline).edges =
          [⟨"A", "B", .callCommand, 6⟩, ⟨"B", "A", .callCommand, 10⟩] ∧
        (ResourceFlow.find outline).toOption.map (List.map ResourceFlow.balance) =
          some [3, 4, 0, 0] := by
    decide +kernel
  obtain ⟨verdicts, arrows, cycles, balances⟩ :=
    analyses_of_permuted_blocks preamble [first, second] [second, first] start
      (List.Perm.swap _ _ _)
  refine ⟨start, namesDiffer, ?_, ?_, ?_, ?_⟩
  · rw [← verdicts, isFound]
    exact List.mem_singleton.mpr rfl
  · rw [← arrows.length_eq, edges]
    rfl
  · have indexed := EventGraph.indexed_ofOutline outline
    have toSecond : (EventGraph.ofOutline outline).Leads "A" "B" :=
      indexed.leads_iff.mpr ⟨_, by rw [edges]; exact List.mem_cons_self, rfl, rfl⟩
    have toFirst : (EventGraph.ofOutline outline).Leads "B" "A" :=
      indexed.leads_iff.mpr ⟨⟨"B", "A", .callCommand, 10⟩, by simp [edges], rfl, rfl⟩
    rw [ne_eq, ← cycles, indexed.showsCycles.eq_nil_iff, not_not]
    exact ⟨"A", .tail (.single toSecond) toFirst⟩
  · cases inOutline : ResourceFlow.find outline with
    | error fault =>
        rw [inOutline] at returns
        cases returns
    | ok flows =>
        rw [inOutline] at returns
        obtain ⟨otherFlows, inOther, _, sameBalances⟩ := balances flows inOutline
        exact ⟨otherFlows, inOther, sameBalances.trans (Option.some.inj returns)⟩

end MissionLint
