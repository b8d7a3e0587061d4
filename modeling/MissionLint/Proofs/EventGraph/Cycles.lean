import Mathlib.Order.Bounds.Basic
import MissionLint.Proofs.EventGraph.Search
import MissionLint.Proofs.EventGraph.References

namespace MissionLint

/-!
# The reported cycles

The reported cycles are cycles of the graph, and together they cover every edge
that lies on a cycle.  For a script, the line of a cycle is the first one on which
its last event refers to its first.
-/

namespace EventGraph

/-- Every reported cycle is closed, and no two have the same members. -/
theorem Indexed.sound_cycles
    {graph : EventGraph}
    (indexed : Indexed graph) :
    (∀ cycle ∈ graph.cycles, cycle.ClosedIn graph) ∧
      (graph.cycles.map Cycle.members).Nodup := by
  have nothing : Sound graph [] {} :=
    { simple := by simp
      linked := by simp
      closed := by simp
      distinct := by simp }
  have sound : Sound graph []
      (graph.nodes.keys.foldl
        (fun found start => graph.followStack [] [(start, [])] found) {}) :=
    List.foldlRecOn (motive := fun found => Sound graph [] found) graph.nodes.keys _ nothing
      fun _ sound start _ => indexed.sound_followStack start sound
  exact ⟨sound.closed, sound.distinct⟩

/-- An edge on a cycle lies on a reported cycle: the search that starts where the
edge ends visits the event where it begins, and closes the cycle there. -/
theorem Indexed.exists_cycle_of_leads
    {graph : EventGraph}
    (indexed : Indexed graph)
    {source target : Text}
    (leads : graph.Leads source target)
    (reaches : graph.Reaches target source) :
    ∃ cycle ∈ graph.cycles, source ∈ cycle.members ∧ target ∈ cycle.members :=
  graph.covers_foldl_followStack (indexed.mem_keys_of_leads leads) leads reaches {}

/-- Every event of a cycle leads back to itself. -/
theorem Indexed.onCycle_of_closedIn
    {graph : EventGraph}
    (indexed : Indexed graph)
    {cycle : Cycle}
    (closed : cycle.ClosedIn graph)
    {name : Text}
    (member : name ∈ cycle.events) :
    graph.OnCycle name := by
  obtain ⟨first, middle, last, events, _, linked, _⟩ := closed
  have walk : cycle.events.IsChain graph.Leads :=
    linked.imp fun _ _ edge => indexed.leads_iff.mpr edge
  have ahead : cycle.events.Pairwise (Relation.TransGen graph.Leads) :=
    List.isChain_iff_pairwise.mp (walk.imp fun _ _ leads => .single leads)
  have shape : cycle.events = (first :: (middle ++ [last])) ++ [first] := by
    simp [events]
  rw [shape, List.pairwise_append] at ahead
  obtain ⟨fromFirst, _, toFirst⟩ := ahead
  have around : graph.OnCycle first := toFirst first (by simp) first (by simp)
  rw [shape] at member
  rcases List.mem_append.mp member with before | isFirst
  · rcases List.mem_cons.mp before with isFirst | after
    · exact isFirst ▸ around
    · exact (toFirst name before first (by simp)).trans
        ((List.pairwise_cons.mp fromFirst).1 name after)
  · exact List.mem_singleton.mp isFirst ▸ around

/-- What the reported cycles show of a graph: each edge that lies on a cycle, whether
there are cycles at all, and which events are on one. -/
structure ShowsCycles (graph : EventGraph) : Prop where
  covers : ∀ source target,
    target ∈ graph.successors source →
    graph.Reaches target source →
    ∃ cycle ∈ graph.cycles, source ∈ cycle.members ∧ target ∈ cycle.members
  eq_nil_iff : graph.cycles = [] ↔ ¬∃ name, graph.OnCycle name
  members_iff : ∀ name,
    (∃ cycle ∈ graph.cycles, name ∈ cycle.members) ↔ graph.OnCycle name

/-- The cycles of an indexed graph show where it is cyclic. -/
theorem Indexed.showsCycles
    {graph : EventGraph}
    (indexed : Indexed graph) :
    ShowsCycles graph := by
  have members (name : Text) :
      (∃ cycle ∈ graph.cycles, name ∈ cycle.members) ↔ graph.OnCycle name := by
    constructor
    · rintro ⟨cycle, reported, member⟩
      exact indexed.onCycle_of_closedIn (indexed.sound_cycles.1 cycle reported)
        (Text.mem_sortedDistinct.mp member)
    · intro around
      obtain ⟨next, leads, reaches⟩ := (graph.onCycle_iff name).mp around
      obtain ⟨cycle, reported, member, _⟩ := indexed.exists_cycle_of_leads leads reaches
      exact ⟨cycle, reported, member⟩
  refine ⟨fun _ _ => indexed.exists_cycle_of_leads, ?_, members⟩
  constructor
  · rintro nothing ⟨name, around⟩
    obtain ⟨cycle, reported, _⟩ := (members name).mpr around
    rw [nothing] at reported
    exact List.not_mem_nil reported
  · intro acyclic
    rw [List.eq_nil_iff_forall_not_mem]
    intro cycle reported
    obtain ⟨first, middle, last, events, _⟩ := indexed.sound_cycles.1 cycle reported
    have member : first ∈ cycle.members := by
      rw [Cycle.members, Text.mem_sortedDistinct, events]
      simp
    exact acyclic ⟨first, (members first).mp ⟨cycle, reported, member⟩⟩

/-- The reported cycles of every graph that nodes and edges build, in any order, show
its cycles; so do those of every script. -/
theorem cycles_show_every_cycle :
    (∀ changes, ShowsCycles (ofChanges changes)) ∧
      ∀ script, ShowsCycles (ofOutline (Outline.ofScript script)) := by
  constructor
  · intro changes
    exact (indexed_ofChanges changes).showsCycles
  · intro script
    exact (indexed_ofOutline _).showsCycles

/-- The line of a script's cycle is the first line of a block of its last event that
refers to its first event. -/
theorem isLeast_line_of_closedIn
    {script : Text}
    {cycle : Cycle}
    (closed : cycle.ClosedIn (ofOutline (Outline.ofScript script))) :
    ∃ first middle last,
      cycle.events = first :: middle ++ [last, first] ∧
      IsLeast
        {number |
          ∃ event ∈ (Outline.ofScript script).events, event.name = last ∧
            ∃ line ∈ event.commands,
              line.number = number ∧ first ∈ (references line.code).map Prod.fst}
        cycle.line := by
  obtain ⟨first, middle, last, events, different, _, edge, found, _, isLine⟩ := closed
  refine ⟨first, middle, last, events, ?_, ?_⟩
  · have member := List.mem_of_find?_eq_some found
    have ends := List.find?_some found
    simp only [Bool.and_eq_true, beq_iff_eq] at ends
    rw [edges_ofOutline] at member
    obtain ⟨event, inScript, refers⟩ := List.mem_flatMap.mp (List.mem_filter.mp member).1
    obtain ⟨isSource, line, inBlock, isNumber, target⟩ := mem_referencesOf.mp refers
    refine ⟨event, inScript, by rw [← isSource, ends.1], line, inBlock, ?_, ?_⟩
    · rw [isNumber, isLine]
    · exact List.mem_map.mpr ⟨(edge.target, edge.kind), target, ends.2⟩
  · rintro number ⟨event, inScript, isLast, line, inBlock, isNumber, refers⟩
    obtain ⟨⟨target, kind⟩, refers, isTarget⟩ := List.mem_map.mp refers
    simp only at isTarget
    have apart : last ≠ first := by
      rintro rfl
      simp at different
    have member :
        (⟨last, first, kind, number⟩ : Edge) ∈ (ofOutline (Outline.ofScript script)).edges := by
      rw [edges_ofOutline, List.mem_filter]
      refine ⟨List.mem_flatMap.mpr ⟨event, inScript, mem_referencesOf.mpr ?_⟩, by simpa using apart⟩
      exact ⟨isLast.symm, line, inBlock, isNumber, isTarget ▸ refers⟩
    rw [isLine]
    exact le_of_find?_eq_some (pairwise_line_edges script) found member (by simp)

/-- Every reported cycle is a cycle of its graph with the line of the first edge that
closes it, and no two of them have the same events.  In a script that line is the
first on which the last event refers to the first. -/
theorem cycles_are_closed_walks :
    (∀ changes,
      (∀ cycle ∈ (ofChanges changes).cycles, cycle.ClosedIn (ofChanges changes)) ∧
        (ofChanges changes).cycles.Pairwise
          fun earlier later => ¬∀ name, name ∈ earlier.events ↔ name ∈ later.events) ∧
      ∀ script, ∀ cycle ∈ (ofOutline (Outline.ofScript script)).cycles,
        ∃ first middle last,
          cycle.events = first :: middle ++ [last, first] ∧
          IsLeast
            {number |
              ∃ event ∈ (Outline.ofScript script).events, event.name = last ∧
                ∃ line ∈ event.commands,
                  line.number = number ∧ first ∈ (references line.code).map Prod.fst}
            cycle.line := by
  constructor
  · intro changes
    obtain ⟨closed, distinct⟩ := (indexed_ofChanges changes).sound_cycles
    refine ⟨closed, (List.pairwise_map.mp distinct).imp ?_⟩
    intro earlier later different sameEvents
    exact different (Text.sortedDistinct_eq_iff.mpr sameEvents)
  · intro script cycle reported
    exact isLeast_line_of_closedIn ((indexed_ofOutline _).sound_cycles.1 cycle reported)

end EventGraph

end MissionLint
