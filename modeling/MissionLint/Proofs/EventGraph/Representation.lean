import Mathlib.Algebra.Ring.Nat
import Mathlib.Data.List.Induction
import MissionLint.Proofs.EventGraph.References

namespace MissionLint

/-!
# What a graph says about its construction

A graph can be asked for its successors, its edges between two nodes, its defined
nodes and its sizes.  Each answer depends on the changes that built the graph as a
whole: on the edges in the order in which they were added, and on the nodes that
were marked as defined at any time.
-/

namespace GraphChange

/-- The edge that a change adds.  A reference of an event to itself adds none. -/
def addedEdge? : GraphChange → Option Edge
  | .node _ _ => none
  | .edge added => if added.source = added.target then none else some added

end GraphChange

namespace EventGraph

/-- The last change is applied to the graph of those before it. -/
theorem ofChanges_concat
    (changes : List GraphChange)
    (change : GraphChange) :
    ofChanges (changes ++ [change]) = (ofChanges changes).apply change := by
  simp [ofChanges]

/-- The edges are those that the changes add, in the order of the changes. -/
theorem edges_ofChanges
    (changes : List GraphChange) :
    (ofChanges changes).edges = changes.filterMap GraphChange.addedEdge? := by
  induction changes using List.reverseRecOn with
  | nil =>
      rfl
  | append_singleton changes change inductionHypothesis =>
      rw [ofChanges_concat, List.filterMap_append, ← inductionHypothesis]
      cases change with
      | node name defined =>
          simp [apply, GraphChange.addedEdge?]
      | edge added =>
          rw [apply, edges_addEdge]
          by_cases same : added.source = added.target <;>
            simp [GraphChange.addedEdge?, same]

/-! ## Defined nodes -/

/-- Adding a node defines at most that node, and no node becomes undefined. -/
theorem isDefined_addNode
    (graph : EventGraph)
    (name other : Text)
    (defined : Bool) :
    (graph.addNode name defined).isDefined other =
      (graph.isDefined other || (defined && other == name)) := by
  unfold addNode isDefined
  by_cases known : name ∈ graph.nodes.keys
  · rw [if_pos ((Table.has_eq_true_iff _ _).mpr known)]
    cases defined with
    | false =>
        simp
    | true =>
        simp only [if_true, Table.find?_put]
        by_cases same : other = name <;>
          simp [same]
  · rw [if_neg (mt (Table.has_eq_true_iff _ _).mp known)]
    simp only [Table.find?_append, Table.find?_cons]
    by_cases same : other = name
    · subst same
      simp [Table.find?_eq_none_of_not_mem known]
    · cases graph.nodes.find? other <;>
        simp [same, Table.find?]

/-- Adding an edge defines no event. -/
theorem isDefined_addEdge
    (graph : EventGraph)
    (edge : Edge)
    (name : Text) :
    (graph.addEdge edge).isDefined name = graph.isDefined name := by
  rw [addEdge_eq]
  split
  · rfl
  · change
      ((graph.addNode edge.source false).addNode edge.target false).isDefined name =
        graph.isDefined name
    simp [isDefined_addNode]

/-- A node is defined when some change marked it so, before or after the edges to it. -/
theorem isDefined_ofChanges
    (changes : List GraphChange)
    (name : Text) :
    (ofChanges changes).isDefined name = true ↔ GraphChange.node name true ∈ changes := by
  induction changes using List.reverseRecOn with
  | nil =>
      simp [ofChanges, empty, isDefined, Table.find?]
  | append_singleton changes change inductionHypothesis =>
      rw [ofChanges_concat, List.mem_append, ← inductionHypothesis]
      cases change with
      | node other defined =>
          rw [apply, isDefined_addNode]
          cases defined <;>
            simp
      | edge added =>
          rw [apply, isDefined_addEdge]
          simp

/-- The undefined targets are those of edges to which no change adds a defined node. -/
theorem undefinedTargets_ofChanges
    (changes : List GraphChange) :
    (ofChanges changes).undefinedTargets =
      (ofChanges changes).edges.filter
        fun edge => decide (GraphChange.node edge.target true ∉ changes) := by
  unfold undefinedTargets
  congr 1
  funext edge
  rw [Bool.eq_iff_iff]
  simp [← isDefined_ofChanges]

/-! ## Sizes -/

/-- The statistics have the number of references of each kind. -/
theorem find?_statistics
    (graph : EventGraph)
    (kind : ReferenceKind) :
    Table.find? graph.statistics kind.name = some (graph.countOf kind) := by
  cases kind <;>
    rfl

/-- Every edge has exactly one kind. -/
theorem sum_countOf
    (graph : EventGraph) :
    (ReferenceKind.all.map graph.countOf).sum = graph.edges.length := by
  unfold countOf
  induction graph.edges with
  | nil =>
      rfl
  | cons edge rest inductionHypothesis =>
      simp only [ReferenceKind.all, List.map_cons, List.map_nil, List.sum_cons, List.sum_nil,
        List.countP_cons, List.length_cons] at inductionHypothesis ⊢
      cases edge.kind <;>
        simp <;>
        omega

/-- The first edge between two nodes is the first of all edges that joins them. -/
theorem Indexed.edgeBetween?_eq_find?
    {graph : EventGraph}
    (indexed : Indexed graph)
    (source target : Text) :
    graph.edgeBetween? source target =
      graph.edges.find? fun edge => edge.source == source && edge.target == target := by
  rw [indexed.edgeBetween?_eq, edgesFrom, List.find?_filter]
  congr 1
  funext edge
  rw [Bool.eq_iff_iff]
  simp

/-- A reference of an event to itself leaves every graph as it is. -/
theorem addEdge_self
    (graph : EventGraph)
    (name : Text)
    (kind : ReferenceKind)
    (line : Nat) :
    graph.addEdge ⟨name, name, kind, line⟩ = graph := by
  rw [addEdge_eq]
  exact if_pos rfl

/-- Whatever changes build a graph, its nodes, links, edges and sizes agree.  The edges are
those that were added between different nodes, in order; successors and first edges can
be read off them; and a node is defined when it was marked so at any time. -/
theorem answers_ofChanges
    (changes : List GraphChange) :
    (ofChanges changes).links.keys = (ofChanges changes).nodes.keys ∧
      (∀ edge ∈ (ofChanges changes).edges,
        edge.source ∈ (ofChanges changes).nodes.keys ∧
          edge.target ∈ (ofChanges changes).nodes.keys ∧
          edge.source ≠ edge.target) ∧
      (ofChanges changes).edges = changes.filterMap GraphChange.addedEdge? ∧
      (∀ source,
        (ofChanges changes).successors source =
          (((ofChanges changes).edges.filter fun edge => edge.source == source).map
            Edge.target).eraseDups) ∧
      (∀ source target,
        (ofChanges changes).edgeBetween? source target =
          (ofChanges changes).edges.find?
            fun edge => edge.source == source && edge.target == target) ∧
      (∀ name,
        (ofChanges changes).isDefined name = true ↔ GraphChange.node name true ∈ changes) ∧
      (ofChanges changes).undefinedTargets =
        (ofChanges changes).edges.filter
          (fun edge => decide (GraphChange.node edge.target true ∉ changes)) ∧
      (ReferenceKind.all.filterMap
        fun kind => Table.find? (ofChanges changes).statistics kind.name).sum =
          (ofChanges changes).edges.length ∧
      ∀ name kind line,
        (ofChanges changes).addEdge ⟨name, name, kind, line⟩ = ofChanges changes := by
  have indexed := indexed_ofChanges changes
  refine ⟨indexed.keys_links, ?_, edges_ofChanges changes, indexed.successors_eq,
    indexed.edgeBetween?_eq_find?, isDefined_ofChanges changes,
    undefinedTargets_ofChanges changes, ?_, addEdge_self _⟩
  · intro edge member
    exact ⟨indexed.source_mem edge member, indexed.target_mem edge member,
      indexed.ends_ne edge member⟩
  · simp only [find?_statistics, ← Function.comp_def some, List.filterMap_eq_map]
    exact sum_countOf _

/-- The target of an edge is marked as defined between two parallel edges, another target
never, and one reference is of an event to itself. -/
theorem answers_of_late_definition :
    let changes : List GraphChange := [
      .edge ⟨"Start", "Finish", .call, 2⟩,
      .node "Finish" true,
      .edge ⟨"Start", "Finish", .ifTrigger, 3⟩,
      .edge ⟨"Finish", "Bonus", .whenTrigger, 5⟩,
      .edge ⟨"Start", "Start", .callCommand, 6⟩,
      .node "Finish" false
    ]
    (⟨"Start", "Finish", .ifTrigger, 3⟩ : Edge) ∈ (ofChanges changes).edges ∧
      ("Start" : Text) ∈ (ofChanges changes).nodes.keys ∧
      (ofChanges changes).successors "Start" = [("Finish" : Text)] ∧
      (ofChanges changes).edgeBetween? "Start" "Finish" =
        some ⟨"Start", "Finish", .call, 2⟩ ∧
      (ofChanges changes).undefinedTargets = [⟨"Finish", "Bonus", .whenTrigger, 5⟩] := by
  intro changes
  obtain ⟨_, ends, isEdges, successors, between, _, undefinedTargets, _⟩ :=
    answers_ofChanges changes
  rw [successors, between, undefinedTargets]
  have member : (⟨"Start", "Finish", .ifTrigger, 3⟩ : Edge) ∈ (ofChanges changes).edges := by
    rw [isEdges]
    decide
  refine ⟨member, (ends _ member).1, ?_⟩
  rw [isEdges]
  decide

end EventGraph

end MissionLint
