import MissionLint.Proofs.EventGraph.Construction
import MissionLint.Proofs.Script.Blocks

namespace MissionLint

/-!
# The edges of a script

The edges of a script's graph are the references of its command lines, those of an
event to itself apart, in the order of the lines.
-/

namespace EventGraph

/-- An edge is added unless it leads to where it starts. -/
theorem edges_addEdge
    (graph : EventGraph)
    (edge : Edge) :
    (graph.addEdge edge).edges =
      graph.edges ++ [edge].filter fun added => added.source != added.target := by
  rw [addEdge_eq]
  by_cases same : edge.source = edge.target
  · simp [same]
  · simp [same, record]

/-- Edges are added in their order, but for those that lead to where they start. -/
theorem edges_foldl_addEdge
    (graph : EventGraph)
    (added : List Edge) :
    (added.foldl addEdge graph).edges =
      graph.edges ++ added.filter fun edge => edge.source != edge.target := by
  induction added generalizing graph with
  | nil =>
      simp
  | cons edge rest inductionHypothesis =>
      rw [List.foldl_cons, inductionHypothesis, edges_addEdge, List.append_assoc,
        ← List.filter_append]
      rfl

/-- Adding the nodes of blocks adds no edge. -/
theorem edges_foldl_addNode
    (graph : EventGraph)
    (events : List Event) :
    (events.foldl (fun graph event => graph.addNode event.name true) graph).edges =
      graph.edges := by
  induction events generalizing graph with
  | nil =>
      rfl
  | cons event rest inductionHypothesis =>
      rw [List.foldl_cons, inductionHypothesis, edges_addNode]

/-- The edges of a script are its references between different events. -/
theorem edges_ofOutline
    (outline : Outline) :
    (ofOutline outline).edges =
      (outline.events.flatMap referencesOf).filter
        fun edge => edge.source != edge.target := by
  unfold ofOutline
  rw [edges_foldl_addEdge, edges_foldl_addNode]
  rfl

/-- A reference of a block stands on one of its command lines. -/
theorem mem_referencesOf
    {event : Event}
    {edge : Edge} :
    edge ∈ referencesOf event ↔
      edge.source = event.name ∧
        ∃ line ∈ event.commands,
          line.number = edge.line ∧ (edge.target, edge.kind) ∈ references line.code := by
  unfold referencesOf
  simp only [List.mem_flatMap, List.mem_map, Prod.exists]
  constructor
  · rintro ⟨line, member, target, kind, refers, rfl⟩
    exact ⟨rfl, line, member, rfl, refers⟩
  · rintro ⟨isSource, line, member, isLine, refers⟩
    refine ⟨line, member, edge.target, edge.kind, refers, ?_⟩
    rw [← isSource, isLine]

/-- The lines of a script's edges never go back. -/
theorem pairwise_line_edges
    (script : Text) :
    (ofOutline (Outline.ofScript script)).edges.Pairwise
      fun earlier later => earlier.line ≤ later.line := by
  rw [edges_ofOutline]
  apply List.Pairwise.filter
  have numbers := Outline.pairwise_number_commands script
  rw [List.pairwise_flatMap] at numbers ⊢
  obtain ⟨inBlock, acrossBlocks⟩ := numbers
  constructor
  · intro event member
    unfold referencesOf
    rw [List.pairwise_flatMap]
    constructor
    · intro line _
      rw [List.pairwise_map]
      exact List.pairwise_of_forall fun _ _ => Nat.le_refl _
    · refine (inBlock event member).imp ?_
      intro earlier later grows first isFirst second isSecond
      obtain ⟨_, _, rfl⟩ := List.mem_map.mp isFirst
      obtain ⟨_, _, rfl⟩ := List.mem_map.mp isSecond
      exact Nat.le_of_lt grows
  · refine acrossBlocks.imp ?_
    intro earlier later grows first isFirst second isSecond
    obtain ⟨_, firstLine, inEarlier, isFirstLine, _⟩ := mem_referencesOf.mp isFirst
    obtain ⟨_, secondLine, inLater, isSecondLine, _⟩ := mem_referencesOf.mp isSecond
    rw [← isFirstLine, ← isSecondLine]
    exact Nat.le_of_lt (grows firstLine inEarlier secondLine inLater)

end EventGraph

end MissionLint
