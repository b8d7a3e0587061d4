import MissionLint.EventGraph
import MissionLint.Proofs.Table
import MissionLint.Proofs.Text.Distinct

namespace MissionLint

/-!
# Graphs under construction

A graph grows from the empty one by adding nodes and edges, in any order.  The
links of its nodes are an index of its edges: they can be read off the list of
edges alone, whatever the changes were.
-/

/-- A change of a graph: a node or an edge is added. -/
inductive GraphChange where
  | node (name : Text) (defined : Bool)
  | edge (added : Edge)
  deriving Repr, DecidableEq

namespace EventGraph

/-- A graph after a change. -/
def apply (graph : EventGraph) : GraphChange → EventGraph
  | .node name defined => graph.addNode name defined
  | .edge added => graph.addEdge added

/-- The graph that some changes make of the empty one. -/
def ofChanges (changes : List GraphChange) : EventGraph :=
  changes.foldl apply empty

/-- The changes that build the graph of a script. -/
def changesOf (outline : Outline) : List GraphChange :=
  outline.events.map (fun event => .node event.name true) ++
    (outline.events.flatMap referencesOf).map .edge

/-- The graph of an outline is made by its changes. -/
theorem ofOutline_eq_ofChanges
    (outline : Outline) :
    ofOutline outline = ofChanges (changesOf outline) := by
  simp only [ofOutline, ofChanges, changesOf, List.foldl_append, List.foldl_map, apply]

/-- The edges that leave a node, in order. -/
def edgesFrom (graph : EventGraph) (name : Text) : List Edge :=
  graph.edges.filter fun edge => edge.source == name

/-- What the nodes and the links of a graph say about its edges. -/
structure Indexed (graph : EventGraph) : Prop where
  keys_links : graph.links.keys = graph.nodes.keys
  nodup_keys : graph.nodes.keys.Nodup
  ends_ne : ∀ edge ∈ graph.edges, edge.source ≠ edge.target
  source_mem : ∀ edge ∈ graph.edges, edge.source ∈ graph.nodes.keys
  target_mem : ∀ edge ∈ graph.edges, edge.target ∈ graph.nodes.keys
  successors_eq : ∀ name,
    graph.successors name = ((graph.edgesFrom name).map Edge.target).eraseDups
  edgeBetween?_eq : ∀ source target,
    graph.edgeBetween? source target =
      (graph.edgesFrom source).find? fun edge => edge.target == target

/-- The empty graph is indexed. -/
theorem indexed_empty : Indexed empty where
  keys_links := rfl
  nodup_keys := List.nodup_nil
  ends_ne := by simp [empty]
  source_mem := by simp [empty]
  target_mem := by simp [empty]
  successors_eq _ := rfl
  edgeBetween?_eq _ _ := rfl

/-! ## Adding a node -/

/-- Adding a node adds no edge. -/
@[simp] theorem edges_addNode
    (graph : EventGraph)
    (name : Text)
    (defined : Bool) :
    (graph.addNode name defined).edges = graph.edges := by
  unfold addNode
  split
  · split <;>
      rfl
  · rfl

/-- Adding a node leaves the links of every node as they are: a new node has none. -/
@[simp] theorem linksOf_addNode
    (graph : EventGraph)
    (name other : Text)
    (defined : Bool) :
    (graph.addNode name defined).linksOf other = graph.linksOf other := by
  unfold addNode
  split
  · split <;>
      rfl
  · unfold linksOf
    rw [Table.find?_append]
    cases graph.links.find? other with
    | some links =>
        rfl
    | none =>
        rw [Table.find?_cons]
        split <;>
          rfl

/-- Adding a node adds its name unless it is known. -/
theorem keys_nodes_addNode
    (graph : EventGraph)
    (name : Text)
    (defined : Bool) :
    (graph.addNode name defined).nodes.keys =
      if name ∈ graph.nodes.keys then
        graph.nodes.keys
      else
        graph.nodes.keys ++ [name] := by
  unfold addNode
  by_cases known : name ∈ graph.nodes.keys
  · rw [if_pos ((Table.has_eq_true_iff _ _).mpr known), if_pos known]
    split
    · exact Table.keys_put_of_mem known true
    · rfl
  · rw [if_neg (mt (Table.has_eq_true_iff _ _).mp known), if_neg known]
    simp [Table.keys]

/-- A new node is linked, and a known one is not linked again. -/
theorem keys_links_addNode
    (graph : EventGraph)
    (name : Text)
    (defined : Bool) :
    (graph.addNode name defined).links.keys =
      if name ∈ graph.nodes.keys then
        graph.links.keys
      else
        graph.links.keys ++ [name] := by
  unfold addNode
  by_cases known : name ∈ graph.nodes.keys
  · rw [if_pos ((Table.has_eq_true_iff _ _).mpr known), if_pos known]
    split <;>
      rfl
  · rw [if_neg (mt (Table.has_eq_true_iff _ _).mp known), if_neg known]
    simp [Table.keys]

/-- An added node is there. -/
theorem mem_keys_addNode_self
    (graph : EventGraph)
    (name : Text)
    (defined : Bool) :
    name ∈ (graph.addNode name defined).nodes.keys := by
  rw [keys_nodes_addNode]
  split
  · assumption
  · simp

/-- Adding a node leaves the others. -/
theorem mem_keys_addNode_of_mem
    {graph : EventGraph}
    {known : Text}
    (isNode : known ∈ graph.nodes.keys)
    (name : Text)
    (defined : Bool) :
    known ∈ (graph.addNode name defined).nodes.keys := by
  rw [keys_nodes_addNode]
  split
  · exact isNode
  · exact List.mem_append_left _ isNode

/-- Adding a node keeps a graph indexed. -/
theorem Indexed.addNode
    {graph : EventGraph}
    (indexed : Indexed graph)
    (name : Text)
    (defined : Bool) :
    Indexed (graph.addNode name defined) where
  keys_links := by
    rw [keys_links_addNode, keys_nodes_addNode, indexed.keys_links]
  nodup_keys := by
    rw [keys_nodes_addNode]
    split
    · exact indexed.nodup_keys
    · refine List.nodup_append.mpr ⟨indexed.nodup_keys, by simp, ?_⟩
      rintro known isKnown other isNew rfl
      rw [List.mem_singleton.mp isNew] at isKnown
      contradiction
  ends_ne := by
    simpa using indexed.ends_ne
  source_mem := by
    intro edge member
    rw [edges_addNode] at member
    exact mem_keys_addNode_of_mem (indexed.source_mem edge member) name defined
  target_mem := by
    intro edge member
    rw [edges_addNode] at member
    exact mem_keys_addNode_of_mem (indexed.target_mem edge member) name defined
  successors_eq other := by
    simpa [successors, edgesFrom] using indexed.successors_eq other
  edgeBetween?_eq source target := by
    simpa [edgeBetween?, edgesFrom] using indexed.edgeBetween?_eq source target

/-! ## Adding an edge -/

/-- Write down an edge between nodes and link it. -/
def record (graph : EventGraph) (edge : Edge) : EventGraph :=
  { graph with
    edges := graph.edges ++ [edge]
    links := graph.links.modify edge.source (link edge) }

/-- An edge is written down after its ends have become nodes. -/
theorem addEdge_eq
    (graph : EventGraph)
    (edge : Edge) :
    graph.addEdge edge =
      if edge.source = edge.target then
        graph
      else
        ((graph.addNode edge.source false).addNode edge.target false).record edge := by
  simp only [addEdge, beq_iff_eq]
  rfl

/-- Writing down an edge changes the links of its source only. -/
theorem linksOf_record
    {graph : EventGraph}
    (indexed : Indexed graph)
    {edge : Edge}
    (sourceIsNode : edge.source ∈ graph.nodes.keys)
    (name : Text) :
    (graph.record edge).linksOf name =
      if name = edge.source then link edge (graph.linksOf name) else graph.linksOf name := by
  have known : (graph.links.find? edge.source).isSome = true := by
    rw [← indexed.keys_links] at sourceIsNode
    exact (Table.has_eq_true_iff _ _).mpr sourceIsNode
  obtain ⟨links, found⟩ := Option.isSome_iff_exists.mp known
  unfold linksOf record
  rw [Table.find?_modify]
  by_cases isSource : name = edge.source
  · simp [isSource, found]
  · simp [isSource]

/-- A recorded edge is the last one that leaves its source. -/
theorem edgesFrom_record
    (graph : EventGraph)
    (edge : Edge)
    (name : Text) :
    (graph.record edge).edgesFrom name =
      if name = edge.source then graph.edgesFrom name ++ [edge] else graph.edgesFrom name := by
  unfold edgesFrom record
  rw [List.filter_append]
  by_cases isSource : name = edge.source
  · simp [isSource]
  · simp [isSource, Ne.symm isSource]

/-- Linking an edge adds its target unless it is linked. -/
theorem map_target_link
    (edge : Edge)
    (links : List Edge) :
    (link edge links).map Edge.target =
      if edge.target ∈ links.map Edge.target then
        links.map Edge.target
      else
        links.map Edge.target ++ [edge.target] := by
  unfold link
  by_cases linked : edge.target ∈ links.map Edge.target
  · have found : links.any (fun known => known.target == edge.target) = true := by
      simpa using linked
    rw [if_pos found, if_pos linked]
  · have missing : ¬links.any (fun known => known.target == edge.target) = true := by
      simpa using linked
    rw [if_neg missing, if_neg linked]
    simp

/-- The link to a target is the one that came first.  An edge that is linked already does not
have the target that is missing. -/
theorem find?_link
    (edge : Edge)
    (links : List Edge)
    (target : Text) :
    (link edge links).find? (fun known => known.target == target) =
      (links ++ [edge]).find? (fun known => known.target == target) := by
  unfold link
  split
  case isTrue linked =>
    rw [List.find?_append]
    cases found : links.find? (fun known => known.target == target) with
    | some known =>
        rfl
    | none =>
        have notTarget : edge.target ≠ target := by
          rintro rfl
          rw [List.find?_eq_none] at found
          obtain ⟨known, member, same⟩ := List.any_eq_true.mp linked
          exact found known member same
        simp [notTarget]
  case isFalse =>
    rfl

/-- Recording an edge between nodes keeps a graph indexed. -/
theorem Indexed.record
    {graph : EventGraph}
    (indexed : Indexed graph)
    {edge : Edge}
    (different : edge.source ≠ edge.target)
    (sourceIsNode : edge.source ∈ graph.nodes.keys)
    (targetIsNode : edge.target ∈ graph.nodes.keys) :
    Indexed (graph.record edge) where
  keys_links := by
    simpa [EventGraph.record] using indexed.keys_links
  nodup_keys := indexed.nodup_keys
  ends_ne := by
    intro other member
    rcases List.mem_append.mp member with isKnown | isNew
    · exact indexed.ends_ne other isKnown
    · rw [List.mem_singleton.mp isNew]
      exact different
  source_mem := by
    intro other member
    rcases List.mem_append.mp member with isKnown | isNew
    · exact indexed.source_mem other isKnown
    · rw [List.mem_singleton.mp isNew]
      exact sourceIsNode
  target_mem := by
    intro other member
    rcases List.mem_append.mp member with isKnown | isNew
    · exact indexed.target_mem other isKnown
    · rw [List.mem_singleton.mp isNew]
      exact targetIsNode
  successors_eq name := by
    have before := indexed.successors_eq name
    unfold successors at before ⊢
    rw [linksOf_record indexed sourceIsNode, edgesFrom_record]
    split
    · rw [map_target_link, before, List.map_append, List.map_singleton, eraseDups_concat]
      simp only [List.mem_eraseDups]
    · exact before
  edgeBetween?_eq source target := by
    have before := indexed.edgeBetween?_eq source target
    unfold edgeBetween? at before ⊢
    rw [linksOf_record indexed sourceIsNode, edgesFrom_record]
    split
    · rw [find?_link, List.find?_append, List.find?_append, before]
    · exact before

/-- Adding an edge keeps a graph indexed. -/
theorem Indexed.addEdge
    {graph : EventGraph}
    (indexed : Indexed graph)
    (edge : Edge) :
    Indexed (graph.addEdge edge) := by
  rw [addEdge_eq]
  split
  · exact indexed
  case isFalse different =>
    have withEnds := (indexed.addNode edge.source false).addNode edge.target false
    have sourceIsNode :=
      mem_keys_addNode_of_mem (mem_keys_addNode_self graph edge.source false) edge.target false
    exact withEnds.record different sourceIsNode (mem_keys_addNode_self _ edge.target false)

/-- Every graph that changes build is indexed. -/
theorem indexed_ofChanges
    (changes : List GraphChange) :
    Indexed (ofChanges changes) := by
  unfold ofChanges
  apply List.foldlRecOn changes apply indexed_empty
  intro graph indexed change _
  cases change with
  | node name defined =>
      exact indexed.addNode name defined
  | edge added =>
      exact indexed.addEdge added

/-- The graph of an outline is indexed. -/
theorem indexed_ofOutline
    (outline : Outline) :
    Indexed (ofOutline outline) := by
  rw [ofOutline_eq_ofChanges]
  exact indexed_ofChanges _

end EventGraph

end MissionLint
