import MissionLint.Proofs.EventGraph.Representation
import MissionLint.Proofs.Script.Ownership

namespace MissionLint

/-!
# The graph of a script

A graph has its nodes in the order in which changes first name them, and each of them
tells whether it was marked as defined.  In the graph of a script the events with blocks
are named first, so the nodes are those events followed by the targets without a block,
and the edges are what the command lines of the blocks write.
-/

namespace GraphChange

/-- The nodes that a change names, in order.  A reference of an event to itself names
none. -/
def named : GraphChange → List Text
  | .node name _ => [name]
  | .edge added => if added.source = added.target then [] else [added.source, added.target]

end GraphChange

namespace EventGraph

/-! ## Nodes in the order of the changes -/

/-- Adding a node is naming it. -/
theorem keys_nodes_addNode_of_eq
    {graph : EventGraph}
    {names : List Text}
    (isNamed : graph.nodes.keys = names.eraseDups)
    (name : Text)
    (defined : Bool) :
    (graph.addNode name defined).nodes.keys = (names ++ [name]).eraseDups := by
  rw [keys_nodes_addNode, eraseDups_concat, isNamed]
  simp only [List.mem_eraseDups]

/-- A change adds the names that are new. -/
theorem keys_nodes_apply
    {graph : EventGraph}
    {names : List Text}
    (isNamed : graph.nodes.keys = names.eraseDups)
    (change : GraphChange) :
    (graph.apply change).nodes.keys = (names ++ change.named).eraseDups := by
  cases change with
  | node name defined =>
      exact keys_nodes_addNode_of_eq isNamed name defined
  | edge added =>
      rw [apply, addEdge_eq, GraphChange.named]
      split
      · rw [List.append_nil, isNamed]
      · have withSource := keys_nodes_addNode_of_eq isNamed added.source false
        have withTarget := keys_nodes_addNode_of_eq withSource added.target false
        rwa [List.append_assoc] at withTarget

/-- The nodes of a graph are what its changes name, in the order of the first naming. -/
theorem keys_nodes_ofChanges
    (changes : List GraphChange) :
    (ofChanges changes).nodes.keys = (changes.flatMap GraphChange.named).eraseDups := by
  induction changes using List.reverseRecOn with
  | nil =>
      rfl
  | append_singleton changes change inductionHypothesis =>
      rw [ofChanges_concat, keys_nodes_apply inductionHypothesis, List.flatMap_append,
        List.flatMap_singleton]

/-- Every node of a graph is marked with whether it is defined. -/
theorem Indexed.nodes_eq
    {graph : EventGraph}
    (indexed : Indexed graph) :
    graph.nodes = graph.nodes.keys.map fun name => (name, graph.isDefined name) :=
  Table.eq_map_keys indexed.nodup_keys false

/-! ## The graph of a script -/

/-- The edges that a command line of an event writes: its invocations, then its triggers,
then its calls.  What leads back to the event itself is no edge. -/
def edgesOn (name : Text) (line : Line) : List Edge :=
  ((Invocation.inCode line.code).filter fun target => target != name).map
      (fun target => ⟨name, target, .call, line.number⟩)
    ++ ((Trigger.inCode line.code).filter fun trigger => trigger.target != name).map
      (fun trigger =>
        ⟨name, trigger.target, if trigger.isGuard then .whenTrigger else .ifTrigger, line.number⟩)
    ++ ((CallCommand.inCode line.code).filter fun target => target != name).map
      fun target => ⟨name, target, .callCommand, line.number⟩

/-- A trigger refers to its target as a guard or as a condition. -/
theorem ofTrigger_eq
    (trigger : Trigger) :
    ReferenceKind.ofTrigger trigger = if trigger.isGuard then .whenTrigger else .ifTrigger := by
  unfold ReferenceKind.ofTrigger Trigger.isGuard
  cases trigger.word <;>
    rfl

/-- The edges of a block are written by its command lines. -/
theorem filter_referencesOf
    (event : Event) :
    (referencesOf event).filter (fun edge => edge.source != edge.target) =
      event.commands.flatMap (edgesOn event.name) := by
  unfold referencesOf
  rw [List.filter_flatMap]
  congr 1
  funext line
  simp only [references, edgesOn, List.map_append, List.map_map, List.filter_append,
    List.filter_map, Function.comp_def, ofTrigger_eq, bne_comm]

/-- The edges of the graph are those of each command, in the order of the script. -/
theorem edges_ofOutline_eq_flatMap
    (outline : Outline) :
    (ofOutline outline).edges =
      outline.events.flatMap fun event => event.commands.flatMap (edgesOn event.name) := by
  rw [edges_ofOutline, List.filter_flatMap]
  simp only [filter_referencesOf]

/-- Every edge leaves an event with a block. -/
theorem source_mem_eventNames
    {outline : Outline}
    {edge : Edge}
    (member : edge ∈ (ofOutline outline).edges) :
    edge.source ∈ outline.events.map Event.name := by
  rw [edges_ofOutline] at member
  obtain ⟨event, isBlock, refers⟩ := List.mem_flatMap.mp (List.mem_filter.mp member).1
  rw [(mem_referencesOf.mp refers).1]
  exact List.mem_map_of_mem isBlock

/-- A script names the events with blocks, then the ends of each edge. -/
theorem flatMap_named_changesOf
    (outline : Outline) :
    (changesOf outline).flatMap GraphChange.named =
      outline.events.map Event.name ++
        (ofOutline outline).edges.flatMap fun edge => [edge.source, edge.target] := by
  rw [edges_ofOutline, changesOf, List.flatMap_append, List.flatMap_map, List.flatMap_map]
  have events :
      (outline.events.flatMap fun event => (GraphChange.node event.name true).named) =
        outline.events.map Event.name :=
    List.map_eq_flatMap.symm
  rw [events]
  congr 1
  induction outline.events.flatMap referencesOf with
  | nil =>
      rfl
  | cons edge rest inductionHypothesis =>
      rw [List.flatMap_cons, inductionHypothesis, GraphChange.named]
      by_cases same : edge.source = edge.target <;>
        simp [same]

/-- Of the ends of edges, only targets can be without a block. -/
theorem filter_ends
    {names : List Text}
    {edges : List Edge}
    (sources : ∀ edge ∈ edges, edge.source ∈ names) :
    (edges.flatMap fun edge => [edge.source, edge.target]).filter (fun name => name ∉ names) =
      (edges.map Edge.target).filter fun name => name ∉ names := by
  induction edges with
  | nil =>
      rfl
  | cons edge rest inductionHypothesis =>
      have others := inductionHypothesis fun other isLater =>
        sources other (List.mem_cons_of_mem edge isLater)
      have known := sources edge List.mem_cons_self
      rw [List.flatMap_cons, List.filter_append, others, List.map_cons, List.filter_cons,
        List.filter_cons]
      by_cases targetKnown : edge.target ∈ names <;>
        simp [known, targetKnown]

/-- The targets without a block, in the order of the first reference to them. -/
def strayTargets (outline : Outline) : List Text :=
  (((ofOutline outline).edges.map Edge.target).filter
    fun name => name ∉ outline.eventNames).eraseDups

/-- The nodes of the graph are the events and then the targets without a block. -/
theorem keys_nodes_ofOutline
    (outline : Outline) :
    (ofOutline outline).nodes.keys = outline.eventNames ++ strayTargets outline := by
  have known (name : Text) :
      name ∈ outline.events.map Event.name ↔ name ∈ outline.eventNames :=
    List.mem_eraseDups.symm
  have strays :
      ((ofOutline outline).edges.flatMap fun edge => [edge.source, edge.target]).removeAll
          (outline.events.map Event.name) =
        ((ofOutline outline).edges.map Edge.target).filter
          fun name => name ∉ outline.eventNames := by
    simp only [← known]
    rw [← filter_ends fun _ member => source_mem_eventNames member]
    simp only [List.removeAll, List.elem_eq_mem, decide_not]
  rw [ofOutline_eq_ofChanges, keys_nodes_ofChanges, flatMap_named_changesOf,
    List.eraseDups_append, strays]
  rfl

/-- A node is defined when it is an event with a block. -/
theorem isDefined_ofOutline
    (outline : Outline)
    (name : Text) :
    (ofOutline outline).isDefined name = decide (name ∈ outline.eventNames) := by
  rw [Bool.eq_iff_iff, ofOutline_eq_ofChanges, isDefined_ofChanges, changesOf,
    decide_eq_true_eq, Outline.eventNames, List.mem_eraseDups]
  simp [eq_comm]

/-- Events with blocks come first and are defined; the other nodes are not. -/
theorem nodes_ofOutline
    (outline : Outline) :
    (ofOutline outline).nodes =
      outline.eventNames.map (fun name => (name, true)) ++
        (strayTargets outline).map fun name => (name, false) := by
  rw [(indexed_ofOutline outline).nodes_eq, keys_nodes_ofOutline, List.map_append]
  simp only [isDefined_ofOutline]
  congr 1
  · refine List.map_congr_left fun name member => ?_
    simp [member]
  · refine List.map_congr_left fun name member => ?_
    have isStray := (List.mem_filter.mp (List.mem_eraseDups.mp member)).2
    simpa using isStray

/-- An event has a block exactly when some line opens it. -/
theorem mem_eventNames_ofScript
    (script name : Text) :
    name ∈ (Outline.ofScript script).eventNames ↔
      ∃ line ∈ Line.ofScript script, Opener.ofCode? line.code = some name := by
  have names :
      (Outline.ofScript script).events.map Event.name =
        (Outline.openers (Line.ofScript script)).map Prod.snd := by
    rw [← Outline.openers_ofScript, List.map_map]
    rfl
  rw [Outline.eventNames, List.mem_eraseDups, names]
  simp [Outline.openers]

/-- The graph of a script is exact.  Its edges are what the command lines of the blocks
write, in the order of the text.  Its nodes are the events with blocks, which are defined,
followed by the targets without one in the order of the first reference to them, which are
not.  An edge has an undefined target when no line of the script opens it. -/
theorem graph_ofScript
    (script : Text) :
    let outline := Outline.ofScript script
    let graph := ofOutline outline
    graph.edges =
        outline.events.flatMap (fun event => event.commands.flatMap (edgesOn event.name)) ∧
      graph.edges.Pairwise (fun earlier later => earlier.line ≤ later.line) ∧
      graph.nodes =
        outline.eventNames.map (fun name => (name, true)) ++
          (strayTargets outline).map (fun name => (name, false)) ∧
      graph.undefinedTargets =
        graph.edges.filter (fun edge => decide (edge.target ∉ outline.eventNames)) ∧
      ∀ name,
        name ∈ outline.eventNames ↔
          ∃ line ∈ Line.ofScript script, Opener.ofCode? line.code = some name := by
  intro outline graph
  refine ⟨edges_ofOutline_eq_flatMap outline, pairwise_line_edges script,
    nodes_ofOutline outline, ?_, mem_eventNames_ofScript script⟩
  simp only [graph, undefinedTargets, isDefined_ofOutline, decide_not]

/-- Here `A` has two blocks, `B` is opened after the first reference to it, and `C` never is. -/
example :
    (ofOutline (Outline.ofScript "A::\nC::;\nB::;\nA::;\nB::\ncall:C\nA::\nif(x==1)[B]")).nodes =
      ([("A", true), ("B", true), ("C", false)] : Table Text Bool) := by
  decide +kernel

end EventGraph

end MissionLint
