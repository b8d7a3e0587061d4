import MissionLint.Table
import MissionLint.Script.Outline

namespace MissionLint

/-!
# Event graphs

An event graph has a node for every event with a block and for every event that
is only referred to, and an edge for every reference from a block to another
event.  Parallel edges are kept; the links of a node hold the first edge to each
of its successors.
-/

/-- The form in which one event refers to another. -/
inductive ReferenceKind where
  | call
  | whenTrigger
  | callCommand
  | ifTrigger
  deriving Repr, DecidableEq

namespace ReferenceKind

/-- All kinds in the order in which they are counted. -/
def all : List ReferenceKind :=
  [.call, .whenTrigger, .callCommand, .ifTrigger]

/-- The name of a kind of reference. -/
def name : ReferenceKind → Text
  | .call => "call"
  | .whenTrigger => "whenTrigger"
  | .callCommand => "callCommand"
  | .ifTrigger => "ifTrigger"

/-- The kind of reference with a name. -/
def ofName? (name : Text) : Option ReferenceKind :=
  all.find? fun kind => kind.name == name

/-- The kind of reference that a trigger makes. -/
def ofTrigger (trigger : Trigger) : ReferenceKind :=
  match trigger.word with
  | .onWhen => .whenTrigger
  | .onIf => .ifTrigger

end ReferenceKind

/-- A reference from one event to another on a line. -/
structure Edge where
  source : Text
  target : Text
  kind : ReferenceKind
  line : Nat
  deriving Repr, DecidableEq

namespace Edge

/-- A short description of an edge. -/
def describe (edge : Edge) : Text :=
  "EventGraphEdge(" ++ edge.source ++ " -> " ++ edge.target ++ ", " ++ edge.kind.name
    ++ " @ " ++ Text.ofNat edge.line ++ ")"

end Edge

/-- The nodes in the order in which they were first seen, each with whether it has
a block; all edges in order; and the links of each node. -/
structure EventGraph where
  nodes : Table Text Bool
  edges : List Edge
  links : Table Text (List Edge)
  deriving Repr, DecidableEq

namespace EventGraph

/-- The graph without nodes. -/
def empty : EventGraph :=
  ⟨[], [], []⟩

/-- Add a node.  A node that is known can become defined, never undefined. -/
def addNode (graph : EventGraph) (name : Text) (defined : Bool) : EventGraph :=
  if graph.nodes.has name then
    if defined then
      { graph with nodes := graph.nodes.put name true }
    else
      graph
  else
    { graph with
      nodes := graph.nodes ++ [(name, defined)]
      links := graph.links ++ [(name, [])] }

/-- Add the link of an edge, unless there is one to its target. -/
def link (edge : Edge) (links : List Edge) : List Edge :=
  if links.any fun known => known.target == edge.target then
    links
  else
    links ++ [edge]

/-- Add an edge and its ends.  A reference of an event to itself is no edge. -/
def addEdge (graph : EventGraph) (edge : Edge) : EventGraph :=
  if edge.source == edge.target then
    graph
  else
    let grown := (graph.addNode edge.source false).addNode edge.target false
    { grown with
      edges := grown.edges ++ [edge]
      links := grown.links.modify edge.source (link edge) }

/-- The links of a node. -/
def linksOf (graph : EventGraph) (name : Text) : List Edge :=
  (graph.links.find? name).getD []

/-- The distinct targets of a node in the order in which they were first seen. -/
def successors (graph : EventGraph) (name : Text) : List Text :=
  (graph.linksOf name).map Edge.target

/-- The first edge from one node to another. -/
def edgeBetween? (graph : EventGraph) (source target : Text) : Option Edge :=
  (graph.linksOf source).find? fun edge => edge.target == target

/-- Every node with its successors. -/
def adjacency (graph : EventGraph) : List (Text × List Text) :=
  graph.nodes.map fun (name, _) => (name, graph.successors name)

/-- Whether an event has a block. -/
def isDefined (graph : EventGraph) (name : Text) : Bool :=
  (graph.nodes.find? name).getD false

/-- The edges whose target has no block. -/
def undefinedTargets (graph : EventGraph) : List Edge :=
  graph.edges.filter fun edge => !graph.isDefined edge.target

/-- The number of edges of a kind. -/
def countOf (graph : EventGraph) (kind : ReferenceKind) : Nat :=
  graph.edges.countP fun edge => edge.kind == kind

/-- The sizes of a graph by name. -/
def statistics (graph : EventGraph) : List (Text × Nat) :=
  let sizes : List (Text × Nat) := [
    ("nodes", graph.nodes.length),
    ("defined_events", graph.nodes.countP fun node => node.2),
    ("edges", graph.edges.length)
  ]
  sizes ++ ReferenceKind.all.map fun kind => (kind.name, graph.countOf kind)

/-- A short description of a graph. -/
def describe (graph : EventGraph) : Text :=
  "EventGraph(nodes=" ++ Text.ofNat graph.nodes.length ++ ", edges="
    ++ Text.ofNat graph.edges.length ++ ")"

/-- The references in a line of code: invocations, then triggers, then calls. -/
def references (code : Text) : List (Text × ReferenceKind) :=
  (Invocation.inCode code).map (fun name => (name, ReferenceKind.call))
    ++ (Trigger.inCode code).map (fun trigger => (trigger.target, .ofTrigger trigger))
    ++ (CallCommand.inCode code).map fun name => (name, ReferenceKind.callCommand)

/-- The references of an event block, those to itself included. -/
def referencesOf (event : Event) : List Edge :=
  event.commands.flatMap fun line =>
    (references line.code).map fun (target, kind) => ⟨event.name, target, kind, line.number⟩

/-- The graph of a script: first the events with blocks, then the references. -/
def ofOutline (outline : Outline) : EventGraph :=
  let defined := outline.events.foldl (fun graph event => graph.addNode event.name true) empty
  (outline.events.flatMap referencesOf).foldl addEdge defined

end EventGraph

end MissionLint
