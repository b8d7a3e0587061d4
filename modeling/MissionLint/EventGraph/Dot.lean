import MissionLint.EventGraph

namespace MissionLint

/-!
# Graph drawings

A graph is written in the DOT language.  Events without a block are drawn as
diamonds, and the style of an edge shows its kind.
-/

namespace EventGraph

/-- A name with its quotation marks escaped. -/
def escapedName (name : Text) : Text :=
  name.flatMap fun (c : CodePoint) => if c == '"' then ['\\', '"'] else [c]

/-- The line of a node, which looks different when no block defines it. -/
def nodeLine (node : Text × Bool) : Text :=
  let style : Text :=
    if node.2 then
      "style=filled, fillcolor=\"#ddeeff\""
    else
      "style=filled, fillcolor=\"#ffcccc\", shape=diamond"
  "  \"" ++ escapedName node.1 ++ "\" [" ++ style ++ "];"

/-- How an edge of a kind is drawn. -/
def kindStyle : ReferenceKind → Text
  | .call => ""
  | .whenTrigger => ", style=dashed, color=blue"
  | .callCommand => ", color=darkgreen"
  | .ifTrigger => ", style=dotted, color=purple"

/-- The line of an edge, with its kind and its line in the script. -/
def edgeLine (edge : Edge) : Text :=
  "  \"" ++ edge.source ++ "\" -> \"" ++ edge.target ++ "\" [label=\"" ++ edge.kind.name ++ ":"
    ++ Text.ofNat edge.line ++ "\"" ++ kindStyle edge.kind ++ "];"

/-- The lines of a drawing. -/
def dotLines (graph : EventGraph) (title : Option Text) : List Text :=
  let label : List Text :=
    match title with
    | none => []
    | some [] => []
    | some shown => ["  label=\"" ++ shown ++ "\";"]
  let opening : List Text := ["digraph EventGraph \x7b", "  rankdir=LR;"]
  let nodeStyle : Text := "  node [shape=box, fontname=\"Helvetica\", fontsize=10];"
  let closing : Text := "\x7d"
  opening ++ label ++ [nodeStyle] ++ graph.nodes.map nodeLine ++ graph.edges.map edgeLine
    ++ [closing]

/-- A drawing of a graph under an optional title. -/
def toDot (graph : EventGraph) (title : Option Text) : Text :=
  Text.join "\n" (graph.dotLines title)

end EventGraph

end MissionLint
