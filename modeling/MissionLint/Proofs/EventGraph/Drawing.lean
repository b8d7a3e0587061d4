import MissionLint.EventGraph.Dot
import MissionLint.Proofs.EventGraph.Construction

namespace MissionLint

/-!
# How a drawing names events

A drawing declares each node on a line of its own, between quotation marks and with those in
its name escaped.  Escaping keeps names apart.  An edge is drawn between the names as they
are, so it is drawn between the nodes exactly when no quotation mark stands in either name.
-/

namespace EventGraph

/-! ## Escaped names -/

/-- A quotation mark gets a backslash, and other characters stay. -/
theorem escapedName_cons
    (c : CodePoint)
    (rest : Text) :
    escapedName (c :: rest) =
      (if c = '"' then ['\\', '"'] else [c] : Text) ++ escapedName rest := by
  simp [escapedName]

/-- A name without quotation marks is not escaped. -/
theorem escapedName_eq_self
    {name : Text}
    (plain : ('"' : CodePoint) ∉ name) :
    escapedName name = name := by
  induction name with
  | nil =>
      rfl
  | cons c rest inductionHypothesis =>
      simp only [List.mem_cons, not_or] at plain
      rw [escapedName_cons, if_neg (Ne.symm plain.1), inductionHypothesis plain.2]
      rfl

/-- No escaped name starts with a quotation mark. -/
theorem head?_escapedName
    (name : Text) :
    (escapedName name).head? ≠ some '"' := by
  cases name with
  | nil =>
      simp [escapedName]
  | cons c rest =>
      rw [escapedName_cons]
      split
      · simp
      case isFalse other =>
        simpa using other

/-- A backslash before a quotation mark is always the one that escapes it, also where the name
itself has a backslash there. -/
theorem escapedName_injective :
    Function.Injective escapedName := by
  intro left right same
  induction left generalizing right with
  | nil =>
      cases right with
      | nil =>
          rfl
      | cons c rest =>
          rw [escapedName_cons] at same
          split at same <;>
            cases same
  | cons first others inductionHypothesis =>
      cases right with
      | nil =>
          rw [escapedName_cons] at same
          split at same <;>
            cases same
      | cons c rest =>
          rw [escapedName_cons, escapedName_cons] at same
          by_cases leftQuote : first = '"' <;> by_cases rightQuote : c = '"'
          · simp only [leftQuote, rightQuote, if_true] at same ⊢
            rw [inductionHypothesis (List.append_cancel_left same)]
          · simp only [leftQuote, if_true, if_neg rightQuote] at same
            have starts := congrArg List.head? (List.cons.inj same).2
            exact absurd starts.symm (head?_escapedName rest)
          · simp only [if_neg leftQuote, rightQuote, if_true] at same
            have starts := congrArg List.head? (List.cons.inj same).2
            exact absurd starts (head?_escapedName others)
          · simp only [if_neg leftQuote, if_neg rightQuote] at same
            obtain ⟨sameFirst, sameRest⟩ := List.cons.inj same
            rw [sameFirst, inductionHypothesis sameRest]

/-- A name that ends at a quotation mark reads as its escaped form only when none stands in
it. -/
theorem append_quote_eq_escapedName_append_iff
    {name rest more : Text} :
    name ++ ('"' : CodePoint) :: rest = escapedName name ++ ('"' : CodePoint) :: more ↔
      ('"' : CodePoint) ∉ name ∧ rest = more := by
  induction name with
  | nil =>
      simp [escapedName]
  | cons c others inductionHypothesis =>
      rw [escapedName_cons, List.mem_cons]
      by_cases isQuote : c = '"'
      · simp [isQuote]
      · simp only [if_neg isQuote, List.cons_append, List.nil_append, List.cons.injEq, true_and,
          inductionHypothesis, not_or, Ne.symm isQuote, not_false_eq_true]

/-! ## Lines -/

/-- The lines of a drawing before those of its nodes. -/
def heading (title : Option Text) : List Text :=
  (empty.dotLines title).dropLast

/-- The last line of a drawing. -/
def closing : Text :=
  "\x7d"

/-- A drawing has a heading, the nodes, the edges and an end. -/
theorem dotLines_eq
    (graph : EventGraph)
    (title : Option Text) :
    graph.dotLines title =
      heading title ++ graph.nodes.map nodeLine ++ graph.edges.map edgeLine ++ [closing] := by
  simp only [heading, dotLines, empty, List.map_nil, List.append_nil, List.dropLast_concat]
  rfl

/-- How a node line goes on after the name. -/
def nodeStyle (defined : Bool) : Text :=
  if defined then
    "style=filled, fillcolor=\"#ddeeff\""
  else
    "style=filled, fillcolor=\"#ffcccc\", shape=diamond"

/-- A node line starts with the escaped name in quotation marks. -/
theorem nodeLine_eq
    (node : Text × Bool) :
    nodeLine node =
      "  \"" ++ (escapedName node.1 ++ ('"' : CodePoint) ::
        (" [" ++ (nodeStyle node.2 ++ "];"))) := by
  simp [nodeLine, nodeStyle, Text.ofString, Text.ofCharacters]

/-- What an edge line says of the edge besides its ends. -/
def edgeStyle (edge : Edge) : Text :=
  "label=\"" ++ (edge.kind.name ++ (':' : CodePoint) ::
    (Text.ofNat edge.line ++ ('"' : CodePoint) :: kindStyle edge.kind))

/-- An edge line starts with both names in quotation marks. -/
theorem edgeLine_eq
    (edge : Edge) :
    edgeLine edge =
      "  \"" ++ (edge.source ++ ('"' : CodePoint) :: (" -> \"" ++
        (edge.target ++ ('"' : CodePoint) :: (" [" ++ (edgeStyle edge ++ "];"))))) := by
  simp [edgeLine, edgeStyle, Text.ofString, Text.ofCharacters]

/-! ## Names of nodes -/

/-- A name as a drawing declares it. -/
def identifier (name : Text) : Text :=
  "\"" ++ escapedName name ++ "\""

/-- Different names have different identifiers. -/
theorem identifier_injective :
    Function.Injective identifier := by
  intro left right same
  unfold identifier at same
  exact escapedName_injective (List.append_cancel_left (List.append_cancel_right same))

/-- A line declares a node. -/
def Declares (line node : Text) : Prop :=
  ∃ style, line = "  " ++ node ++ " [" ++ style ++ "];"

/-- A line connects one node with another. -/
def Connects (line source target : Text) : Prop :=
  ∃ style, line = "  " ++ source ++ " -> " ++ target ++ " [" ++ style ++ "];"

/-- A node line declares the identifier of its name. -/
theorem declares_nodeLine
    (node : Text × Bool) :
    Declares (nodeLine node) (identifier node.1) := by
  refine ⟨nodeStyle node.2, ?_⟩
  rw [nodeLine_eq]
  simp [identifier, Text.ofString, Text.ofCharacters]

/-- An edge line connects the nodes of its ends exactly when neither name has a quotation
mark. -/
theorem connects_edgeLine_iff
    (edge : Edge) :
    Connects (edgeLine edge) (identifier edge.source) (identifier edge.target) ↔
      ('"' : CodePoint) ∉ edge.source ∧ ('"' : CodePoint) ∉ edge.target := by
  have written (style : Text) :
      "  " ++ identifier edge.source ++ " -> " ++ identifier edge.target ++ " [" ++ style ++ "];" =
        ("  \"" : Text) ++ (escapedName edge.source ++ ('"' : CodePoint) :: (" -> \"" ++
          (escapedName edge.target ++ ('"' : CodePoint) :: (" [" ++ (style ++ "];"))))) := by
    simp [identifier, Text.ofString, Text.ofCharacters]
  unfold Connects
  simp only [written, edgeLine_eq, List.append_cancel_left_eq, List.append_cancel_right_eq,
    append_quote_eq_escapedName_append_iff, exists_and_left, exists_eq', and_true]

/-- A drawing calls its nodes by the same names throughout.  It is made of a line for each node
and a line for each edge; a node line declares the node, each node under an identifier of its
own; and an edge line connects the identifiers under which its ends are declared. -/
structure NamesConsistently (graph : EventGraph) (title : Option Text) : Prop where
  drawn : graph.toDot title =
    Text.join "\n"
      (heading title ++ graph.nodes.map nodeLine ++ graph.edges.map edgeLine ++ [closing])
  declared : ∀ node ∈ graph.nodes, Declares (nodeLine node) (identifier node.1)
  distinct : (graph.nodes.keys.map identifier).Nodup
  connected : ∀ edge ∈ graph.edges,
    edge.source ∈ graph.nodes.keys ∧ edge.target ∈ graph.nodes.keys ∧
      Connects (edgeLine edge) (identifier edge.source) (identifier edge.target)

/-- The drawing of a graph that any changes make declares every node under an identifier of
its own, and calls the nodes by the same names throughout exactly when no edge has an end with
a quotation mark in its name. -/
theorem namesConsistently_iff
    (changes : List GraphChange)
    (title : Option Text) :
    ((ofChanges changes).NamesConsistently title ↔
        ∀ edge ∈ (ofChanges changes).edges,
          ('"' : CodePoint) ∉ edge.source ∧ ('"' : CodePoint) ∉ edge.target) ∧
      (∀ node ∈ (ofChanges changes).nodes, Declares (nodeLine node) (identifier node.1)) ∧
      ((ofChanges changes).nodes.keys.map identifier).Nodup ∧
      ∀ edge ∈ (ofChanges changes).edges,
        Connects (edgeLine edge) (identifier edge.source) (identifier edge.target) ↔
          ('"' : CodePoint) ∉ edge.source ∧ ('"' : CodePoint) ∉ edge.target := by
  have indexed := indexed_ofChanges changes
  have distinct : ((ofChanges changes).nodes.keys.map identifier).Nodup :=
    indexed.nodup_keys.map identifier_injective
  refine ⟨⟨?_, ?_⟩, fun node _ => declares_nodeLine node, distinct,
    fun edge _ => connects_edgeLine_iff edge⟩
  · intro consistent edge isEdge
    obtain ⟨_, _, connects⟩ := consistent.connected edge isEdge
    exact (connects_edgeLine_iff edge).mp connects
  · intro unquoted
    refine ⟨congrArg (Text.join "\n") (dotLines_eq _ title), fun node _ => declares_nodeLine node,
      distinct, fun edge isEdge => ?_⟩
    exact ⟨indexed.source_mem edge isEdge, indexed.target_mem edge isEdge,
      (connects_edgeLine_iff edge).mpr (unquoted edge isEdge)⟩

/-- An event with a quotation mark in its name is declared under one name and drawn under
another. -/
theorem not_namesConsistently_of_quotation_mark :
    ¬(ofChanges [.edge ⟨"a\"b", "c", .call, 1⟩]).NamesConsistently none := by
  intro consistent
  have isEdge : ⟨"a\"b", "c", .call, 1⟩ ∈ (ofChanges [.edge ⟨"a\"b", "c", .call, 1⟩]).edges := by
    decide
  obtain ⟨_, _, connects⟩ := consistent.connected _ isEdge
  exact absurd ((connects_edgeLine_iff _).mp connects).1 (by decide)

end EventGraph

end MissionLint
