import MissionLint.Proofs.EventGraph.Drawing
import MissionLint.Proofs.EventGraph.Nodes
import MissionLint.Proofs.Numeral.Conversion
import MissionLint.Proofs.Script.Literal
import MissionLint.Proofs.Script.WholeLine

namespace MissionLint

/-!
# Drawings of scripts lose nothing

The events of a script are called by names, which have neither quotation marks nor line
breaks.  So the lines of a drawing can be told apart, each line can be taken apart at its
quotation marks, and a drawing determines the nodes and the edges that it was made from.
-/

namespace Text

/-- A mark that stands in neither text before it ends both of them. -/
theorem append_mark_inj
    {mark : CodePoint}
    {one other oneRest otherRest : Text}
    (notInOne : mark ∉ one)
    (notInOther : mark ∉ other)
    (same : one ++ mark :: oneRest = other ++ mark :: otherRest) :
    one = other ∧ oneRest = otherRest := by
  have differs {text : Text} (absent : mark ∉ text) : ∀ c ∈ text, (c != mark) = true :=
    fun c member => bne_iff_ne.mpr (ne_of_mem_of_not_mem member absent)
  obtain ⟨sameText, sameRest⟩ :=
    append_inj_of_run same (differs notInOne) (differs notInOther) (by simp) (by simp)
  exact ⟨sameText, (List.cons.inj sameRest).2⟩

/-- Joined texts that start with the same parts go on with the same text. -/
theorem join_append_cancel
    {separator : Text}
    (front : List Text)
    {left right : List Text}
    (leftGoesOn : left ≠ [])
    (rightGoesOn : right ≠ [])
    (same : join separator (front ++ left) = join separator (front ++ right)) :
    join separator left = join separator right := by
  induction front with
  | nil =>
      exact same
  | cons part rest inductionHypothesis =>
      apply inductionHypothesis
      simp only [join, List.cons_append] at same ⊢
      rw [List.intercalate_cons_of_ne_nil (List.append_ne_nil_of_right_ne_nil rest leftGoesOn),
        List.intercalate_cons_of_ne_nil
          (List.append_ne_nil_of_right_ne_nil rest rightGoesOn)] at same
      exact List.append_cancel_left same

/-- Lines are found again in what they are joined to. -/
theorem join_lines_injective
    {left right : List Text}
    (leftOneLine : ∀ line ∈ left, ('\n' : CodePoint) ∉ line)
    (rightOneLine : ∀ line ∈ right, ('\n' : CodePoint) ∉ line)
    (leftGoesOn : left ≠ [])
    (rightGoesOn : right ≠ [])
    (same : join "\n" left = join "\n" right) :
    left = right := by
  have leftSplits : (join "\n" left).splitOn ('\n' : CodePoint) = left :=
    List.splitOn_intercalate _ leftOneLine leftGoesOn
  have rightSplits : (join "\n" right).splitOn ('\n' : CodePoint) = right :=
    List.splitOn_intercalate _ rightOneLine rightGoesOn
  rw [← leftSplits, same, rightSplits]

/-- Different numbers are written differently. -/
theorem ofNat_injective :
    Function.Injective ofNat :=
  Function.LeftInverse.injective Numeral.naturalOfText_ofNat

end Text

/-! ## Names in scripts -/

/-- What is invoked is a name. -/
theorem Invocation.isName_of_mem_inCode
    {code name : Text}
    (member : name ∈ inCode code) :
    Text.isName name = true := by
  obtain ⟨onward, rest, reads⟩ := Occurrence.exists_read_of_mem_values member
  simp only [read?, Option.bind_eq_bind, Option.bind_eq_some_iff, Prod.exists] at reads
  obtain ⟨taken, afterName, readsName, _, _, _, _, isName⟩ := reads
  cases isName
  exact (Reader.eq_append_of_name? readsName).2

/-- The target of a trigger is a name. -/
theorem Trigger.isName_target_of_mem_inCode
    {code : Text}
    {trigger : Trigger}
    (member : trigger ∈ inCode code) :
    Text.isName trigger.target = true := by
  obtain ⟨onward, rest, reads⟩ := Occurrence.exists_read_of_mem_values member
  simp only [read?, Option.bind_eq_bind, Option.bind_eq_some_iff, Prod.exists] at reads
  obtain ⟨_, _, _, _, _, _, _, _, _, target, afterTarget, readsTarget, _, _, isTrigger⟩ := reads
  cases isTrigger
  exact (Reader.eq_append_of_name? readsTarget).2

/-- What is called is a name. -/
theorem CallCommand.isName_of_mem_inCode
    {code name : Text}
    (member : name ∈ inCode code) :
    Text.isName name = true := by
  obtain ⟨onward, rest, reads⟩ := Occurrence.exists_read_of_mem_values member
  simp only [read?, Option.bind_eq_bind, Option.bind_eq_some_iff] at reads
  obtain ⟨_, _, _, _, readsName⟩ := reads
  exact (Reader.eq_append_of_name? readsName).2

/-- Different kinds of references have different names. -/
theorem ReferenceKind.name_injective :
    Function.Injective name := by
  have found (kind : ReferenceKind) : ofName? kind.name = some kind := by
    cases kind <;>
      rfl
  intro left right same
  have foundSame := congrArg ofName? same
  rwa [found, found, Option.some.injEq] at foundSame

/-- An edge between names. -/
structure Edge.IsNamed (edge : Edge) : Prop where
  source : Text.isName edge.source = true
  target : Text.isName edge.target = true

namespace GraphChange

/-- A node with a name, or an edge between names. -/
def IsNamed : GraphChange → Prop
  | .node name _ => Text.isName name = true
  | .edge added => added.IsNamed

/-- The node of a change that adds one. -/
def node? : GraphChange → Option (Text × Bool)
  | .node name defined => some (name, defined)
  | .edge _ => none

/-- The edge of a change that adds one. -/
def edge? : GraphChange → Option Edge
  | .node _ _ => none
  | .edge added => some added

end GraphChange

namespace EventGraph

/-- What a code refers to is a name. -/
theorem isName_of_mem_references
    {code target : Text}
    {kind : ReferenceKind}
    (refers : (target, kind) ∈ references code) :
    Text.isName target = true := by
  simp only [references, List.mem_append, List.mem_map, Prod.mk.injEq] at refers
  rcases refers with (⟨name, member, rfl, _⟩ | ⟨trigger, member, rfl, _⟩) | ⟨name, member, rfl, _⟩
  · exact Invocation.isName_of_mem_inCode member
  · exact Trigger.isName_target_of_mem_inCode member
  · exact CallCommand.isName_of_mem_inCode member

/-- Every node of a script is a name. -/
theorem isName_of_mem_nodes
    {script name : Text}
    (isNode : name ∈ (ofOutline (Outline.ofScript script)).nodes.keys) :
    Text.isName name = true := by
  rw [keys_nodes_ofOutline, List.mem_append] at isNode
  rcases isNode with isEvent | isStray
  · obtain ⟨event, isBlock, rfl⟩ := List.mem_map.mp (List.mem_eraseDups.mp isEvent)
    exact Outline.isName_of_mem_events isBlock
  · have isTarget := (List.mem_filter.mp (List.mem_eraseDups.mp isStray)).1
    obtain ⟨edge, isEdge, rfl⟩ := List.mem_map.mp isTarget
    rw [edges_ofOutline] at isEdge
    obtain ⟨event, _, isReference⟩ := List.mem_flatMap.mp (List.mem_filter.mp isEdge).1
    obtain ⟨_, _, _, _, refers⟩ := mem_referencesOf.mp isReference
    exact isName_of_mem_references refers

/-! ## Taking lines apart -/

/-- A node line of a name has no escapes. -/
theorem nodeLine_of_isName
    {name : Text}
    (named : Text.isName name = true)
    (defined : Bool) :
    nodeLine (name, defined) =
      "  \"" ++ (name ++ ('"' : CodePoint) :: (" [" ++ (nodeStyle defined ++ "];"))) := by
  rw [nodeLine_eq, escapedName_eq_self (Text.not_mem_of_isName named (by decide))]

/-- Defined and undefined nodes look different. -/
theorem nodeStyle_injective :
    Function.Injective nodeStyle := by
  unfold Function.Injective
  decide +kernel

/-- A node line can be read in one way only. -/
theorem nodeLine_inj
    {left right : Text}
    {leftDefined rightDefined : Bool}
    (leftNamed : Text.isName left = true)
    (rightNamed : Text.isName right = true)
    (same : nodeLine (left, leftDefined) = nodeLine (right, rightDefined)) :
    left = right ∧ leftDefined = rightDefined := by
  rw [nodeLine_of_isName leftNamed, nodeLine_of_isName rightNamed] at same
  obtain ⟨sameName, sameStyle⟩ :=
    Text.append_mark_inj (Text.not_mem_of_isName leftNamed (by decide))
      (Text.not_mem_of_isName rightNamed (by decide)) (List.append_cancel_left same)
  exact ⟨sameName,
    nodeStyle_injective (List.append_cancel_right (List.append_cancel_left sameStyle))⟩

/-- The end of an edge line can be read in one way only. -/
theorem edgeStyle_inj
    {left right : Edge}
    (same : edgeStyle left ++ "];" = edgeStyle right ++ "];") :
    left.kind = right.kind ∧ left.line = right.line := by
  have noColon (kind : ReferenceKind) : (':' : CodePoint) ∉ kind.name := by
    cases kind <;>
      decide
  have noMark (line : Nat) : ('"' : CodePoint) ∉ Text.ofNat line :=
    (Numeral.isDigits_ofNat line).not_mem (by decide)
  have inside := List.append_cancel_left (List.append_cancel_right same)
  obtain ⟨sameName, afterColon⟩ := Text.append_mark_inj (noColon _) (noColon _) inside
  obtain ⟨sameDigits, _⟩ := Text.append_mark_inj (noMark _) (noMark _) afterColon
  exact ⟨ReferenceKind.name_injective sameName, Text.ofNat_injective sameDigits⟩

/-- An edge line can be read in one way only. -/
theorem edgeLine_inj
    {left right : Edge}
    (leftNamed : left.IsNamed)
    (rightNamed : right.IsNamed)
    (same : edgeLine left = edgeLine right) :
    left = right := by
  rw [edgeLine_eq, edgeLine_eq] at same
  obtain ⟨sameSource, afterSource⟩ :=
    Text.append_mark_inj (Text.not_mem_of_isName leftNamed.source (by decide))
      (Text.not_mem_of_isName rightNamed.source (by decide)) (List.append_cancel_left same)
  obtain ⟨sameTarget, afterTarget⟩ :=
    Text.append_mark_inj (Text.not_mem_of_isName leftNamed.target (by decide))
      (Text.not_mem_of_isName rightNamed.target (by decide)) (List.append_cancel_left afterSource)
  obtain ⟨sameKind, sameLine⟩ := edgeStyle_inj (List.append_cancel_left afterTarget)
  cases left
  cases right
  rw [Edge.mk.injEq]
  exact ⟨sameSource, sameTarget, sameKind, sameLine⟩

/-- After its first name a node line goes on with a bracket and an edge line with an arrow. -/
theorem nodeLine_ne_edgeLine
    {name : Text}
    {defined : Bool}
    {edge : Edge}
    (nodeNamed : Text.isName name = true)
    (edgeNamed : edge.IsNamed) :
    nodeLine (name, defined) ≠ edgeLine edge := by
  intro same
  rw [nodeLine_of_isName nodeNamed, edgeLine_eq] at same
  obtain ⟨_, afterName⟩ :=
    Text.append_mark_inj (Text.not_mem_of_isName nodeNamed (by decide))
      (Text.not_mem_of_isName edgeNamed.source (by decide)) (List.append_cancel_left same)
  simp [Text.ofString, Text.ofCharacters] at afterName

/-! ## Taking drawings apart -/

/-- The line that draws a node or an edge. -/
def lineOf : GraphChange → Text
  | .node name defined => nodeLine (name, defined)
  | .edge added => edgeLine added

/-- A line of a drawing shows one node or one edge. -/
theorem lineOf_inj
    {left right : GraphChange}
    (leftNamed : left.IsNamed)
    (rightNamed : right.IsNamed)
    (same : lineOf left = lineOf right) :
    left = right := by
  cases left with
  | node name defined =>
      cases right with
      | node other otherDefined =>
          obtain ⟨rfl, rfl⟩ := nodeLine_inj leftNamed rightNamed same
          rfl
      | edge added =>
          exact absurd same (nodeLine_ne_edgeLine leftNamed rightNamed)
  | edge added =>
      cases right with
      | node other otherDefined =>
          exact absurd same.symm (nodeLine_ne_edgeLine rightNamed leftNamed)
      | edge other =>
          rw [edgeLine_inj leftNamed rightNamed same]

/-- A node or an edge is drawn on one line. -/
theorem newline_not_mem_lineOf
    {shown : GraphChange}
    (named : shown.IsNamed) :
    ('\n' : CodePoint) ∉ lineOf shown := by
  cases shown with
  | node name defined =>
      have notInName : ('\n' : CodePoint) ∉ name := Text.not_mem_of_isName named (by decide)
      have notInStyle : ('\n' : CodePoint) ∉ nodeStyle defined := by
        cases defined <;>
          decide +kernel
      rw [lineOf, nodeLine_of_isName named]
      simp only [List.mem_append, List.mem_cons, notInName, notInStyle, false_or]
      decide
  | edge added =>
      have noName : Text.isNameChar '\n' = false := by
        decide
      have notInSource := Text.not_mem_of_isName named.source noName
      have notInTarget := Text.not_mem_of_isName named.target noName
      have notInDigits : ('\n' : CodePoint) ∉ Text.ofNat added.line :=
        (Numeral.isDigits_ofNat added.line).not_mem (by decide)
      have notInKind : ('\n' : CodePoint) ∉ added.kind.name := by
        cases added.kind <;>
          decide
      have notInStyle : ('\n' : CodePoint) ∉ kindStyle added.kind := by
        cases added.kind <;>
          decide +kernel
      rw [lineOf, edgeLine_eq, edgeStyle]
      simp only [List.mem_append, List.mem_cons, notInSource, notInTarget, notInDigits, notInKind,
        notInStyle, or_false, false_or]
      decide

/-- What a drawing shows: the nodes and then the edges. -/
def shown (graph : EventGraph) : List GraphChange :=
  graph.nodes.map (fun node => .node node.1 node.2) ++ graph.edges.map .edge

/-- Between heading and end, a drawing has a line for each node and each edge. -/
theorem dotLines_eq_map_lineOf
    (graph : EventGraph)
    (title : Option Text) :
    graph.dotLines title = heading title ++ (graph.shown.map lineOf ++ [closing]) := by
  simp [dotLines_eq, shown, lineOf, Function.comp_def]

/-- Graphs that show the same have the same nodes and edges. -/
theorem shown_eq_iff
    {left right : EventGraph} :
    left.shown = right.shown ↔ left.nodes = right.nodes ∧ left.edges = right.edges := by
  have nodesOf (graph : EventGraph) : graph.shown.filterMap GraphChange.node? = graph.nodes := by
    simp [shown, List.filterMap_append, List.filterMap_map, Function.comp_def, GraphChange.node?]
  have edgesOf (graph : EventGraph) : graph.shown.filterMap GraphChange.edge? = graph.edges := by
    simp [shown, List.filterMap_append, List.filterMap_map, Function.comp_def, GraphChange.edge?]
  constructor
  · intro same
    rw [← nodesOf left, ← nodesOf right, ← edgesOf left, ← edgesOf right, same]
    exact ⟨rfl, rfl⟩
  · rintro ⟨sameNodes, sameEdges⟩
    rw [shown, shown, sameNodes, sameEdges]

/-- The lines of a drawing determine what they show. -/
theorem shown_eq_of_lines
    {left right : List GraphChange}
    (leftNamed : ∀ item ∈ left, item.IsNamed)
    (rightNamed : ∀ item ∈ right, item.IsNamed)
    (same : left.map lineOf = right.map lineOf) :
    left = right := by
  induction left generalizing right with
  | nil =>
      exact (List.map_eq_nil_iff.mp same.symm).symm
  | cons first rest inductionHypothesis =>
      cases right with
      | nil =>
          cases same
      | cons other others =>
          rw [List.forall_mem_cons] at leftNamed rightNamed
          obtain ⟨sameLine, sameLines⟩ := List.cons.inj same
          rw [lineOf_inj leftNamed.1 rightNamed.1 sameLine,
            inductionHypothesis leftNamed.2 rightNamed.2 sameLines]

/-- A drawing under a title determines what it shows, as long as this is called by names. -/
theorem shown_eq_of_toDot
    {left right : EventGraph}
    (leftNamed : ∀ item ∈ left.shown, item.IsNamed)
    (rightNamed : ∀ item ∈ right.shown, item.IsNamed)
    {title : Option Text}
    (same : left.toDot title = right.toDot title) :
    left.shown = right.shown := by
  have oneLine {items : List GraphChange} (named : ∀ item ∈ items, item.IsNamed) :
      ∀ line ∈ items.map lineOf ++ [closing], ('\n' : CodePoint) ∉ line := by
    intro line isLine
    rcases List.mem_append.mp isLine with isItem | isClosing
    · obtain ⟨item, member, rfl⟩ := List.mem_map.mp isItem
      exact newline_not_mem_lineOf (named item member)
    · rw [List.mem_singleton.mp isClosing]
      decide
  rw [toDot, toDot, dotLines_eq_map_lineOf, dotLines_eq_map_lineOf] at same
  have sameJoin := Text.join_append_cancel (heading title) (by simp) (by simp) same
  have sameLines :=
    Text.join_lines_injective (oneLine leftNamed) (oneLine rightNamed) (by simp) (by simp) sameJoin
  exact shown_eq_of_lines leftNamed rightNamed (List.append_cancel_right sameLines)

/-- What the drawing of a script shows is called by names. -/
theorem isNamed_of_mem_shown
    {script : Text} :
    ∀ item ∈ (ofOutline (Outline.ofScript script)).shown, item.IsNamed := by
  have indexed := indexed_ofOutline (Outline.ofScript script)
  intro item isShown
  rcases List.mem_append.mp isShown with isNode | isEdge
  · obtain ⟨node, member, rfl⟩ := List.mem_map.mp isNode
    exact isName_of_mem_nodes (List.mem_map_of_mem member)
  · obtain ⟨edge, member, rfl⟩ := List.mem_map.mp isEdge
    exact ⟨isName_of_mem_nodes (indexed.source_mem edge member),
      isName_of_mem_nodes (indexed.target_mem edge member)⟩

/-- Drawings of scripts lose nothing: under the same title, or under none, the graphs of two
scripts have the same drawing exactly when they have the same nodes in the same order, each
defined in both or in neither, and the same edges in the same order. -/
theorem toDot_ofScript_eq_iff
    (script other : Text)
    (title : Option Text) :
    (ofOutline (Outline.ofScript script)).toDot title =
        (ofOutline (Outline.ofScript other)).toDot title ↔
      (ofOutline (Outline.ofScript script)).nodes = (ofOutline (Outline.ofScript other)).nodes ∧
        (ofOutline (Outline.ofScript script)).edges =
          (ofOutline (Outline.ofScript other)).edges := by
  rw [← shown_eq_iff]
  constructor
  · exact shown_eq_of_toDot isNamed_of_mem_shown isNamed_of_mem_shown
  · intro same
    rw [toDot, toDot, dotLines_eq_map_lineOf, dotLines_eq_map_lineOf, same]

end EventGraph

end MissionLint
