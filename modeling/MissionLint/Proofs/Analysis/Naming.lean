import MissionLint.Proofs.Analysis.Origin
import MissionLint.Proofs.EventGraph.Lossless
import MissionLint.Proofs.Text.OneLine

namespace MissionLint

/-!
# The names that analyses report

Whatever an analysis of a script names is called by a name of the script: the events of edges,
of cycles and of risks, the variables of locks and machines, and what events at risk share.
Only the states of a machine can be called otherwise, by comments, but never by one with a
line break.
-/

namespace Outline

/-- Every event of a script has a name. -/
theorem isName_of_mem_eventNames
    {script name : Text}
    (known : name ∈ (ofScript script).eventNames) :
    Text.isName name = true := by
  obtain ⟨event, isBlock, rfl⟩ := List.mem_map.mp (List.mem_eraseDups.mp known)
  exact isName_of_mem_events isBlock

/-- What is found as a variable has a name. -/
theorem isName_of_variableNamed?
    {script name : Text}
    {declared : Variable}
    (found : (ofScript script).variableNamed? name = some declared) :
    Text.isName name = true := by
  obtain ⟨isDeclared, rfl⟩ := variableNamed?_eq_some_iff.mp found
  exact isName_of_mem_declared isDeclared

end Outline

/-! ## References and cycles -/

namespace EventGraph

/-- Both ends of an edge have names. -/
theorem isNamed_of_mem_edges
    {script : Text}
    {edge : Edge}
    (isEdge : edge ∈ (ofOutline (Outline.ofScript script)).edges) :
    edge.IsNamed := by
  have indexed := indexed_ofOutline (Outline.ofScript script)
  exact ⟨isName_of_mem_nodes (indexed.source_mem edge isEdge),
    isName_of_mem_nodes (indexed.target_mem edge isEdge)⟩

/-- Every event of a cycle is the target of an edge. -/
theorem isName_of_mem_cycles
    {script : Text}
    {cycle : Cycle}
    (isCycle : cycle ∈ (ofOutline (Outline.ofScript script)).cycles)
    {name : Text}
    (member : name ∈ cycle.events) :
    Text.isName name = true := by
  have indexed := indexed_ofOutline (Outline.ofScript script)
  have onCycle := indexed.onCycle_of_closedIn (indexed.sound_cycles.1 cycle isCycle) member
  obtain ⟨_, _, leads⟩ := Relation.TransGen.tail'_iff.mp onCycle
  exact isName_of_mem_nodes (indexed.mem_keys_of_leads leads)

end EventGraph

/-! ## Locks -/

/-- A lock is a declared variable, or one to which some line assigns. -/
theorem LockPattern.isName_of_find
    {script : Text}
    {patterns : List LockPattern}
    (returns : find (Outline.ofScript script) = .ok patterns)
    {pattern : LockPattern}
    (isPattern : pattern ∈ patterns) :
    Text.isName pattern.variableName = true := by
  obtain ⟨chosen, rfl, _, isChosen⟩ := exists_of_find returns
  have follows := ((isChosen pattern).mp (List.mem_mergeSort.mp isPattern)).follows
  cases kind : pattern.kind with
  | globalCooldown =>
      rw [kind] at follows
      obtain ⟨line, _, _, _, assigned, _⟩ := follows.incremented
      exact Assignment.isName_of_mem_inCode assigned
  | oneTimeEvent =>
      rw [kind] at follows
      obtain ⟨declared, found, _⟩ := follows.flag
      exact Outline.isName_of_variableNamed? found
  | exclusiveState =>
      rw [kind] at follows
      obtain ⟨declared, found, _⟩ := follows.integer
      exact Outline.isName_of_variableNamed? found

/-! ## State machines -/

namespace StateMachine

/-- The name that a comment gives is one line. -/
theorem oneLine_nameOfComment
    (comment : Text) :
    (nameOfComment comment).OneLine :=
  Text.oneLine_join (by decide) fun _ => Text.oneLine_of_mem_words

/-- A state is named by a comment, by the table or by its value. -/
theorem oneLine_of_stateName
    {outline : Outline}
    {names : Table Int Text}
    (tabled : ∀ entry ∈ names, entry.2.OneLine)
    {name label : Text}
    {state : Int}
    (returns : stateName outline names name state = .ok label) :
    label.OneLine := by
  have usual : ((names.find? state).getD ("STATE_" ++ Text.ofInt state)).OneLine := by
    cases found : names.find? state with
    | none =>
        exact .append (Text.oneLine_literal (by decide)) (Text.oneLine_ofInt state)
    | some known =>
        exact tabled (state, known) (Table.mem_of_find?_eq_some found)
  obtain ⟨comment, _, isLabel⟩ := Outcome.exists_of_bind returns
  split at isLabel
  · cases isLabel
    exact usual
  · cases isLabel
    exact usual
  · cases isLabel
    exact oneLine_nameOfComment _

/-- A machine is called by the name of its variable, and none of its states is called by a
text with a line break. -/
structure IsNamed (machine : StateMachine) : Prop where
  variableName : Text.isName machine.variableName = true
  states : ∀ state, (machine.nameOf state).OneLine

/-- A state machine has names of one line when the table of names has. -/
theorem isNamed_of_find
    {script : Text}
    {names : Table Int Text}
    (tabled : ∀ entry ∈ names, entry.2.OneLine)
    {machines : List StateMachine}
    (returns : find (Outline.ofScript script) names = .ok machines)
    {machine : StateMachine}
    (isMachine : machine ∈ machines) :
    machine.IsNamed := by
  obtain ⟨found, isFound, areMachines⟩ := Outcome.exists_of_bind returns
  cases areMachines
  have allMachines := allResults_iff_of_mapM (fun _ _ => isMachineOf_iff) isFound
  obtain ⟨declared, isInteger, isMachineOf⟩ := ((allMachines _).mpr rfl).exists_of_mem isMachine
  constructor
  · rw [isMachineOf.variableName]
    exact Outline.isName_of_mem_declared (List.mem_filter.mp isInteger).1
  · intro state
    rw [nameOf]
    cases found : Table.find? machine.states state with
    | none =>
        exact Text.oneLine_nil
    | some label =>
        have isEntry := Table.mem_of_find?_eq_some found
        exact oneLine_of_stateName tabled (isMachineOf.named _ isEntry)

end StateMachine

/-! ## Risks -/

namespace DeadlockRisk

/-- The events at risk, and what they share, are called by names. -/
structure IsNamed (risk : DeadlockRisk) : Prop where
  first : Text.isName risk.first = true
  second : Text.isName risk.second = true
  shared : ∀ name ∈ risk.shared, Text.isName name = true

/-- A deadlock risk has names of one line. -/
theorem isNamed_of_mem_find
    {script : Text}
    {risk : DeadlockRisk}
    (isRisk : risk ∈ find (Outline.ofScript script)) :
    risk.IsNamed := by
  rw [find_eq_filterMap_between?] at isRisk
  obtain ⟨⟨first, second⟩, isPair, isBetween⟩ := List.mem_filterMap.mp isRisk
  obtain ⟨level, _, rfl⟩ := Option.map_eq_some_iff.mp isBetween
  have known := (mem_pairs_iff.mp isPair).subset
  refine ⟨Outline.isName_of_mem_eventNames (known (by simp)),
    Outline.isName_of_mem_eventNames (known (by simp)), fun name isShared => ?_⟩
  have isHeld := (List.mem_filter.mp (Text.mem_sortedDistinct.mp isShared)).1
  obtain ⟨_, _, _, code, _, isAssigned⟩ := mem_heldBy_iff.mp isHeld
  obtain ⟨assignment, assigned, rfl⟩ := List.mem_map.mp isAssigned
  exact Assignment.isName_of_mem_inCode assigned

end DeadlockRisk

end MissionLint
