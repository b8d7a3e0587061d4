import MissionLint.Proofs.EventGraph.Cycles
import MissionLint.Proofs.Analysis.Bare
import MissionLint.Proofs.Analysis.Deadlock
import MissionLint.Proofs.Analysis.LockIdiom
import MissionLint.Proofs.Analysis.Modularity
import MissionLint.Proofs.Analysis.Reconstruction

namespace MissionLint

/-!
# The lines that analyses name

What an analysis finds carries the number of a line of the script.  Some of these numbers are
looked up again, in the graph, among the variables or among the blocks, and the lookup always
finds what the analysis has seen before.
-/

namespace Outline

/-- A number is that of a line. -/
def HasLine (outline : Outline) (number : Nat) : Prop :=
  ∃ line ∈ outline.lines, line.number = number

/-- The lines of a script are numbered from one to their number. -/
theorem HasLine.bounds
    {script : Text}
    {number : Nat}
    (hasLine : (ofScript script).HasLine number) :
    1 ≤ number ∧ number ≤ (script.splitOn ('\n' : CodePoint)).length := by
  obtain ⟨line, isLine, rfl⟩ := hasLine
  have bounds := Line.number_bounds isLine
  rw [Line.ofScript, Line.length_numberFrom] at bounds
  exact bounds

/-! ## Blocks -/

/-- Every block starts on a line of the script. -/
theorem hasLine_start
    {script : Text}
    {event : Event}
    (isBlock : event ∈ (ofScript script).events) :
    (ofScript script).HasLine event.start := by
  have isOpener : (event.start, event.name) ∈ openers (Line.ofScript script) := by
    rw [← openers_ofScript]
    exact List.mem_map.mpr ⟨event, isBlock, rfl⟩
  obtain ⟨line, isLine, opens⟩ := List.mem_filterMap.mp isOpener
  obtain ⟨name, _, isPair⟩ := Option.map_eq_some_iff.mp opens
  exact ⟨line, isLine, congrArg Prod.fst isPair⟩

/-- Every block has a first one of its name. -/
theorem exists_firstEvent?_of_mem
    {outline : Outline}
    {name : Text}
    (known : name ∈ outline.eventNames) :
    ∃ event ∈ outline.events, outline.firstEvent? name = some event := by
  obtain ⟨block, isBlock, isName⟩ := List.mem_map.mp (List.mem_eraseDups.mp known)
  have isSome : (outline.firstEvent? name).isSome = true := by
    rw [firstEvent?, List.find?_isSome]
    exact ⟨block, isBlock, beq_iff_eq.mpr isName⟩
  obtain ⟨event, found⟩ := Option.isSome_iff_exists.mp isSome
  exact ⟨event, List.mem_of_find?_eq_some found, found⟩

/-- Repeated blocks are blocks. -/
theorem mem_of_mem_repeatedFrom
    {seen : List Text}
    {events : List Event}
    {event : Event}
    (isRepeated : event ∈ repeatedFrom seen events) :
    event ∈ events := by
  induction events generalizing seen with
  | nil =>
      exact isRepeated
  | cons first rest inductionHypothesis =>
      rw [repeatedFrom] at isRepeated
      split at isRepeated
      · rcases List.mem_cons.mp isRepeated with rfl | isLater
        · exact List.mem_cons_self
        · exact List.mem_cons_of_mem first (inductionHypothesis isLater)
      · exact List.mem_cons_of_mem first (inductionHypothesis isRepeated)

/-! ## Variables -/

/-- A variable is declared on one of the lines. -/
theorem exists_line_of_mem_declarationsFrom
    {inside : Bool}
    {lines : List Line}
    {declared : Variable}
    (member : declared ∈ declarationsFrom inside lines) :
    ∃ line ∈ lines, line.number = declared.line := by
  fun_induction declarationsFrom inside lines with
  | case1 =>
      cases member
  | case2 inside line rest isBlank inductionHypothesis =>
      exact List.exists_mem_cons_of_exists (inductionHypothesis member)
  | case3 inside line rest isCode opens inductionHypothesis =>
      exact List.exists_mem_cons_of_exists (inductionHypothesis member)
  | case4 inside line rest isCode notOpener declaration declares counts inductionHypothesis =>
      rcases List.mem_cons.mp member with rfl | isLater
      · exact ⟨line, List.mem_cons_self, rfl⟩
      · exact List.exists_mem_cons_of_exists (inductionHypothesis isLater)
  | case5 inside line rest isCode notOpener declaration declares skipped inductionHypothesis =>
      exact List.exists_mem_cons_of_exists (inductionHypothesis member)
  | case6 inside line rest isCode notOpener declaresNothing inductionHypothesis =>
      exact List.exists_mem_cons_of_exists (inductionHypothesis member)

/-- Every variable is declared on a line of the script. -/
theorem hasLine_declared
    {script : Text}
    {declared : Variable}
    (isDeclared : declared ∈ (ofScript script).declared) :
    (ofScript script).HasLine declared.line :=
  exists_line_of_mem_declarationsFrom (mem_of_mem_firstDeclarations isDeclared)

/-- A variable that is found is declared on a line of the script. -/
theorem hasLine_of_variableNamed?
    {script name : Text}
    {declared : Variable}
    (found : (ofScript script).variableNamed? name = some declared) :
    (ofScript script).HasLine declared.line :=
  hasLine_declared (variableNamed?_eq_some_iff.mp found).1

end Outline

/-! ## References and cycles -/

namespace EventGraph

/-- Every edge is on a line of the script. -/
theorem hasLine_edge
    {script : Text}
    {edge : Edge}
    (isEdge : edge ∈ (ofOutline (Outline.ofScript script)).edges) :
    (Outline.ofScript script).HasLine edge.line := by
  rw [edges_ofOutline] at isEdge
  obtain ⟨event, isBlock, isReference⟩ := List.mem_flatMap.mp (List.mem_filter.mp isEdge).1
  obtain ⟨_, line, isCommand, isNumber, _⟩ := mem_referencesOf.mp isReference
  exact ⟨line, Outline.mem_lines_of_mem_commands isBlock isCommand, isNumber⟩

/-- A cycle has the line of the edge that closes it, which the graph knows. -/
theorem exists_closing_edge
    {outline : Outline}
    {cycle : Cycle}
    (isCycle : cycle ∈ (ofOutline outline).cycles) :
    ∃ first middle last, ∃ edge ∈ (ofOutline outline).edges,
      cycle.events = first :: middle ++ [last, first] ∧
        (ofOutline outline).edgeBetween? last first = some edge ∧
        cycle.line = edge.line := by
  obtain ⟨first, middle, last, areEvents, _, _, edge, found, between, isLine⟩ :=
    (indexed_ofOutline outline).sound_cycles.1 cycle isCycle
  exact ⟨first, middle, last, edge, List.mem_of_find?_eq_some found, areEvents, between, isLine⟩

end EventGraph

/-! ## Locks and machines -/

/-- Every lock is on a line of the script. -/
theorem LockPattern.hasLine_of_find
    {script : Text}
    {patterns : List LockPattern}
    (returns : find (Outline.ofScript script) = .ok patterns)
    {pattern : LockPattern}
    (isPattern : pattern ∈ patterns) :
    (Outline.ofScript script).HasLine pattern.line := by
  obtain ⟨chosen, rfl, _, isChosen⟩ := exists_of_find returns
  have describes := (isChosen pattern).mp (List.mem_mergeSort.mp isPattern)
  have follows := describes.follows
  cases kind : pattern.kind with
  | globalCooldown =>
      rw [kind] at follows
      obtain ⟨line, isLine, isNumber, _⟩ := follows.isLeast.1
      exact ⟨line, isLine, isNumber⟩
  | oneTimeEvent =>
      rw [kind] at follows
      obtain ⟨declared, found, _, _, isLine⟩ := follows.flag
      exact isLine ▸ Outline.hasLine_of_variableNamed? found
  | exclusiveState =>
      rw [kind] at follows
      obtain ⟨declared, found, _, isLine⟩ := follows.integer
      exact isLine ▸ Outline.hasLine_of_variableNamed? found

/-- The variable of a machine is declared. -/
theorem StateMachine.exists_variableNamed?_of_find
    {script : Text}
    {names : Table Int Text}
    {machines : List StateMachine}
    (returns : find (Outline.ofScript script) names = .ok machines)
    {machine : StateMachine}
    (isMachine : machine ∈ machines) :
    ∃ declared, (Outline.ofScript script).variableNamed? machine.variableName = some declared := by
  obtain ⟨found, isFound, areMachines⟩ := Outcome.exists_of_bind returns
  cases areMachines
  have allMachines := allResults_iff_of_mapM (fun _ _ => isMachineOf_iff) isFound
  obtain ⟨declared, isInteger, isMachineOf⟩ := ((allMachines _).mpr rfl).exists_of_mem isMachine
  refine ⟨declared, Outline.variableNamed?_eq_some_iff.mpr ⟨?_, isMachineOf.variableName.symm⟩⟩
  exact (List.mem_filter.mp isInteger).1

/-! ## Resources -/

namespace ResourceFlow

/-- What a line grants and demands is on that line. -/
theorem line_of_mem_entriesOn
    {outline : Outline}
    {line : Line}
    {entries : List Entry}
    (returns : entriesOn outline line = .ok entries)
    {entry : Entry}
    (isEntry : entry ∈ entries) :
    entry.amount.line = line.number := by
  unfold entriesOn at returns
  split at returns
  · cases returns
    cases isEntry
  · obtain ⟨granted, _, returns⟩ := Outcome.exists_of_bind returns
    obtain ⟨demanded, _, returns⟩ := Outcome.exists_of_bind returns
    obtain ⟨oxygen, _, returns⟩ := Outcome.exists_of_bind returns
    cases returns
    simp only [List.mem_append, List.mem_map] at isEntry
    rcases isEntry with (⟨amount, _, rfl⟩ | ⟨amount, _, rfl⟩) | ⟨level, _, rfl⟩ <;>
      rfl

/-- Every sink is on a line of the script. -/
theorem hasLine_of_mem_sinks
    {outline : Outline}
    {flows : List ResourceFlow}
    (returns : find outline = .ok flows)
    {flow : ResourceFlow}
    (isFlow : flow ∈ flows)
    {amount : ResourceAmount}
    (isSink : amount ∈ flow.sinks) :
    outline.HasLine amount.line := by
  obtain ⟨entries, areOutcomes, rfl, _⟩ := find_eq_ok_iff.mp returns
  obtain ⟨resource, _, rfl⟩ := List.mem_map.mp isFlow
  obtain ⟨entry, isKept, rfl⟩ := List.mem_map.mp isSink
  obtain ⟨onLine, isOutcome, isEntry⟩ := List.mem_flatten.mp (List.mem_filter.mp isKept).1
  have returned : Except.ok onLine ∈ outcomes outline := by
    rw [areOutcomes]
    exact List.mem_map_of_mem isOutcome
  obtain ⟨line, isLine, returns⟩ := List.mem_map.mp returned
  exact ⟨line, isLine, (line_of_mem_entriesOn returns isEntry).symm⟩

end ResourceFlow

/-! ## Risks -/

/-- A risk has the line on which its first event opens. -/
theorem DeadlockRisk.exists_opener
    {outline : Outline}
    {risk : DeadlockRisk}
    (isRisk : risk ∈ find outline) :
    ∃ event ∈ outline.events,
      outline.firstEvent? risk.first = some event ∧ risk.line = event.start := by
  rw [find_eq_filterMap_between?] at isRisk
  obtain ⟨⟨first, second⟩, isPair, isBetween⟩ := List.mem_filterMap.mp isRisk
  obtain ⟨level, _, rfl⟩ := Option.map_eq_some_iff.mp isBetween
  have known : first ∈ outline.eventNames :=
    (mem_pairs_iff.mp isPair).subset List.mem_cons_self
  obtain ⟨event, isBlock, found⟩ := Outline.exists_firstEvent?_of_mem known
  exact ⟨event, isBlock, found, by simp [found]⟩

/-- Whatever analyses look up again is there: the edge that closes a cycle, the variable of a
machine, the block that opens an event at risk, and the first block of a repeated event. -/
structure Outline.Resolved (outline : Outline) (names : Table Int Text) : Prop where
  closingEdge : ∀ cycle ∈ (EventGraph.ofOutline outline).cycles,
    ∃ first middle last edge,
      cycle.events = first :: middle ++ [last, first] ∧
        (EventGraph.ofOutline outline).edgeBetween? last first = some edge ∧
        cycle.line = edge.line
  machineVariable : ∀ machines, StateMachine.find outline names = .ok machines →
    ∀ machine ∈ machines,
      ∃ declared, outline.variableNamed? machine.variableName = some declared
  riskOpener : ∀ risk ∈ DeadlockRisk.find outline,
    ∃ event, outline.firstEvent? risk.first = some event ∧ risk.line = event.start
  repeatOpener : ∀ event ∈ outline.repeatedEvents,
    ∃ first, outline.firstEvent? event.name = some first

/-- In the outline of a script, all that findings point to is there. -/
theorem Outline.resolved_ofScript
    (script : Text)
    (names : Table Int Text) :
    (ofScript script).Resolved names where
  closingEdge cycle isCycle := by
    obtain ⟨first, middle, last, edge, _, found⟩ := EventGraph.exists_closing_edge isCycle
    exact ⟨first, middle, last, edge, found⟩
  machineVariable _ returns _ isMachine :=
    StateMachine.exists_variableNamed?_of_find returns isMachine
  riskOpener risk isRisk := by
    obtain ⟨event, _, found⟩ := DeadlockRisk.exists_opener isRisk
    exact ⟨event, found⟩
  repeatOpener event isRepeated := by
    have known : event.name ∈ (ofScript script).eventNames :=
      List.mem_eraseDups.mpr (List.mem_map_of_mem (mem_of_mem_repeatedFrom isRepeated))
    obtain ⟨first, _, found⟩ := exists_firstEvent?_of_mem known
    exact ⟨first, found⟩

end MissionLint
