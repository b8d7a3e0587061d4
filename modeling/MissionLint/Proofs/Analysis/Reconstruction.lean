import Mathlib.Data.List.Sort
import MissionLint.Analysis.Machine
import MissionLint.Proofs.Analysis.LockIdiom
import MissionLint.Proofs.Table

namespace MissionLint

/-!
# Machines that a script spells out

A guard waits for a state and the first block of its event leaves another one behind.  Both
are the first of many values that could be meant, and a guard that lacks one of them is left
out.  A script is read as the machines that its guards and blocks spell in this way, and
the states of each machine are the ends of its transitions and the state it starts in.
-/

/-! ## Items with and without results -/

/-- The result of the first item that has one. -/
inductive FirstResult (gives : Item → Result → Prop) : List Item → Result → Prop
  | here
      {item : Item}
      {rest : List Item}
      {result : Result}
      (given : gives item result) :
      FirstResult gives (item :: rest) result
  | there
      {item : Item}
      {rest : List Item}
      {result : Result}
      (lacking : ∀ other, ¬gives item other)
      (later : FirstResult gives rest result) :
      FirstResult gives (item :: rest) result

/-- The results of the items that have one, in the order of the items. -/
inductive AllResults (gives : Item → Result → Prop) : List Item → List Result → Prop
  | nil : AllResults gives [] []
  | keep
      {item : Item}
      {rest : List Item}
      {result : Result}
      {results : List Result}
      (given : gives item result)
      (others : AllResults gives rest results) :
      AllResults gives (item :: rest) (result :: results)
  | skip
      {item : Item}
      {rest : List Item}
      {results : List Result}
      (lacking : ∀ result, ¬gives item result)
      (others : AllResults gives rest results) :
      AllResults gives (item :: rest) results

section Results

variable {gives : Item → Result → Prop} {item : Item} {rest : List Item}

/-- An item that gives a result gives the first one. -/
theorem firstResult_cons_of_gives
    {first : Result}
    (gives_iff : ∀ result, gives item result ↔ result = first)
    (result : Result) :
    FirstResult gives (item :: rest) result ↔ result = first := by
  constructor
  · intro found
    cases found with
    | here given =>
        exact (gives_iff result).mp given
    | there lacking later =>
        exact absurd ((gives_iff first).mpr rfl) (lacking first)
  · intro isFirst
    exact .here ((gives_iff result).mpr isFirst)

/-- An item that gives no result is passed over. -/
theorem firstResult_cons_of_lacking
    (lacking : ∀ result, ¬gives item result)
    (result : Result) :
    FirstResult gives (item :: rest) result ↔ FirstResult gives rest result := by
  constructor
  · intro found
    cases found with
    | here given =>
        exact absurd given (lacking result)
    | there _ later =>
        exact later
  · exact .there lacking

/-- An item that gives a result adds it in front. -/
theorem allResults_cons_of_gives
    {first : Result}
    (gives_iff : ∀ result, gives item result ↔ result = first)
    (results : List Result) :
    AllResults gives (item :: rest) results ↔
      ∃ others, AllResults gives rest others ∧ results = first :: others := by
  constructor
  · intro found
    cases found with
    | keep given others =>
        exact ⟨_, others, by rw [(gives_iff _).mp given]⟩
    | skip lacking others =>
        exact absurd ((gives_iff first).mpr rfl) (lacking first)
  · rintro ⟨others, areOthers, rfl⟩
    exact .keep ((gives_iff first).mpr rfl) areOthers

/-- An item that gives no result adds none. -/
theorem allResults_cons_of_lacking
    (lacking : ∀ result, ¬gives item result)
    (results : List Result) :
    AllResults gives (item :: rest) results ↔ AllResults gives rest results := by
  constructor
  · intro found
    cases found with
    | keep given _ =>
        exact absurd given (lacking _)
    | skip _ others =>
        exact others
  · exact .skip lacking

/-- A traversal collects the results of its items, and nothing else, when each step finds
the result of its item, or none when there is none. -/
theorem allResults_iff_of_mapM
    {step : Item → Except ε (Option Result)}
    (gives_iff : ∀ item found, step item = .ok found →
      ∀ result, gives item result ↔ found = some result)
    {items : List Item}
    {found : List (Option Result)}
    (returns : items.mapM step = .ok found)
    (results : List Result) :
    AllResults gives items results ↔ results = found.filterMap id := by
  induction items generalizing found results with
  | nil =>
      cases returns
      constructor
      · rintro ⟨⟩
        rfl
      · rintro rfl
        exact .nil
  | cons item rest inductionHypothesis =>
      obtain ⟨first, others, isFirst, areOthers, rfl⟩ := Outcome.mapM_cons_eq_ok_iff.mp returns
      cases first with
      | none =>
          rw [allResults_cons_of_lacking, inductionHypothesis areOthers]
          · rfl
          · simp [gives_iff item none isFirst]
      | some result =>
          have given (other : Result) : gives item other ↔ other = result := by
            rw [gives_iff item _ isFirst, Option.some.injEq]
            exact eq_comm
          rw [allResults_cons_of_gives given]
          simp [inductionHypothesis areOthers]

/-- Every result is that of some item. -/
theorem AllResults.exists_of_mem
    {items : List Item}
    {results : List Result}
    (areResults : AllResults gives items results)
    {result : Result}
    (member : result ∈ results) :
    ∃ item ∈ items, gives item result := by
  induction areResults with
  | nil =>
      cases member
  | keep given _ inductionHypothesis =>
      rcases List.mem_cons.mp member with rfl | isLater
      · exact ⟨_, List.mem_cons_self, given⟩
      · obtain ⟨item, isItem, alsoGiven⟩ := inductionHypothesis isLater
        exact ⟨item, List.mem_cons_of_mem _ isItem, alsoGiven⟩
  | skip _ _ inductionHypothesis =>
      obtain ⟨item, isItem, given⟩ := inductionHypothesis member
      exact ⟨item, List.mem_cons_of_mem _ isItem, given⟩

end Results

namespace StateMachine

/-! ## Transitions -/

/-- The first integer among the texts of some items is the result of the first item whose text is
one.  The search goes on only after a text that could be read and is no integer, so a text that
cannot be read is never passed over. -/
theorem firstResult_iff_of_firstInteger?
    {gives : Item → Result → Prop}
    {textOf? : Item → Option (Text × Tag)}
    {make : Int × Tag → Result}
    (gives_iff : ∀ item result, gives item result ↔
      ∃ text tag value, textOf? item = some (text, tag) ∧
        IntegerLiteral.ofText? text = .ok (some value) ∧ result = make (value, tag))
    {items : List Item}
    {found : Option (Int × Tag)}
    (returns : firstInteger? (items.filterMap textOf?) = .ok found)
    (result : Result) :
    FirstResult gives items result ↔ found.map make = some result := by
  induction items with
  | nil =>
      cases returns
      simp only [Option.map_none, reduceCtorEq, iff_false]
      rintro ⟨⟩
  | cons item rest inductionHypothesis =>
      cases isText : textOf? item with
      | none =>
          rw [List.filterMap_cons_none isText] at returns
          rw [firstResult_cons_of_lacking, inductionHypothesis returns]
          simp [gives_iff, isText]
      | some placed =>
          obtain ⟨text, tag⟩ := placed
          rw [List.filterMap_cons_some isText, firstInteger?] at returns
          obtain ⟨read, reads, goesOn⟩ := Outcome.exists_of_bind returns
          cases read with
          | none =>
              rw [firstResult_cons_of_lacking, inductionHypothesis goesOn]
              simp [gives_iff, isText, reads]
          | some value =>
              cases goesOn
              have given (result : Result) : gives item result ↔ result = make (value, tag) := by
                simp [gives_iff, isText, reads]
              rw [firstResult_cons_of_gives given, Option.map_some, Option.some.injEq]
              exact eq_comm

/-- A comparison asks whether a variable has a value. -/
def AsksFor (name : Text) (comparison : Comparison) (value : Int) : Prop :=
  comparison.operator = .equal ∧
    ∃ other, comparison.Joins name other ∧ IntegerLiteral.ofText? other = .ok (some value)

/-- The assignments of a block in the order of the text, with their lines. -/
def assignmentsOf (event : Event) : List (Assignment × Nat) :=
  event.commands.flatMap fun line =>
    (Assignment.inCode line.code).map fun assignment => (assignment, line.number)

/-- An assignment gives a variable a value on a line. -/
def Enters (name : Text) (placed : Assignment × Nat) (state : Int × Nat) : Prop :=
  placed.1.name = name ∧
    IntegerLiteral.ofText? placed.1.value = .ok (some state.1) ∧
      placed.2 = state.2

/-- A guard and the first block of its event spell a transition of a variable: from the first
state for which the guard asks to the first state that the block assigns. -/
structure Spells
    (outline : Outline)
    (name : Text)
    (guard : Trigger)
    (transition : Transition) : Prop where
  waits :
    FirstResult (AsksFor name) (Condition.ofText guard.condition).comparisons transition.source
  leaves : ∃ block,
    outline.firstEvent? guard.target = some block ∧
      FirstResult (Enters name) (assignmentsOf block) (transition.target, transition.line)
  trigger : transition.trigger = guard.target

/-- The state before a transition is the first one that its guard asks for. -/
theorem firstResult_asksFor_iff
    {guard : Trigger}
    {name : Text}
    {found : Option (Int × Unit)}
    (returns : stateBefore? guard name = .ok found)
    (source : Int) :
    FirstResult (AsksFor name) (Condition.ofText guard.condition).comparisons source ↔
      found.map Prod.fst = some source := by
  apply firstResult_iff_of_firstInteger? _ returns
  intro comparison value
  by_cases isEqual : comparison.operator = .equal
  · simp only [AsksFor, isEqual, ← Comparison.opposite?_eq_some_iff]
    simp
  · simp [AsksFor, isEqual]

/-- What a block assigns to a name, each value with its line. -/
theorem assignedIn_eq_filterMap
    (event : Event)
    (name : Text) :
    assignedIn event name =
      (assignmentsOf event).filterMap fun placed =>
        if placed.1.name == name then some (placed.1.value, placed.2) else none := by
  simp only [assignedIn, assignmentsOf, List.filterMap_flatMap, List.filterMap_map,
    Function.comp_def]

/-- The state after a transition is the first one that the block enters. -/
theorem firstResult_enters_iff
    {block : Event}
    {name : Text}
    {found : Option (Int × Nat)}
    (returns : firstInteger? (assignedIn block name) = .ok found)
    (state : Int × Nat) :
    FirstResult (Enters name) (assignmentsOf block) state ↔ found = some state := by
  rw [assignedIn_eq_filterMap] at returns
  have gives_iff (placed : Assignment × Nat) (state : Int × Nat) :
      Enters name placed state ↔
        ∃ text line value,
          (if placed.1.name == name then some (placed.1.value, placed.2) else none) =
              some (text, line) ∧
            IntegerLiteral.ofText? text = .ok (some value) ∧ state = id (value, line) := by
    simp only [Option.ite_none_right_eq_some, beq_iff_eq, Option.some.injEq, Prod.mk.injEq]
    constructor
    · rintro ⟨sameName, reads, isLine⟩
      exact ⟨_, _, state.1, ⟨sameName, rfl, isLine⟩, reads, rfl⟩
    · rintro ⟨_, _, _, ⟨sameName, rfl, isLine⟩, reads, rfl⟩
      exact ⟨sameName, reads, isLine⟩
  rw [firstResult_iff_of_firstInteger? gives_iff returns, Option.map_id]
  rfl

/-- A guard gives the transition that it spells, and none when it spells none. -/
theorem spells_iff
    {outline : Outline}
    {name : Text}
    {guard : Trigger}
    {found : Option Transition}
    (returns : transitionOf? outline name guard = .ok found)
    (transition : Transition) :
    Spells outline name guard transition ↔ found = some transition := by
  obtain ⟨before, isBefore, goesOn⟩ := Outcome.exists_of_bind returns
  have waits_iff := firstResult_asksFor_iff isBefore
  cases before with
  | none =>
      cases goesOn
      simp only [reduceCtorEq, iff_false]
      intro spells
      cases (waits_iff _).mp spells.waits
  | some state =>
      obtain ⟨source, _⟩ := state
      obtain ⟨after, isAfter, isFound⟩ := Outcome.exists_of_bind goesOn
      have leaves_iff (target : Int) (line : Nat) :
          (∃ block, outline.firstEvent? guard.target = some block ∧
            FirstResult (Enters name) (assignmentsOf block) (target, line)) ↔
              after = some (target, line) := by
        unfold stateAfter? at isAfter
        split at isAfter
        case h_1 isAbsent =>
          cases isAfter
          simp [isAbsent]
        case h_2 block isFirst =>
          simp [isFirst, firstResult_enters_iff isAfter]
      have spells :
          Spells outline name guard transition ↔
            source = transition.source ∧ after = some (transition.target, transition.line) ∧
              transition.trigger = guard.target := by
        rw [← leaves_iff]
        constructor
        · intro spells
          exact ⟨Option.some.inj ((waits_iff _).mp spells.waits), spells.leaves, spells.trigger⟩
        · rintro ⟨isSource, leaves, isTrigger⟩
          exact ⟨(waits_iff _).mpr (congrArg some isSource), leaves, isTrigger⟩
      rw [spells]
      cases after with
      | none =>
          cases isFound
          simp
      | some state =>
          cases isFound
          obtain ⟨_, _, _, _⟩ := transition
          constructor
          · rintro ⟨rfl, ⟨⟩, rfl⟩
            rfl
          · rintro ⟨⟩
            exact ⟨rfl, rfl, rfl⟩

/-- The transitions of a variable are those that the guards spell, in their order. -/
theorem allResults_spells_iff
    {outline : Outline}
    {name : Text}
    {transitions : List Transition}
    (returns : transitionsOf outline name = .ok transitions)
    (others : List Transition) :
    AllResults (Spells outline name) (Outline.guards outline.lines) others ↔
      others = transitions := by
  obtain ⟨found, isFound, areTransitions⟩ := Outcome.exists_of_bind returns
  cases areTransitions
  exact allResults_iff_of_mapM (fun _ _ => spells_iff) isFound others

/-! ## States -/

/-- The states of a machine are its initial state and the ends of its transitions. -/
theorem mem_statesOf_iff
    {initial : Int}
    {transitions : List Transition}
    {state : Int} :
    state ∈ statesOf initial transitions ↔
      state = initial ∨
        ∃ transition ∈ transitions, state = transition.source ∨ state = transition.target := by
  simp [statesOf]

/-- The states of a machine are in ascending order. -/
theorem pairwise_lt_statesOf
    (initial : Int)
    (transitions : List Transition) :
    (statesOf initial transitions).Pairwise (· < ·) := by
  have sorted : (statesOf initial transitions).Pairwise (· ≤ ·) :=
    List.sortedLE_mergeSort.pairwise
  have distinct : (statesOf initial transitions).Nodup :=
    (List.mergeSort_perm _ _).nodup_iff.mpr (nodup_eraseDups _)
  exact (sorted.and distinct).imp fun both => lt_of_le_of_ne both.1 both.2

/-- The states are the only ascending list of the initial state and the ends of the
transitions. -/
theorem statesOf_eq
    {initial : Int}
    {transitions : List Transition}
    {states : List Int}
    (ascending : states.Pairwise (· < ·))
    (mem_iff : ∀ state,
      state ∈ states ↔
        state = initial ∨
          ∃ transition ∈ transitions, state = transition.source ∨ state = transition.target) :
    statesOf initial transitions = states := by
  refine (pairwise_lt_statesOf initial transitions).eq_of_mem_iff ascending ?_
  intro state
  rw [mem_statesOf_iff, mem_iff]

/-- The machine of an integer variable with its initial value: its transitions are what the
guards spell, and its states in ascending order are the ends of the transitions and the
initial state, each with its name. -/
structure IsMachineOf
    (outline : Outline)
    (names : Table Int Text)
    (declared : Variable)
    (machine : StateMachine) : Prop where
  variableName : machine.variableName = declared.name
  initial : declared.initial = .integer machine.initial
  transitions :
    AllResults (Spells outline declared.name) (Outline.guards outline.lines) machine.transitions
  atLeastTwo : 2 ≤ machine.transitions.length
  ascending : (machine.states.map Prod.fst).Pairwise (· < ·)
  isState_iff : ∀ state,
    state ∈ machine.states.map Prod.fst ↔
      state = machine.initial ∨
        ∃ transition ∈ machine.transitions,
          state = transition.source ∨ state = transition.target
  named : ∀ entry ∈ machine.states,
    stateName outline names declared.name entry.1 = .ok entry.2

/-- Naming a state gives it with its name. -/
theorem namedState_eq_ok_iff
    {outline : Outline}
    {names : Table Int Text}
    {name : Text}
    {state : Int}
    {entry : Int × Text} :
    namedState outline names name state = .ok entry ↔
      entry.1 = state ∧ stateName outline names name state = .ok entry.2 := by
  unfold namedState
  cases stateName outline names name state with
  | error fault =>
      simp [bind, Except.bind]
  | ok text =>
      simp only [bind, Except.bind, pure, Except.pure, Except.ok.injEq, Prod.ext_iff]
      constructor
      · rintro ⟨rfl, rfl⟩
        exact ⟨rfl, rfl⟩
      · rintro ⟨rfl, rfl⟩
        exact ⟨rfl, rfl⟩

/-- Naming some states gives these states, in their order, each with its name. -/
theorem mapM_namedState_eq_ok_iff
    {outline : Outline}
    {names : Table Int Text}
    {name : Text}
    {states : List Int}
    {entries : List (Int × Text)} :
    states.mapM (namedState outline names name) = .ok entries ↔
      entries.map Prod.fst = states ∧
        ∀ entry ∈ entries, stateName outline names name entry.1 = .ok entry.2 := by
  induction states generalizing entries with
  | nil =>
      constructor
      · rintro ⟨⟩
        simp
      · rintro ⟨areStates, _⟩
        rw [List.map_eq_nil_iff.mp areStates]
        rfl
  | cons state rest inductionHypothesis =>
      rw [Outcome.mapM_cons_eq_ok_iff]
      constructor
      · rintro ⟨first, others, isFirst, areOthers, rfl⟩
        obtain ⟨rfl, isNamed⟩ := namedState_eq_ok_iff.mp isFirst
        obtain ⟨rfl, areNamed⟩ := inductionHypothesis.mp areOthers
        exact ⟨rfl, List.forall_mem_cons.mpr ⟨isNamed, areNamed⟩⟩
      · rintro ⟨areStates, areNamed⟩
        obtain ⟨first, others, rfl, rfl, areOthers⟩ := List.map_eq_cons_iff.mp areStates
        obtain ⟨isNamed, othersNamed⟩ := List.forall_mem_cons.mp areNamed
        exact ⟨first, others, namedState_eq_ok_iff.mpr ⟨rfl, isNamed⟩,
          inductionHypothesis.mpr ⟨areOthers, othersNamed⟩, rfl⟩

/-- A variable with enough transitions has the machine that is built for it, and no other. -/
theorem isMachineOf_iff_of_ofVariable?
    {outline : Outline}
    {names : Table Int Text}
    {declared : Variable}
    {initial : Int}
    (starts : declared.initial = .integer initial)
    {found : Option StateMachine}
    (returns : ofVariable? outline names declared.name initial = .ok found)
    (machine : StateMachine) :
    IsMachineOf outline names declared machine ↔ found = some machine := by
  obtain ⟨transitions, areTransitions, goesOn⟩ := Outcome.exists_of_bind returns
  have transitions_iff := allResults_spells_iff areTransitions
  split at goesOn
  case isTrue tooFew =>
    cases goesOn
    simp only [reduceCtorEq, iff_false]
    intro isMachine
    have sameTransitions := (transitions_iff _).mp isMachine.transitions
    have enough := isMachine.atLeastTwo
    rw [sameTransitions] at enough
    omega
  case isFalse enough =>
    obtain ⟨states, areStates, isFound⟩ := Outcome.exists_of_bind goesOn
    cases isFound
    constructor
    · intro isMachine
      have sameTransitions := (transitions_iff _).mp isMachine.transitions
      have sameInitial : initial = machine.initial :=
        InitialValue.integer.inj (starts.symm.trans isMachine.initial)
      have sameKeys : machine.states.map Prod.fst = statesOf initial transitions := by
        rw [sameInitial, ← sameTransitions]
        exact (statesOf_eq isMachine.ascending isMachine.isState_iff).symm
      have sameStates : states = machine.states :=
        Except.ok.inj (areStates.symm.trans
          (mapM_namedState_eq_ok_iff.mpr ⟨sameKeys, isMachine.named⟩))
      rw [sameStates, sameInitial, ← sameTransitions, ← isMachine.variableName]
    · rintro ⟨⟩
      obtain ⟨areKeys, named⟩ := mapM_namedState_eq_ok_iff.mp areStates
      refine ⟨rfl, starts, (transitions_iff _).mpr rfl, Nat.not_lt.mp enough, ?_, ?_, named⟩
      · rw [areKeys]
        exact pairwise_lt_statesOf _ _
      · intro state
        rw [areKeys, mem_statesOf_iff]

/-- The machine that is found for a variable is the one that the script writes. -/
theorem isMachineOf_iff
    {outline : Outline}
    {names : Table Int Text}
    {declared : Variable}
    {found : Option StateMachine}
    (returns : ofDeclared? outline names declared = .ok found)
    (machine : StateMachine) :
    IsMachineOf outline names declared machine ↔ found = some machine := by
  unfold ofDeclared? at returns
  cases starts : declared.initial with
  | integer initial =>
      rw [starts] at returns
      exact isMachineOf_iff_of_ofVariable? starts returns machine
  | _ =>
      rw [starts] at returns
      cases returns
      simp only [reduceCtorEq, iff_false]
      intro isMachine
      cases starts.symm.trans isMachine.initial

/-! ## Gaps -/

section Gaps

variable {outline : Outline} {names : Table Int Text} {declared : Variable}
  {machine : StateMachine} {state : Int}

/-- The unreachable states are the sources that no transition enters. -/
theorem IsMachineOf.mem_unreachableStates_iff
    (isMachine : IsMachineOf outline names declared machine) :
    state ∈ machine.unreachableStates ↔
      (∃ transition ∈ machine.transitions, transition.source = state) ∧
        (∀ transition ∈ machine.transitions, transition.target ≠ state) ∧
        state ≠ machine.initial := by
  simp only [unreachableStates, List.mem_filter, isMachine.isState_iff, Bool.and_eq_true,
    Bool.not_eq_true', List.contains_eq_mem, decide_eq_false_iff_not, List.mem_map, not_exists,
    not_and, bne_iff_ne]
  constructor
  · rintro ⟨isInitial | ⟨transition, member, isSource | isTarget⟩, notEntered, notInitial⟩
    · exact absurd isInitial notInitial
    · exact ⟨⟨transition, member, isSource.symm⟩, notEntered, notInitial⟩
    · exact absurd isTarget.symm (notEntered transition member)
  · rintro ⟨⟨transition, member, isSource⟩, notEntered, notInitial⟩
    exact ⟨.inr ⟨transition, member, .inl isSource.symm⟩, notEntered, notInitial⟩

/-- The dead ends are the targets, and the initial state, that no transition leaves. -/
theorem IsMachineOf.mem_deadEndStates_iff
    (isMachine : IsMachineOf outline names declared machine) :
    state ∈ machine.deadEndStates ↔
      (state = machine.initial ∨ ∃ transition ∈ machine.transitions, transition.target = state) ∧
        (∀ transition ∈ machine.transitions, transition.source ≠ state) ∧
        state ≠ 0 := by
  simp only [deadEndStates, List.mem_filter, isMachine.isState_iff, Bool.and_eq_true,
    Bool.not_eq_true', List.contains_eq_mem, decide_eq_false_iff_not, List.mem_map, not_exists,
    not_and, bne_iff_ne]
  constructor
  · rintro ⟨isInitial | ⟨transition, member, isSource | isTarget⟩, notLeft, notZero⟩
    · exact ⟨.inl isInitial, notLeft, notZero⟩
    · exact absurd isSource.symm (notLeft transition member)
    · exact ⟨.inr ⟨transition, member, isTarget.symm⟩, notLeft, notZero⟩
  · rintro ⟨isInitial | ⟨transition, member, isTarget⟩, notLeft, notZero⟩
    · exact ⟨.inl isInitial, notLeft, notZero⟩
    · exact ⟨.inr ⟨transition, member, .inr isTarget.symm⟩, notLeft, notZero⟩

/-- Both ends of a transition, and the initial state, have a name in the machine. -/
theorem IsMachineOf.find?_states
    (isMachine : IsMachineOf outline names declared machine)
    (isEnd :
      state = machine.initial ∨
        ∃ transition ∈ machine.transitions,
          state = transition.source ∨ state = transition.target) :
    Table.find? machine.states state = some (machine.nameOf state) := by
  have isState : state ∈ Table.keys machine.states :=
    (isMachine.isState_iff state).mpr isEnd
  have known : (Table.find? machine.states state).isSome = true :=
    (Table.has_eq_true_iff machine.states state).mpr isState
  obtain ⟨text, found⟩ := Option.isSome_iff_exists.mp known
  rw [nameOf, found, Option.getD_some]

end Gaps

/-- The machines of a script are reconstructed exactly.  Where the search returns, it gives
one machine for each integer variable that starts with an integer and for which the guards
spell at least two transitions, in the order of the variables, and these machines only.
The unreachable states and the dead ends of a machine can be read off its transitions, and
all of them have names in it. -/
theorem find_reconstructs
    {script : Text}
    {names : Table Int Text}
    {machines : List StateMachine}
    (returns : find (Outline.ofScript script) names = .ok machines) :
    (∀ others,
      AllResults (IsMachineOf (Outline.ofScript script) names)
          ((Outline.ofScript script).variablesOfType .int) others ↔
        others = machines) ∧
      ∀ machine ∈ machines, ∀ state,
        (state ∈ machine.unreachableStates ↔
          (∃ transition ∈ machine.transitions, transition.source = state) ∧
            (∀ transition ∈ machine.transitions, transition.target ≠ state) ∧
            state ≠ machine.initial) ∧
        (state ∈ machine.deadEndStates ↔
          (state = machine.initial ∨
              ∃ transition ∈ machine.transitions, transition.target = state) ∧
            (∀ transition ∈ machine.transitions, transition.source ≠ state) ∧
            state ≠ 0) ∧
        (state ∈ machine.unreachableStates ∨ state ∈ machine.deadEndStates →
          Table.find? machine.states state = some (machine.nameOf state)) := by
  obtain ⟨found, isFound, areMachines⟩ := Outcome.exists_of_bind returns
  cases areMachines
  have allMachines := allResults_iff_of_mapM (fun _ _ => isMachineOf_iff) isFound
  refine ⟨allMachines, ?_⟩
  intro machine member state
  obtain ⟨declared, _, isMachine⟩ := ((allMachines _).mpr rfl).exists_of_mem member
  refine ⟨isMachine.mem_unreachableStates_iff, isMachine.mem_deadEndStates_iff, ?_⟩
  intro isGap
  apply isMachine.find?_states
  rcases isGap with unreachable | deadEnd
  · obtain ⟨⟨transition, isTransition, isSource⟩, _⟩ :=
      isMachine.mem_unreachableStates_iff.mp unreachable
    exact .inr ⟨transition, isTransition, .inl isSource.symm⟩
  · obtain ⟨isEnd, _⟩ := isMachine.mem_deadEndStates_iff.mp deadEnd
    refine isEnd.imp_right ?_
    rintro ⟨transition, isTransition, isTarget⟩
    exact ⟨transition, isTransition, .inr isTarget.symm⟩

/-- A script with one integer variable has the machine that is made of its transitions and
its named states. -/
theorem find_eq_singleton
    {outline : Outline}
    {names : Table Int Text}
    {machine : StateMachine}
    {states : List Int}
    (areStates : statesOf machine.initial machine.transitions = states)
    (enough : 2 ≤ machine.transitions.length)
    (isMade :
      (outline.variablesOfType .int).map (fun declared =>
          (declared.name, declared.initial.integer?)) =
        [(machine.variableName, some machine.initial)] ∧
      transitionsOf outline machine.variableName = .ok machine.transitions ∧
      states.mapM (namedState outline names machine.variableName) = .ok machine.states) :
    find outline names = .ok [machine] := by
  obtain ⟨declares, areTransitions, areNamed⟩ := isMade
  have ofName :
      ofVariable? outline names machine.variableName machine.initial = .ok (some machine) := by
    rw [ofVariable?, areTransitions]
    change (if machine.transitions.length < 2 then _ else _) = _
    rw [if_neg (Nat.not_lt.mpr enough), areStates, areNamed]
    rfl
  obtain ⟨declared, isDeclared, described⟩ := List.map_eq_singleton_iff.mp declares
  obtain ⟨isName, isInitial⟩ := Prod.mk.inj described
  rw [find, isDeclared, List.mapM_cons, ofDeclared?]
  simp only [isInitial, isName, ofName]
  rfl

/-- A script whose first guard asks for a literal only in its second comparison, whose second
trigger is no guard, and whose first event has two blocks. -/
def gateScript : Text :=
  "int Gate = 5\nwhen(Gate==Key and Gate==0)[Open]\nif(Gate==7)[Open]\nwhen(Gate==1)[Close]\n"
    ++ "Open::\nGate:Key;\nGate:1;\nGate:9;\nClose::\nGate:-2;\nOpen::\nGate:8;"

/-- The machine of the script.  No state has a comment or a usual name. -/
def gateMachine : StateMachine where
  variableName := "Gate"
  states := [(-2, "STATE_-2"), (0, "STATE_0"), (1, "STATE_1"), (5, "STATE_5")]
  transitions := [⟨0, 1, "Open", 7⟩, ⟨1, -2, "Close", 10⟩]
  initial := 5

/-- The script has one machine, whose initial state is a dead end with a name. -/
theorem find_gateScript :
    find (.ofScript gateScript) [] = .ok [gateMachine] ∧
      AllResults (IsMachineOf (.ofScript gateScript) [])
        ((Outline.ofScript gateScript).variablesOfType .int) [gateMachine] ∧
      0 ∈ gateMachine.unreachableStates ∧
      5 ∈ gateMachine.deadEndStates ∧
      Table.find? gateMachine.states 5 = some (gateMachine.nameOf 5) := by
  have states : statesOf gateMachine.initial gateMachine.transitions = [-2, 0, 1, 5] := by
    apply statesOf_eq (by decide)
    intro state
    simp only [gateMachine, List.mem_cons, List.not_mem_nil, or_false, exists_eq_or_imp,
      ↓existsAndEq, true_and]
    omega
  have returns : find (.ofScript gateScript) [] = .ok [gateMachine] :=
    find_eq_singleton states (by decide) (by decide +kernel)
  obtain ⟨allMachines, gaps⟩ := find_reconstructs returns
  have isDeadEnd : 5 ∈ gateMachine.deadEndStates := by
    decide
  obtain ⟨unreachable_iff, _⟩ := gaps gateMachine List.mem_cons_self 0
  obtain ⟨_, _, hasName⟩ := gaps gateMachine List.mem_cons_self 5
  exact ⟨returns, (allMachines _).mpr rfl, unreachable_iff.mpr (by decide), isDeadEnd,
    hasName (.inr isDeadEnd)⟩

end StateMachine

end MissionLint
