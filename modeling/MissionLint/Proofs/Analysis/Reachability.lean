import Mathlib.Logic.Relation
import Mathlib.Data.List.Chain
import MissionLint.Proofs.Analysis.Reconstruction

namespace MissionLint

/-!
# Reachable states

The unreachable states that a machine reports are those that no transition enters.  Every
run of the machine misses them.  The converse fails, but only in one way: going back from
an unreachable state along the transitions either comes to a reported one or, as there are
finitely many states, to a state that it has already passed.
-/

namespace StateMachine

/-- A state of a machine. -/
def IsState (machine : StateMachine) (state : Int) : Prop :=
  state ∈ machine.states.map Prod.fst

/-- Some transition leads from one state to another. -/
def Steps (machine : StateMachine) (source target : Int) : Prop :=
  ∃ transition ∈ machine.transitions, transition.source = source ∧ transition.target = target

/-- Some sequence of transitions leads from the initial state to a state. -/
def Reachable (machine : StateMachine) : Int → Prop :=
  Relation.ReflTransGen machine.Steps machine.initial

/-- The initial state and both ends of every transition are states. -/
structure Closed (machine : StateMachine) : Prop where
  initial : machine.IsState machine.initial
  source : ∀ transition ∈ machine.transitions, machine.IsState transition.source
  target : ∀ transition ∈ machine.transitions, machine.IsState transition.target

/-- Different states, none of them reachable, of which each leads to the next and the last
one to the first. -/
def HasUnreachedCycle (machine : StateMachine) : Prop :=
  ∃ first others,
    (first :: others).Nodup ∧
      (first :: others ++ [first]).IsChain machine.Steps ∧
      ∀ state ∈ first :: others, ¬machine.Reachable state

/-! ## Reported states are not reachable -/

/-- The states that are reported as unreachable have no transition into them and are not initial. -/
theorem mem_unreachableStates_iff
    {machine : StateMachine}
    {state : Int} :
    state ∈ machine.unreachableStates ↔
      machine.IsState state ∧ (∀ source, ¬machine.Steps source state) ∧
        state ≠ machine.initial := by
  simp only [unreachableStates, IsState, Steps, List.mem_filter, Bool.and_eq_true,
    Bool.not_eq_true', List.contains_eq_mem, decide_eq_false_iff_not, List.mem_map, bne_iff_ne]
  grind

/-- A run ends in the initial state or in a state that its last transition enters. -/
theorem not_reachable_of_mem_unreachableStates
    {machine : StateMachine}
    {state : Int}
    (reported : state ∈ machine.unreachableStates) :
    ¬machine.Reachable state := by
  obtain ⟨_, notEntered, notInitial⟩ := mem_unreachableStates_iff.mp reported
  intro reachable
  cases reachable with
  | refl =>
      exact notInitial rfl
  | tail _ enters =>
      exact notEntered _ enters

/-! ## Going back -/

/-- Before an unreachable state that is not reported there is another unreachable state. -/
theorem Closed.exists_steps_of_not_reachable
    {machine : StateMachine}
    (closed : machine.Closed)
    (nothing : machine.unreachableStates = [])
    {state : Int}
    (isState : machine.IsState state)
    (unreached : ¬machine.Reachable state) :
    ∃ before, machine.Steps before state ∧ machine.IsState before ∧
      ¬machine.Reachable before := by
  have notInitial : state ≠ machine.initial := by
    rintro rfl
    exact unreached .refl
  have notReported : state ∉ machine.unreachableStates := by
    simp [nothing]
  have isEntered : ∃ before, machine.Steps before state := by
    by_contra notEntered
    exact notReported
      (mem_unreachableStates_iff.mpr ⟨isState, not_exists.mp notEntered, notInitial⟩)
  obtain ⟨before, transition, member, rfl, isTarget⟩ := isEntered
  refine ⟨_, ⟨transition, member, rfl, isTarget⟩, closed.source transition member, ?_⟩
  intro reachable
  exact unreached (reachable.tail ⟨transition, member, rfl, isTarget⟩)

/-- A walk back that comes to a state which it has passed goes round a cycle. -/
theorem hasUnreachedCycle_of_mem
    {machine : StateMachine}
    {before : Int}
    {walk : List Int}
    (distinct : walk.Nodup)
    (linked : (before :: walk).IsChain machine.Steps)
    (unreached : ∀ state ∈ walk, ¬machine.Reachable state)
    (passed : before ∈ walk) :
    machine.HasUnreachedCycle := by
  obtain ⟨others, after, rfl, notBefore⟩ := List.eq_append_cons_of_mem passed
  refine ⟨before, others, ?_, linked.prefix ⟨after, by simp⟩, ?_⟩
  · exact List.nodup_cons.mpr ⟨notBefore, distinct.sublist (List.sublist_append_left _ _)⟩
  · intro state member
    apply unreached
    rcases List.mem_cons.mp member with rfl | isOther
    · exact passed
    · exact List.mem_append_left _ isOther

/-- A walk back over different unreachable states goes on until it comes to one that it has
passed, which happens at the latest when it has gone over all states. -/
theorem Closed.hasUnreachedCycle_of_walk
    {machine : StateMachine}
    (closed : machine.Closed)
    (nothing : machine.unreachableStates = [])
    (first : Int)
    (walk : List Int)
    (distinct : (first :: walk).Nodup)
    (linked : (first :: walk).IsChain machine.Steps)
    (areStates : ∀ state ∈ first :: walk, machine.IsState state)
    (unreached : ∀ state ∈ first :: walk, ¬machine.Reachable state) :
    machine.HasUnreachedCycle := by
  obtain ⟨before, enters, isState, notReached⟩ :=
    closed.exists_steps_of_not_reachable nothing (areStates first List.mem_cons_self)
      (unreached first List.mem_cons_self)
  have longer : (before :: first :: walk).IsChain machine.Steps :=
    List.isChain_cons_cons.mpr ⟨enters, linked⟩
  by_cases passed : before ∈ first :: walk
  · exact hasUnreachedCycle_of_mem distinct longer unreached passed
  · have shorter : (first :: walk).length < machine.states.length := by
      have fits : (before :: first :: walk).length ≤ (machine.states.map Prod.fst).length :=
        (List.subperm_of_subset (List.nodup_cons.mpr ⟨passed, distinct⟩)
          (List.forall_mem_cons.mpr ⟨isState, areStates⟩)).length_le
      simpa using fits
    exact closed.hasUnreachedCycle_of_walk nothing before (first :: walk)
      (List.nodup_cons.mpr ⟨passed, distinct⟩) longer
      (List.forall_mem_cons.mpr ⟨isState, areStates⟩)
      (List.forall_mem_cons.mpr ⟨notReached, unreached⟩)
termination_by machine.states.length - walk.length
decreasing_by
  simp only [List.length_cons] at shorter ⊢
  omega

/-! ## Machines of a script -/

/-- The machines of a script have all the states that their transitions need. -/
theorem closed_of_mem_find
    {outline : Outline}
    {names : Table Int Text}
    {machines : List StateMachine}
    (returns : find outline names = .ok machines)
    {machine : StateMachine}
    (member : machine ∈ machines) :
    machine.Closed := by
  obtain ⟨found, isFound, areMachines⟩ := Outcome.exists_of_bind returns
  cases areMachines
  have allMachines := allResults_iff_of_mapM (fun _ _ => isMachineOf_iff) isFound
  obtain ⟨declared, _, isMachine⟩ := ((allMachines _).mpr rfl).exists_of_mem member
  exact {
    initial := (isMachine.isState_iff _).mpr (.inl rfl)
    source := fun transition isTransition =>
      (isMachine.isState_iff _).mpr (.inr ⟨transition, isTransition, .inl rfl⟩)
    target := fun transition isTransition =>
      (isMachine.isState_iff _).mpr (.inr ⟨transition, isTransition, .inr rfl⟩)
  }

/-- In a machine with all the states that its transitions need, no reported state is
reachable; and when some state is not reachable, then a state is reported or there is a
cycle of unreachable states.  All machines of a script are such machines. -/
theorem unreachableStates_exact_up_to_cycles :
    (∀ machine : StateMachine, machine.Closed →
      (∀ state ∈ machine.unreachableStates, ¬machine.Reachable state) ∧
        ((∃ state, machine.IsState state ∧ ¬machine.Reachable state) →
          machine.unreachableStates ≠ [] ∨ machine.HasUnreachedCycle)) ∧
      ∀ script names machines,
        find (Outline.ofScript script) names = .ok machines →
        ∀ machine ∈ machines, machine.Closed := by
  refine ⟨fun machine closed => ⟨fun _ => not_reachable_of_mem_unreachableStates, ?_⟩,
    fun _ _ _ returns _ => closed_of_mem_find returns⟩
  rintro ⟨state, isState, unreached⟩
  by_cases nothing : machine.unreachableStates = []
  · right
    exact closed.hasUnreachedCycle_of_walk nothing state [] (List.nodup_singleton state)
      (List.isChain_singleton state) (by simpa using isState) (by simpa using unreached)
  · exact .inl nothing

/-- A script whose variable starts in a state that no guard waits for. -/
def doorScript : Text :=
  "int Door = 0\nwhen(Door==1)[Open]\nwhen(Door==2)[Close]\nOpen::\nDoor:2;\nClose::\nDoor:1;"

/-- The machine of the script, which goes round between two states. -/
def doorMachine : StateMachine where
  variableName := "Door"
  states := [(0, "STATE_0"), (1, "STATE_1"), (2, "STATE_2")]
  transitions := [⟨1, 2, "Open", 5⟩, ⟨2, 1, "Close", 7⟩]
  initial := 0

/-- The machine of the script reports no state, and so its unreachable states go round. -/
theorem unreachableStates_exact_up_to_cycles_door :
    find (.ofScript doorScript) [] = .ok [doorMachine] ∧
      doorMachine.IsState 1 ∧ ¬doorMachine.Reachable 1 ∧
      doorMachine.unreachableStates = [] ∧
      doorMachine.HasUnreachedCycle := by
  have states : statesOf doorMachine.initial doorMachine.transitions = [0, 1, 2] := by
    apply statesOf_eq (by decide)
    intro state
    simp only [doorMachine, List.mem_cons, List.not_mem_nil, or_false, exists_eq_or_imp,
      ↓existsAndEq, true_and]
    omega
  have returns : find (.ofScript doorScript) [] = .ok [doorMachine] :=
    find_eq_singleton states (by decide) (by decide +kernel)
  have unreached : ¬doorMachine.Reachable 1 := by
    intro reachable
    obtain isInitial | ⟨next, steps, _⟩ := Relation.ReflTransGen.cases_head reachable
    · cases isInitial
    · simp [Steps, doorMachine] at steps
  have isState : doorMachine.IsState 1 := by
    simp [IsState, doorMachine]
  have nothing : doorMachine.unreachableStates = [] := by
    decide
  obtain ⟨exactUpToCycles, areClosed⟩ := unreachableStates_exact_up_to_cycles
  have closed := areClosed doorScript [] _ returns doorMachine List.mem_cons_self
  have reported := (exactUpToCycles doorMachine closed).2 ⟨1, isState, unreached⟩
  exact ⟨returns, isState, unreached, nothing, reported.resolve_left (absurd nothing)⟩

end StateMachine

end MissionLint
