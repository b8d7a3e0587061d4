import MissionLint.Proofs.Checker.Standard
import MissionLint.Proofs.Analysis.StateName

namespace MissionLint

/-!
# What is reported about machines

The checker of state machines reports that a machine was found, and the states that no
transition enters or leaves.  The names of states are in messages only, so when states
get other names the same is reported with other messages.
-/

/-- Filtering the diagnostics of topics leaves those of the topics that are not suppressed. -/
theorem Suppressions.filter_map
    (suppressions : Suppressions)
    (diagnostic : Topic → Diagnostic)
    (topics : List Topic) :
    suppressions.filter (topics.map diagnostic) =
      (topics.filter fun topic =>
        !suppressions.suppresses (diagnostic topic).id (diagnostic topic).location.line).map
        diagnostic :=
  List.filter_map

namespace Diagnostic

/-- Whether messages of an id name a state. -/
def namesState (id : Text) : Bool :=
  id == "unreachableState" || id == "deadEndState"

/-- A diagnostic without the message when it names a state. -/
def unnamed (diagnostic : Diagnostic) : Diagnostic :=
  if namesState diagnostic.id then { diagnostic with message := [] } else diagnostic

/-- Another message makes no difference when the message names a state. -/
theorem unnamed_with_message
    {diagnostic : Diagnostic}
    (isNamed : namesState diagnostic.id = true)
    (message : Text) :
    { diagnostic with message := message }.unnamed = diagnostic.unnamed := by
  rw [unnamed, unnamed, if_pos isNamed, if_pos isNamed]

end Diagnostic

namespace StateMachine

/-- The states about which something is reported that is not suppressed, for a machine
whose variable is declared on a line. -/
def reportedStates
    (suppressions : Suppressions)
    (line : Nat)
    (machine : StateMachine) :
    List Int :=
  (machine.unreachableStates.filter fun _ => !suppressions.suppresses "unreachableState" line) ++
    machine.deadEndStates.filter fun _ => !suppressions.suppresses "deadEndState" line

end StateMachine

/-- What a finding about a machine is about. -/
inductive MachineTopic where
  | detected
  | unreachable (state : Int)
  | deadEnd (state : Int)

namespace MachineTopic

/-- The topics of a machine in the order of its findings. -/
def ofMachine (machine : StateMachine) : List MachineTopic :=
  .detected :: (machine.unreachableStates.map .unreachable ++ machine.deadEndStates.map .deadEnd)

/-- The state that a finding names. -/
def state? : MachineTopic → Option Int
  | .detected => none
  | .unreachable state => some state
  | .deadEnd state => some state

/-- What is found about a machine for a topic. -/
def finding (line : Nat) (machine : StateMachine) : MachineTopic → Finding
  | .detected => Checker.machineFinding line machine
  | .unreachable state => Checker.unreachableFinding line machine state
  | .deadEnd state => Checker.deadEndFinding line machine state

/-- The topics of a machine are what is found about it, in the same order. -/
theorem map_finding
    (line : Nat)
    (machine : StateMachine) :
    (ofMachine machine).map (finding line machine) = Checker.machineFindings line machine := by
  simp [ofMachine, Checker.machineFindings, finding, Function.comp_def]

/-- The state of a topic is a state of its machine. -/
theorem mem_states_of_mem
    {machine : StateMachine}
    {topic : MachineTopic}
    (member : topic ∈ ofMachine machine)
    {state : Int}
    (isState : topic.state? = some state) :
    state ∈ machine.states.map Prod.fst := by
  rcases List.mem_cons.mp member with rfl | later
  · cases isState
  · rcases List.mem_append.mp later with isUnreachable | isDeadEnd
    · obtain ⟨other, isOther, rfl⟩ := List.mem_map.mp isUnreachable
      cases isState
      exact (List.mem_filter.mp isOther).1
    · obtain ⟨other, isOther, rfl⟩ := List.mem_map.mp isDeadEnd
      cases isState
      exact (List.mem_filter.mp isOther).1

section Relabelled

variable {lines : List Line} {number : Nat} {comment : Text}

/-- A relabelled machine has the same topics. -/
theorem ofMachine_relabelled
    (machine : StateMachine) :
    ofMachine (machine.relabelled lines number comment) = ofMachine machine := by
  rw [ofMachine, StateMachine.unreachableStates_relabelled, StateMachine.deadEndStates_relabelled]
  rfl

/-- What is found about a machine as a whole does not name its states. -/
theorem machineFinding_relabelled
    (line : Nat)
    (machine : StateMachine) :
    Checker.machineFinding line (machine.relabelled lines number comment) =
      Checker.machineFinding line machine := by
  have sameCount :
      (machine.relabelled lines number comment).states.length = machine.states.length :=
    List.length_map _
  rw [Checker.machineFinding, sameCount]
  rfl

/-- A message about a state tells its name. -/
theorem message_stateFinding_iff
    {machine : StateMachine}
    {state : Int}
    (isState : state ∈ machine.states.map Prod.fst)
    (id remark : Text)
    (line : Nat) :
    (Checker.stateFinding id remark line (machine.relabelled lines number comment) state).message =
        (Checker.stateFinding id remark line machine state).message ↔
      (StateMachine.takesComment lines number machine.variableName state = true →
        machine.nameOf state = StateMachine.nameOfComment comment) := by
  have sameVariable :
      (machine.relabelled lines number comment).variableName = machine.variableName :=
    rfl
  simp only [Checker.stateFinding, sameVariable, List.append_cancel_right_eq,
    List.append_cancel_left_eq]
  rw [StateMachine.nameOf_relabelled isState]
  cases StateMachine.takesComment lines number machine.variableName state with
  | true =>
      simp [eq_comm]
  | false =>
      simp

/-- A message stays as it is exactly when the comment does not give its state another
name. -/
theorem message_finding_iff
    {machine : StateMachine}
    {topic : MachineTopic}
    (member : topic ∈ ofMachine machine)
    (line : Nat) :
    (topic.finding line (machine.relabelled lines number comment)).message =
        (topic.finding line machine).message ↔
      ∀ state, topic.state? = some state →
        StateMachine.takesComment lines number machine.variableName state = true →
        machine.nameOf state = StateMachine.nameOfComment comment := by
  cases topic with
  | detected =>
      simp [finding, machineFinding_relabelled, state?]
  | unreachable state =>
      refine (message_stateFinding_iff (mem_states_of_mem member rfl) _ _ line).trans ?_
      simp [state?]
  | deadEnd state =>
      refine (message_stateFinding_iff (mem_states_of_mem member rfl) _ _ line).trans ?_
      simp [state?]

end Relabelled

/-- Something is reported about a state when a finding that names it is not
suppressed. -/
theorem mem_reportedStates_iff
    {suppressions : Suppressions}
    {line : Nat}
    {machine : StateMachine}
    {state : Int} :
    state ∈ machine.reportedStates suppressions line ↔
      ∃ topic ∈ ofMachine machine,
        topic.state? = some state ∧
          suppressions.suppresses (topic.finding line machine).id line = false := by
  constructor
  · intro reported
    rcases List.mem_append.mp reported with isUnreachable | isDeadEnd
    · obtain ⟨isState, shown⟩ := List.mem_filter.mp isUnreachable
      refine ⟨.unreachable state, ?_, rfl, (Bool.not_eq_true' _).mp shown⟩
      simpa [ofMachine] using isState
    · obtain ⟨isState, shown⟩ := List.mem_filter.mp isDeadEnd
      refine ⟨.deadEnd state, ?_, rfl, (Bool.not_eq_true' _).mp shown⟩
      simpa [ofMachine] using isState
  · rintro ⟨topic, member, isState, shown⟩
    cases topic with
    | detected =>
        cases isState
    | unreachable other =>
        cases isState
        have isUnreachable : state ∈ machine.unreachableStates := by
          simpa [ofMachine] using member
        exact List.mem_append_left _
          (List.mem_filter.mpr ⟨isUnreachable, (Bool.not_eq_true' _).mpr shown⟩)
    | deadEnd other =>
        cases isState
        have isDeadEnd : state ∈ machine.deadEndStates := by
          simpa [ofMachine] using member
        exact List.mem_append_right _
          (List.mem_filter.mpr ⟨isDeadEnd, (Bool.not_eq_true' _).mpr shown⟩)

/-- The topics of some machines, each with its machine. -/
def ofMachines (machines : List StateMachine) : List (StateMachine × MachineTopic) :=
  machines.flatMap fun machine => (ofMachine machine).map fun topic => (machine, topic)

/-- The diagnostic for a topic of a machine, whose states may get other names. -/
def diagnostic
    (context : Context)
    (rename : StateMachine → StateMachine)
    (topic : StateMachine × MachineTopic) :
    Diagnostic :=
  Checker.stateMachines.toDiagnostic context
    (topic.2.finding (Checker.machineLine context.outline topic.1) (rename topic.1))

/-- Names of states are in messages only. -/
theorem same_but_message
    (context : Context)
    (rename : StateMachine → StateMachine)
    (topic : StateMachine × MachineTopic) :
    diagnostic context rename topic =
      { diagnostic context id topic with
        message := (diagnostic context rename topic).message } := by
  obtain ⟨machine, topic⟩ := topic
  cases topic <;>
    rfl

/-- A diagnostic stays as it is exactly when the comment does not give its state another
name. -/
theorem diagnostic_relabelled_iff
    {lines : List Line}
    {number : Nat}
    {comment : Text}
    {machine : StateMachine}
    {topic : MachineTopic}
    (member : topic ∈ ofMachine machine)
    (context : Context) :
    diagnostic context (StateMachine.relabelled lines number comment) (machine, topic) =
        diagnostic context id (machine, topic) ↔
      ∀ state, topic.state? = some state →
        StateMachine.takesComment lines number machine.variableName state = true →
        machine.nameOf state = StateMachine.nameOfComment comment := by
  rw [← message_finding_iff member (Checker.machineLine context.outline machine)]
  constructor
  · intro sameDiagnostic
    exact congrArg Diagnostic.message sameDiagnostic
  · intro sameMessage
    rw [same_but_message]
    exact congrArg
      (fun message => { diagnostic context id (machine, topic) with message := message })
      sameMessage

/-- The topics of machines are the topics of each. -/
theorem mem_ofMachines_iff
    {machines : List StateMachine}
    {machine : StateMachine}
    {topic : MachineTopic} :
    (machine, topic) ∈ ofMachines machines ↔ machine ∈ machines ∧ topic ∈ ofMachine machine := by
  simp [ofMachines]

/-- Suppressions do not look at messages. -/
theorem suppresses_diagnostic
    (suppressions : Suppressions)
    (context : Context)
    (rename : StateMachine → StateMachine)
    (topic : StateMachine × MachineTopic) :
    suppressions.suppresses (diagnostic context rename topic).id
        (diagnostic context rename topic).location.line =
      suppressions.suppresses
        (topic.2.finding (Checker.machineLine context.outline topic.1) topic.1).id
        (Checker.machineLine context.outline topic.1) := by
  obtain ⟨machine, topic⟩ := topic
  cases topic <;>
    rfl

/-- Relabelling changes no more of a diagnostic than the state that it names. -/
theorem unnamed_diagnostic
    {lines : List Line}
    {number : Nat}
    {comment : Text}
    (context : Context)
    (topic : StateMachine × MachineTopic) :
    (diagnostic context (StateMachine.relabelled lines number comment) topic).unnamed =
      (diagnostic context id topic).unnamed := by
  obtain ⟨machine, topic⟩ := topic
  cases topic with
  | detected =>
      simp only [diagnostic, finding, machineFinding_relabelled, id]
  | unreachable state =>
      have isId : (diagnostic context id (machine, .unreachable state)).id = "unreachableState" :=
        rfl
      rw [same_but_message]
      exact Diagnostic.unnamed_with_message (by simp [isId, Diagnostic.namesState]) _
  | deadEnd state =>
      have isId : (diagnostic context id (machine, .deadEnd state)).id = "deadEndState" :=
        rfl
      rw [same_but_message]
      exact Diagnostic.unnamed_with_message (by simp [isId, Diagnostic.namesState]) _

/-- Relabelled machines have the same topics. -/
theorem ofMachines_relabelled
    {lines : List Line}
    {number : Nat}
    {comment : Text}
    (machines : List StateMachine) :
    ofMachines (machines.map (StateMachine.relabelled lines number comment)) =
      (ofMachines machines).map fun topic =>
        (topic.1.relabelled lines number comment, topic.2) := by
  simp [ofMachines, List.flatMap_map, List.map_flatMap, ofMachine_relabelled, Function.comp_def]

end MachineTopic

namespace Run

/-- The checker of state machines reports its topics. -/
theorem reportOf_stateMachines
    (context : Context)
    (fresh : context.analyses.eventGraph = none)
    {machines : List StateMachine}
    (found : StateMachine.find context.outline context.settings.stateNames = .ok machines) :
    reportOf context .stateMachines =
      context.suppressions.filter
        ((MachineTopic.ofMachines machines).map (MachineTopic.diagnostic context id)) := by
  have findings :
      Checker.stateMachines.assess context =
        .ok (machines.flatMap fun machine =>
          Checker.machineFindings (Checker.machineLine context.outline machine) machine) := by
    rw [Checker.gathers_stateMachines.assess_eq (Context.shares_self fresh), found]
    rfl
  unfold reportOf
  rw [findings]
  refine congrArg context.suppressions.filter ?_
  simp only [MachineTopic.ofMachines, List.map_flatMap, List.map_map,
    ← MachineTopic.map_finding]
  rfl

end Run

end MissionLint
