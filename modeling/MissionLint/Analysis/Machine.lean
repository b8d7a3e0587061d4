import MissionLint.Table
import MissionLint.Script.Outline
import MissionLint.Script.Condition
import MissionLint.Text.Uppercase

namespace MissionLint

/-!
# State machines

A guard `when(State==0)[Open]` together with the first literal that the block of
`Open` assigns to `State` is a transition.  An integer variable with at least two
transitions is a state machine.  States are named by a comment on, or directly
above, the first line that assigns them, else by a table, else by their value.
-/

/-- A step of a machine: the event that takes it, and the line of the assignment. -/
structure Transition where
  source : Int
  target : Int
  trigger : Text
  line : Nat
  deriving Repr, DecidableEq

/-- A state machine.  Its states have their names and are in ascending order. -/
structure StateMachine where
  variableName : Text
  states : List (Int × Text)
  transitions : List Transition
  initial : Int
  deriving Repr, DecidableEq

namespace StateMachine

/-- The first integer among texts, with what belongs to it.  Texts after it are
not looked at. -/
def firstInteger? : List (Text × Tag) → Except NumeralFault (Option (Int × Tag))
  | [] => .ok none
  | (text, tag) :: rest => do
      match ← IntegerLiteral.ofText? text with
      | some value => return some (value, tag)
      | none => firstInteger? rest

/-- The values that a block assigns to a variable, as written, with their lines. -/
def assignedIn (event : Event) (name : Text) : List (Text × Nat) :=
  event.commands.flatMap fun line =>
    (Assignment.inCode line.code).filterMap fun assignment =>
      if assignment.name == name then some (assignment.value, line.number) else none

/-- The state in which the first block of an event leaves a variable, with the
line of the assignment. -/
def stateAfter?
    (outline : Outline)
    (event name : Text) :
    Except NumeralFault (Option (Int × Nat)) :=
  match outline.firstEvent? event with
  | none => .ok none
  | some block => firstInteger? (assignedIn block name)

/-- The state for which a guard waits. -/
def stateBefore? (guard : Trigger) (name : Text) : Except NumeralFault (Option (Int × Unit)) :=
  firstInteger? ((Condition.ofText guard.condition).comparisons.filterMap fun comparison =>
    if comparison.operator == .equal then
      (comparison.opposite? name).map fun other => (other, ())
    else
      none)

/-- The transition that a guard gives a variable. -/
def transitionOf?
    (outline : Outline)
    (name : Text)
    (guard : Trigger) :
    Except NumeralFault (Option Transition) := do
  match ← stateBefore? guard name with
  | none => return none
  | some (source, ()) =>
      match ← stateAfter? outline guard.target name with
      | none => return none
      | some (target, line) => return some ⟨source, target, guard.target, line⟩

/-- The transitions of a variable in text order. -/
def transitionsOf (outline : Outline) (name : Text) : Except NumeralFault (List Transition) := do
  let found ← (Outline.guards outline.lines).mapM (transitionOf? outline name)
  return found.filterMap id

/-- Whether one of some values, as written, is a state.  Values after it are not
looked at. -/
def anyIsState (state : Int) : List Text → Except NumeralFault Bool
  | [] => .ok false
  | value :: rest => do
      if (← IntegerLiteral.ofText? value) == some state then
        return true
      else
        anyIsState state rest

/-- The comment of the first line that assigns a state to a variable; when it has
none, the comment of the line above it. -/
def commentOf?
    (name : Text)
    (state : Int)
    (above : Option Text) :
    List Line → Except NumeralFault (Option Text)
  | [] => .ok none
  | line :: rest => do
      let values := (Assignment.inCode line.code).filterMap fun assignment =>
        if assignment.name == name then some assignment.value else none
      if ← anyIsState state values then
        match line.comment with
        | none => return above
        | some [] => return above
        | some comment => return some comment
      else
        commentOf? name state line.comment rest

/-- A comment as a name: its words in upper case with underscores between them. -/
def nameOfComment (comment : Text) : Text :=
  Text.join "_" (Text.words (Text.uppercase comment))

/-- The name of a state: what a comment gives, or else that of the table, or else its number. -/
def stateName
    (outline : Outline)
    (names : Table Int Text)
    (name : Text)
    (state : Int) :
    Except NumeralFault Text := do
  let usual := (names.find? state).getD ("STATE_" ++ Text.ofInt state)
  match ← commentOf? name state none outline.lines with
  | none => return usual
  | some [] => return usual
  | some comment => return nameOfComment comment

/-- A state with its name. -/
def namedState
    (outline : Outline)
    (names : Table Int Text)
    (name : Text)
    (state : Int) :
    Except NumeralFault (Int × Text) := do
  return (state, ← stateName outline names name state)

/-- The states of a machine in ascending order. -/
def statesOf (initial : Int) (transitions : List Transition) : List Int :=
  let endpoints := transitions.flatMap fun transition => [transition.source, transition.target]
  (initial :: endpoints).eraseDups.mergeSort

/-- The machine of an integer variable. -/
def ofVariable?
    (outline : Outline)
    (names : Table Int Text)
    (name : Text)
    (initial : Int) :
    Except NumeralFault (Option StateMachine) := do
  let transitions ← transitionsOf outline name
  if transitions.length < 2 then
    return none
  else
    let states ← (statesOf initial transitions).mapM (namedState outline names name)
    return some ⟨name, states, transitions, initial⟩

/-- The machine of a declared variable, which has to start with an integer. -/
def ofDeclared?
    (outline : Outline)
    (names : Table Int Text)
    (declared : Variable) :
    Except NumeralFault (Option StateMachine) :=
  match declared.initial.integer? with
  | none => .ok none
  | some initial => ofVariable? outline names declared.name initial

/-- The machines of a script, in the order of their variables. -/
def find
    (outline : Outline)
    (names : Table Int Text) :
    Except NumeralFault (List StateMachine) := do
  let found ← (outline.variablesOfType .int).mapM (ofDeclared? outline names)
  return found.filterMap id

/-- The states that no transition enters, other than the initial one. -/
def unreachableStates (machine : StateMachine) : List Int :=
  (machine.states.map Prod.fst).filter fun state =>
    !(machine.transitions.map Transition.target).contains state && state != machine.initial

/-- The states that no transition leaves.  State zero counts as final. -/
def deadEndStates (machine : StateMachine) : List Int :=
  (machine.states.map Prod.fst).filter fun state =>
    !(machine.transitions.map Transition.source).contains state && state != 0

/-- The name that a machine gives a state. -/
def nameOf (machine : StateMachine) (state : Int) : Text :=
  (Table.find? machine.states state).getD []

end StateMachine

end MissionLint
