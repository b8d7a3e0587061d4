import MissionLint.Proofs.Table
import MissionLint.Proofs.Analysis.Bare

namespace MissionLint

/-!
# A comment and the names of states

When a line without a comment gets one, nothing but the names of states can change.  The
comment becomes the name of every state that this line is the first to assign, and of
every state that the next line is the first to assign without a comment of its own.
-/

/-- The same lines, of which one without a comment gets a comment. -/
inductive Line.Commented (number : Nat) (comment : Text) : List Line → List Line → Prop where
  | here
      {plain marked : Line}
      {rest : List Line}
      (isNumber : plain.number = number)
      (uncommented : plain.comment = none)
      (isComment : marked.comment = some comment)
      (sameBare : marked.bare = plain.bare)
      (next : ∀ line, rest.head? = some line → line.number = number + 1)
      (later : ∀ line ∈ rest.tail, number + 1 < line.number) :
      Commented number comment (plain :: rest) (marked :: rest)
  | later
      {lines marked : List Line}
      {line : Line}
      (isEarlier : line.number < number)
      (goesOn : Commented number comment lines marked) :
      Commented number comment (line :: lines) (line :: marked)

namespace Line.Commented

variable {number : Nat} {comment : Text} {lines marked : List Line}

/-- A comment more does not change the bare lines. -/
theorem map_bare
    (commented : Commented number comment lines marked) :
    marked.map Line.bare = lines.map Line.bare := by
  induction commented with
  | here _ _ _ sameBare _ _ =>
      rw [List.map_cons, List.map_cons, sameBare]
  | later _ _ inductionHypothesis =>
      rw [List.map_cons, List.map_cons, inductionHypothesis]

/-- A comment more does not change the bare outline. -/
theorem bare_ofLines
    (commented : Commented number comment lines marked) :
    (Outline.ofLines marked).bare = (Outline.ofLines lines).bare := by
  rw [← Outline.ofLines_map_bare, commented.map_bare, Outline.ofLines_map_bare]

end Line.Commented

namespace StateMachine

/-- Whether a line assigns a state to a variable. -/
def assignsState (name : Text) (state : Int) (line : Line) : Bool :=
  (Assignment.inCode line.code).any fun assignment =>
    assignment.name == name && IntegerLiteral.value? assignment.value == some state

/-- Whether a comment on a line would name a state: the line is the first that assigns
the state, or the next line is and has no comment of its own. -/
def takesComment (lines : List Line) (number : Nat) (name : Text) (state : Int) : Bool :=
  (lines.find? (assignsState name state)).any fun line =>
    line.number == number || (line.number == number + 1 && (line.comment.getD []).isEmpty)

/-- The values that a line assigns to a variable, as written. -/
def assignedOn (name : Text) (line : Line) : List Text :=
  (Assignment.inCode line.code).filterMap fun assignment =>
    if assignment.name == name then some assignment.value else none

/-- Whether a value is a state, when all values can be read. -/
theorem anyIsState_eq
    {state : Int}
    {values : List Text}
    {found : Bool}
    (returns : anyIsState state values = .ok found) :
    found = values.any fun value => IntegerLiteral.value? value == some state := by
  induction values with
  | nil =>
      cases returns
      rfl
  | cons value rest inductionHypothesis =>
      obtain ⟨read, isRead, goesOn⟩ := Outcome.exists_of_bind returns
      have isValue := IntegerLiteral.value?_eq_of_ofText? isRead
      rw [List.any_cons, isValue]
      cases isState : read == some state with
      | true =>
          rw [if_pos isState] at goesOn
          cases goesOn
          rfl
      | false =>
          rw [if_neg (by simp [isState])] at goesOn
          exact inductionHypothesis goesOn

/-- Whether a line assigns a state, when its values can be read. -/
theorem assignsState_eq
    {name : Text}
    {state : Int}
    {line : Line}
    {found : Bool}
    (returns : anyIsState state (assignedOn name line) = .ok found) :
    assignsState name state line = found := by
  rw [anyIsState_eq returns, assignsState, assignedOn, List.any_filterMap]
  congr 1
  funext assignment
  cases assignment.name == name <;>
    rfl

/-- The comment of a line, or else the comment above it. -/
def commentBeside (above : Option Text) (line : Line) : Option Text :=
  match line.comment with
  | none => above
  | some [] => above
  | some comment => some comment

/-- The search for the comment of a state ends at the first line that assigns the state. -/
theorem commentOf?_cons
    (name : Text)
    (state : Int)
    (above : Option Text)
    (line : Line)
    (rest : List Line) :
    commentOf? name state above (line :: rest) =
      (anyIsState state (assignedOn name line)).bind fun found =>
        if found then
          .ok (commentBeside above line)
        else
          commentOf? name state line.comment rest := by
  change Except.bind _ _ = _
  congr 1
  funext found
  unfold commentBeside
  cases found
  · rfl
  · rcases line.comment with _ | ⟨_ | _⟩ <;>
      rfl

section Comment

variable {name : Text} {state : Int} {number : Nat} {comment : Text} {lines : List Line}

/-- The first line that assigns a state takes its own comment, or else the one above it. -/
theorem takesComment_cons
    {line : Line}
    {found : Bool}
    (decided : anyIsState state (assignedOn name line) = .ok found) :
    takesComment (line :: lines) number name state =
      if found then
        line.number == number || (line.number == number + 1 && (line.comment.getD []).isEmpty)
      else
        takesComment lines number name state := by
  unfold takesComment
  rw [List.find?_cons, assignsState_eq decided]
  cases found <;>
    rfl

/-- A comment names no state that is first assigned more than one line below it. -/
theorem takesComment_eq_false
    (later : ∀ line ∈ lines, number + 1 < line.number) :
    takesComment lines number name state = false := by
  unfold takesComment
  cases found : lines.find? (assignsState name state) with
  | none =>
      rfl
  | some line =>
      have beyond := later line (List.mem_of_find?_eq_some found)
      simp
      omega

/-- The comment becomes that of the next line when this has none. -/
theorem commentOf?_above
    (next : ∀ line, lines.head? = some line → line.number = number + 1)
    (later : ∀ line ∈ lines.tail, number + 1 < line.number) :
    commentOf? name state (some comment) lines =
      (commentOf? name state none lines).map fun found =>
        if takesComment lines number name state then some comment else found := by
  cases lines with
  | nil =>
      rfl
  | cons line rest =>
      have isNext := next line rfl
      rw [commentOf?_cons, commentOf?_cons]
      cases decided : anyIsState state (assignedOn name line) with
      | error fault =>
          rfl
      | ok found =>
          rw [takesComment_cons decided]
          cases found with
          | true =>
              rcases own : line.comment with _ | ⟨_ | ⟨c, others⟩⟩ <;>
                simp [commentBeside, own, isNext, Except.bind, Except.map]
          | false =>
              have notTaken : takesComment rest number name state = false :=
                takesComment_eq_false later
              simp only [Except.bind, notTaken]
              cases commentOf? name state line.comment rest <;>
                rfl

/-- The comment is found for a state exactly where it would name it. -/
theorem commentOf?_of_commented
    {marked : List Line}
    (commented : Line.Commented number comment lines marked)
    (nonempty : comment ≠ [])
    (name : Text)
    (state : Int)
    (above : Option Text) :
    commentOf? name state above marked =
      (commentOf? name state above lines).map fun found =>
        if takesComment lines number name state then some comment else found := by
  induction commented generalizing above with
  | @here plain marked rest isNumber uncommented isComment sameBare next later =>
      have sameAssigned : assignedOn name marked = assignedOn name plain := by
        have sameCode := congrArg (fun line => Assignment.inCode line.code) sameBare
        simp only [Line.code_bare, Assignment.inCode_trimmed] at sameCode
        rw [assignedOn, assignedOn, sameCode]
      rw [commentOf?_cons, commentOf?_cons, sameAssigned]
      cases decided : anyIsState state (assignedOn name plain) with
      | error fault =>
          rfl
      | ok found =>
          rw [takesComment_cons decided]
          cases found with
          | true =>
              obtain ⟨c, others, rfl⟩ := List.exists_cons_of_ne_nil nonempty
              simp [commentBeside, isComment, isNumber, Except.bind, Except.map]
          | false =>
              rw [isComment, uncommented]
              exact commentOf?_above next later
  | @later lines marked line isEarlier _ inductionHypothesis =>
      rw [commentOf?_cons, commentOf?_cons]
      cases decided : anyIsState state (assignedOn name line) with
      | error fault =>
          rfl
      | ok found =>
          rw [takesComment_cons decided]
          cases found with
          | true =>
              have notHere : (line.number == number) = false := by
                simpa using Nat.ne_of_lt isEarlier
              have notNext : (line.number == number + 1) = false := by
                simp
                omega
              simp [notHere, notNext, Except.bind, Except.map]
          | false =>
              exact inductionHypothesis line.comment

end Comment

/-- A state of a variable with the comment of a line as its name where it takes that. -/
def relabelledState
    (lines : List Line)
    (number : Nat)
    (comment name : Text)
    (entry : Int × Text) :
    Int × Text :=
  (entry.1,
    if takesComment lines number name entry.1 then nameOfComment comment else entry.2)

/-- A machine whose states take the comment of a line where it names them. -/
def relabelled
    (lines : List Line)
    (number : Nat)
    (comment : Text)
    (machine : StateMachine) :
    StateMachine :=
  { machine with
    states := machine.states.map (relabelledState lines number comment machine.variableName) }

section Relabelled

variable {number : Nat} {comment : Text} {lines marked : List Line}

/-- Relabelling keeps the states of a machine. -/
theorem map_fst_relabelled
    (machine : StateMachine) :
    (relabelled lines number comment machine).states.map Prod.fst =
      machine.states.map Prod.fst := by
  rw [relabelled, List.map_map]
  rfl

/-- Relabelling keeps the unreachable states of a machine. -/
theorem unreachableStates_relabelled
    (machine : StateMachine) :
    (relabelled lines number comment machine).unreachableStates = machine.unreachableStates := by
  rw [unreachableStates, map_fst_relabelled]
  rfl

/-- Relabelling keeps the dead ends of a machine. -/
theorem deadEndStates_relabelled
    (machine : StateMachine) :
    (relabelled lines number comment machine).deadEndStates = machine.deadEndStates := by
  rw [deadEndStates, map_fst_relabelled]
  rfl

/-- A relabelled machine names the states that take the comment after it. -/
theorem nameOf_relabelled
    {machine : StateMachine}
    {state : Int}
    (isState : state ∈ machine.states.map Prod.fst) :
    (relabelled lines number comment machine).nameOf state =
      if takesComment lines number machine.variableName state then
        nameOfComment comment
      else
        machine.nameOf state := by
  have known : Table.has machine.states state = true :=
    (Table.has_eq_true_iff machine.states state).mpr isState
  obtain ⟨given, isGiven⟩ := Option.isSome_iff_exists.mp known
  have isFound : Table.find? machine.states state = some given := isGiven
  have renamed :=
    Table.find?_map machine.states
      (fun other held =>
        if takesComment lines number machine.variableName other then
          nameOfComment comment
        else
          held)
      state
  rw [isFound] at renamed
  rw [nameOf, nameOf, isFound]
  exact congrArg (Option.getD · []) renamed

/-- A comment more names the states that take it and changes no other name. -/
theorem stateName_of_commented
    (commented : Line.Commented number comment lines marked)
    (nonempty : comment ≠ [])
    (names : Table Int Text)
    (name : Text)
    (state : Int) :
    stateName (.ofLines marked) names name state =
      (stateName (.ofLines lines) names name state).map fun given =>
        if takesComment lines number name state then nameOfComment comment else given := by
  obtain ⟨c, others, isComment⟩ := List.exists_cons_of_ne_nil nonempty
  have found := commentOf?_of_commented commented nonempty name state none
  unfold stateName
  simp only [Outline.ofLines, found]
  cases commentOf? name state none lines with
  | error fault =>
      rfl
  | ok found =>
      cases takesComment lines number name state with
      | true =>
          rw [isComment]
          rcases found with _ | ⟨_ | _⟩ <;>
            rfl
      | false =>
          rcases found with _ | ⟨_ | _⟩ <;>
            rfl

/-- A comment more relabels the machine of a variable and changes nothing else. -/
theorem ofVariable?_of_commented
    (commented : Line.Commented number comment lines marked)
    (nonempty : comment ≠ [])
    (names : Table Int Text)
    (name : Text)
    (initial : Int) :
    ofVariable? (.ofLines marked) names name initial =
      (ofVariable? (.ofLines lines) names name initial).map
        (Option.map (relabelled lines number comment)) := by
  have sameTransitions :
      transitionsOf (.ofLines marked) name = transitionsOf (.ofLines lines) name := by
    rw [← transitionsOf_bare, commented.bare_ofLines, transitionsOf_bare]
  have nameState (state : Int) :
      namedState (.ofLines marked) names name state =
        (namedState (.ofLines lines) names name state).map
          (relabelledState lines number comment name) := by
    unfold namedState
    rw [stateName_of_commented commented nonempty]
    cases stateName (.ofLines lines) names name state <;>
      rfl
  unfold ofVariable?
  rw [sameTransitions]
  cases transitionsOf (.ofLines lines) name with
  | error fault =>
      rfl
  | ok transitions =>
      simp only [bind, Except.bind]
      by_cases few : transitions.length < 2
      · rw [if_pos few, if_pos few]
        rfl
      · rw [if_neg few, if_neg few]
        rw [Outcome.mapM_eq_map nameState]
        cases (statesOf initial transitions).mapM (namedState (.ofLines lines) names name) <;>
          rfl

/-- The machines of the lines with the comment are those without it, relabelled. -/
theorem find_of_commented
    (commented : Line.Commented number comment lines marked)
    (nonempty : comment ≠ [])
    (names : Table Int Text) :
    find (.ofLines marked) names =
      (find (.ofLines lines) names).map (List.map (relabelled lines number comment)) := by
  have sameVariables :
      (Outline.ofLines marked).variablesOfType .int =
        (Outline.ofLines lines).variablesOfType .int := by
    rw [← Outline.variablesOfType_bare, commented.bare_ofLines, Outline.variablesOfType_bare]
  have machineOf (declared : Variable) :
      ofDeclared? (.ofLines marked) names declared =
        (ofDeclared? (.ofLines lines) names declared).map
          (Option.map (relabelled lines number comment)) := by
    unfold ofDeclared?
    split
    · rfl
    · exact ofVariable?_of_commented commented nonempty names declared.name _
  unfold find
  rw [sameVariables, Outcome.mapM_eq_map machineOf]
  cases ((Outline.ofLines lines).variablesOfType .int).mapM
      (ofDeclared? (.ofLines lines) names) with
  | error fault =>
      rfl
  | ok found =>
      refine congrArg Except.ok ?_
      simp [List.filterMap_map, List.map_filterMap]

end Relabelled

end StateMachine

end MissionLint
