import MissionLint.EventGraph.Cycle
import MissionLint.Proofs.Analysis.StateName
import MissionLint.Proofs.Script.Blocks

namespace MissionLint

/-!
# Comments and findings

Scripts whose lines have the same codes differ in their comments only.  Their outlines say
the same apart from the comments, and so do all findings.  Comments can still name the
states of machines, which have the same states and transitions.
-/

/-- A line without its comment and its text. -/
def Line.uncommented (line : Line) : Line :=
  { line with text := [], comment := none }

/-- A block without comments: its name, its first line, what guards it, and the numbers and
codes of its commands. -/
def Event.transcript (event : Event) : Text × Nat × Option Text × List (Nat × Text) :=
  (event.name, event.start, event.guard, event.commands.map fun line => (line.number, line.code))

namespace Line

/-- Leaving out comments keeps openers, declarations and guards. -/
theorem keepsShape_uncommented :
    KeepsShape uncommented id :=
  keepsShape_of_code (fun _ => rfl) (fun _ => rfl)

/-- The lines of a script, comments apart, are determined by their codes. -/
theorem map_uncommented_ofScript
    {first second : Text}
    (sameCode : (ofScript first).map Line.code = (ofScript second).map Line.code) :
    (ofScript first).map uncommented = (ofScript second).map uncommented := by
  have sameLength : (ofScript first).length = (ofScript second).length := by
    have lengths := congrArg List.length sameCode
    rwa [List.length_map, List.length_map] at lengths
  have sameNumber :
      (ofScript first).map Line.number = (ofScript second).map Line.number := by
    rw [map_number_ofScript, map_number_ofScript, sameLength]
  have byParts (lines : List Line) :
      lines.map uncommented =
        List.zipWith (fun number code => ⟨number, [], code, none⟩)
          (lines.map Line.number) (lines.map Line.code) := by
    rw [List.zipWith_map, List.zipWith_self]
    rfl
  rw [byParts, byParts, sameNumber, sameCode]

/-- Lines that are the same up to comments are the same when bare. -/
theorem map_bare_of_map_uncommented
    {lines others : List Line}
    (same : lines.map uncommented = others.map uncommented) :
    lines.map bare = others.map bare := by
  have bares := congrArg (List.map bare) same
  rw [List.map_map, List.map_map] at bares
  exact bares

end Line

/-- Leaving out comments keeps the blocks up to comments. -/
theorem Outline.map_transcript_events
    (lines : List Line) :
    (ofLines (lines.map Line.uncommented)).events.map Event.transcript =
      (ofLines lines).events.map Event.transcript := by
  have sameTranscript (event : Event) :
      (event.mapLines Line.uncommented id).transcript = event.transcript := by
    simp only [Event.transcript, Event.mapLines, List.map_map]
    rfl
  rw [ofLines_map Line.keepsShape_uncommented, mapLines, List.map_map]
  exact List.map_congr_left fun event _ => sameTranscript event

namespace StateMachine

/-- A state without its name. -/
def unnamedState (entry : Int × Text) : Int × Text :=
  (entry.1, [])

/-- A machine without the names of its states. -/
def unnamed (machine : StateMachine) : StateMachine :=
  { machine with states := machine.states.map unnamedState }

/-- Whether the search for the comment of a state returns does not depend on comments.  Codes
decide which line is the first to assign the state, so the comments above that are handed on may
differ. -/
theorem commentOf?_bare
    (name : Text)
    (state : Int)
    (above otherAbove : Option Text)
    (lines : List Line) :
    (commentOf? name state above (lines.map Line.bare)).map (fun _ => ()) =
      (commentOf? name state otherAbove lines).map fun _ => () := by
  induction lines generalizing above otherAbove with
  | nil =>
      rfl
  | cons line rest inductionHypothesis =>
      have sameAssigned : assignedOn name line.bare = assignedOn name line := by
        simp [assignedOn]
      rw [List.map_cons, commentOf?_cons, commentOf?_cons, sameAssigned]
      cases anyIsState state (assignedOn name line) with
      | error fault =>
          rfl
      | ok found =>
          cases found with
          | true =>
              rfl
          | false =>
              exact inductionHypothesis line.bare.comment line.comment

section Unnamed

variable (outline : Outline) (names : Table Int Text)

/-- Naming a state returns in the bare outline when it returns in the outline. -/
theorem namedState_bare
    (name : Text)
    (state : Int) :
    (namedState outline.bare names name state).map unnamedState =
      (namedState outline names name state).map unnamedState := by
  have byComment (outline : Outline) :
      (namedState outline names name state).map unnamedState =
        ((commentOf? name state none outline.lines).map fun _ => ()).map
          fun _ => (state, []) := by
    unfold namedState stateName
    cases commentOf? name state none outline.lines with
    | error fault =>
        rfl
    | ok found =>
        rcases found with _ | ⟨_ | _⟩ <;>
          rfl
  rw [byComment, byComment, Outline.lines_bare, commentOf?_bare name state none none]

/-- A variable has the same machine in the bare outline up to the names of its states. -/
theorem ofVariable?_bare
    (name : Text)
    (initial : Int) :
    (ofVariable? outline.bare names name initial).map (Option.map unnamed) =
      (ofVariable? outline names name initial).map (Option.map unnamed) := by
  unfold ofVariable?
  rw [transitionsOf_bare]
  cases transitionsOf outline name with
  | error fault =>
      rfl
  | ok transitions =>
      have byStates (states : Except NumeralFault (List (Int × Text))) :
          (states.bind fun found => .ok (some ⟨name, found, transitions, initial⟩)).map
              (Option.map unnamed) =
            (states.map (List.map unnamedState)).map fun found =>
              some ⟨name, found, transitions, initial⟩ := by
        cases states <;>
          rfl
      have sameStates :=
        Outcome.map_mapM_congr (namedState_bare outline names name) (statesOf initial transitions)
      simp only [bind, Except.bind]
      by_cases few : transitions.length < 2
      · rw [if_pos few, if_pos few]
      · rw [if_neg few, if_neg few]
        exact (byStates _).trans ((congrArg _ sameStates).trans (byStates _).symm)

/-- The machines of bare lines are those of the lines, except for the names of states. -/
theorem find_bare :
    (find outline.bare names).map (List.map unnamed) =
      (find outline names).map (List.map unnamed) := by
  have machineOf (declared : Variable) :
      (ofDeclared? outline.bare names declared).map (Option.map unnamed) =
        (ofDeclared? outline names declared).map (Option.map unnamed) := by
    unfold ofDeclared?
    split
    · rfl
    · exact ofVariable?_bare outline names declared.name _
  have byMachines (found : Except NumeralFault (List (Option StateMachine))) :
      (found.bind fun machines => .ok (machines.filterMap id)).map (List.map unnamed) =
        (found.map (List.map (Option.map unnamed))).map (List.filterMap id) := by
    cases found with
    | error fault =>
        rfl
    | ok machines =>
        refine congrArg Except.ok ?_
        simp [List.filterMap_map, List.map_filterMap]
  have sameMachines := Outcome.map_mapM_congr machineOf (outline.variablesOfType .int)
  exact (byMachines _).trans ((congrArg _ sameMachines).trans (byMachines _).symm)

end Unnamed

end StateMachine

/-- Two scripts whose lines have the same codes have the same variables, and the same blocks
up to comments.  All their findings are the same, and so are the failures of analyses, except
that state machines may name their states differently.

The codes are those of lines without the carriage returns at their ends, so a carriage return
in front of `#` is part of the code and is not ignored. -/
theorem findings_ignore_comments
    (first second : Text)
    (sameCode : (Line.ofScript first).map Line.code = (Line.ofScript second).map Line.code) :
    let outline := Outline.ofScript first
    let other := Outline.ofScript second
    outline.declared = other.declared ∧
      outline.events.map Event.transcript = other.events.map Event.transcript ∧
      EventGraph.ofOutline outline = EventGraph.ofOutline other ∧
      (EventGraph.ofOutline outline).cycles = (EventGraph.ofOutline other).cycles ∧
      LockPattern.find outline = LockPattern.find other ∧
      ResourceFlow.find outline = ResourceFlow.find other ∧
      (∀ settings,
        LoadMetrics.ofOutline settings outline = LoadMetrics.ofOutline settings other) ∧
      DeadlockRisk.find outline = DeadlockRisk.find other ∧
      ∀ names,
        (StateMachine.find outline names).map (List.map StateMachine.unnamed) =
          (StateMachine.find other names).map (List.map StateMachine.unnamed) := by
  intro outline other
  have sameLines := Line.map_uncommented_ofScript sameCode
  have sameBare : outline.bare = other.bare := by
    change (Outline.ofLines _).bare = (Outline.ofLines _).bare
    rw [← Outline.ofLines_map_bare, ← Outline.ofLines_map_bare,
      Line.map_bare_of_map_uncommented sameLines]
  have sameGraph : EventGraph.ofOutline outline = EventGraph.ofOutline other := by
    rw [← EventGraph.ofOutline_bare, sameBare, EventGraph.ofOutline_bare]
  refine ⟨?_, ?_, sameGraph, congrArg EventGraph.cycles sameGraph, ?_, ?_, ?_, ?_, ?_⟩
  · rw [← Outline.declared_bare, sameBare, Outline.declared_bare]
  · change (Outline.ofLines _).events.map _ = (Outline.ofLines _).events.map _
    rw [← Outline.map_transcript_events, sameLines, Outline.map_transcript_events]
  · rw [← LockPattern.find_bare fun _ => Outline.isName_of_mem_declared, sameBare,
      LockPattern.find_bare fun _ => Outline.isName_of_mem_declared]
  · rw [← ResourceFlow.find_bare, sameBare, ResourceFlow.find_bare]
  · intro settings
    rw [← LoadMetrics.ofOutline_bare, sameBare, LoadMetrics.ofOutline_bare]
  · rw [← DeadlockRisk.find_bare, sameBare, DeadlockRisk.find_bare]
  · intro names
    rw [← StateMachine.find_bare, sameBare, StateMachine.find_bare]

/-- A comment names a state, and writes a guard that is none. -/
theorem findings_ignore_comments_naming :
    let first : Text :=
      "int S=0\nwhen(S==0)[A]\nwhen(S==1)[B]\nA::\nS:1; # open when(S==9)[B]\nB::\nS:2;"
    let second : Text := "int S=0\nwhen(S==0)[A]\nwhen(S==1)[B]\nA::\nS:1; \nB::\nS:2;#"
    (Line.ofScript first).map Line.code = (Line.ofScript second).map Line.code ∧
      (StateMachine.stateName (.ofScript first) [] "S" 1).toOption =
        some "OPEN_WHEN(S==9)[B]" ∧
      (StateMachine.stateName (.ofScript second) [] "S" 1).toOption = some "STATE_1" ∧
      (StateMachine.find (.ofScript first) []).map (List.map StateMachine.unnamed) =
        (StateMachine.find (.ofScript second) []).map (List.map StateMachine.unnamed) := by
  intro first second
  obtain ⟨sameCode, commented, uncommented⟩ :
      (Line.ofScript first).map Line.code = (Line.ofScript second).map Line.code ∧
        (StateMachine.stateName (.ofScript first) [] "S" 1).toOption =
          some "OPEN_WHEN(S==9)[B]" ∧
        (StateMachine.stateName (.ofScript second) [] "S" 1).toOption = some "STATE_1" := by
    decide +kernel
  obtain ⟨_, _, _, _, _, _, _, _, sameMachines⟩ := findings_ignore_comments first second sameCode
  exact ⟨sameCode, commented, uncommented, sameMachines []⟩

end MissionLint
