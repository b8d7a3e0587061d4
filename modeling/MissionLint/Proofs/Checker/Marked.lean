import MissionLint.Proofs.Analysis.Reconstruction
import MissionLint.Proofs.Checker.Verdict
import MissionLint.Proofs.Checker.MachineTopic
import MissionLint.Proofs.Report.Marker

namespace MissionLint

/-!
# Runs of marked scripts

A marker is a comment, and only the names of states are made of comments.  So all
checkers but one report for a marked script what they report for the script, without what
the marker hides.  The checker of state machines may give states other names.
-/

/-- An analysis that sees the bare outline gives the same with and without a comment. -/
theorem Line.Commented.eq_of_bare
    {number : Nat}
    {comment : Text}
    {lines marked : List Line}
    (commented : Commented number comment lines marked)
    {analysis : Outline → Result}
    (ofMarked : analysis (Outline.ofLines marked).bare = analysis (.ofLines marked))
    (ofLines : analysis (Outline.ofLines lines).bare = analysis (.ofLines lines)) :
    analysis (.ofLines marked) = analysis (.ofLines lines) := by
  rw [← ofMarked, ← ofLines, commented.bare_ofLines]

/-- The findings about the repeated events of an outline. -/
def Checker.repeatFindings (outline : Outline) : List Finding :=
  outline.repeatedEvents.map (repeatFinding outline)

/-- The findings about repeated events are those of the bare outline. -/
theorem Checker.repeatFindings_bare
    (outline : Outline) :
    repeatFindings outline.bare = repeatFindings outline := by
  have sameFinding (event : Event) :
      repeatFinding outline.bare event.bare = repeatFinding outline event := by
    have sameStart :
        (outline.bare.firstEvent? event.name).map Event.start =
          (outline.firstEvent? event.name).map Event.start := by
      rw [Outline.firstEvent?_bare, Option.map_map]
      rfl
    simp only [repeatFinding, Event.name_bare, Event.start_bare, sameStart]
  rw [repeatFindings, Outline.repeatedEvents_bare, List.map_map]
  exact List.map_congr_left fun event _ => sameFinding event

namespace Run

section Marked

variable {script marked : Text} {number : Nat} {comment : Text} {ids : List Text}
  (marks : Suppressions.Marks script marked number comment ids)

/-- A checker finds the same in both scripts when it has the same evidence and makes the
same of it. -/
theorem assess_eq_of_gathers
    {checker : Checker}
    {gather : Outline → Settings → Except Failure checker.Evidence}
    (gathers : checker.Gathers gather)
    {file : Text}
    (sameEvidence : gather (.ofScript marked) {} = gather (.ofScript script) {})
    (sameFindings : ∀ evidence,
      checker.diagnose (contextFor {} marked file []) evidence =
        checker.diagnose (contextFor {} script file []) evidence) :
    checker.assess (contextFor {} marked file []) =
      checker.assess (contextFor {} script file []) := by
  rw [gathers.assess_eq (Context.shares_self rfl), gathers.assess_eq (Context.shares_self rfl)]
  change (gather (.ofScript marked) {}).bind _ = (gather (.ofScript script) {}).bind _
  rw [sameEvidence]
  simp only [sameFindings]

include marks

/-- A marker does not change what is found about repeated events. -/
theorem assess_duplicateEvents
    (file : Text) :
    Checker.duplicateEvents.assess (contextFor {} marked file []) =
      Checker.duplicateEvents.assess (contextFor {} script file []) := by
  have sameFindings :
      Checker.repeatFindings (.ofScript marked) = Checker.repeatFindings (.ofScript script) :=
    marks.commented.eq_of_bare (Checker.repeatFindings_bare _) (Checker.repeatFindings_bare _)
  rw [Checker.gathers_duplicateEvents.assess_eq (Context.shares_self rfl),
    Checker.gathers_duplicateEvents.assess_eq (Context.shares_self rfl)]
  exact congrArg Except.ok sameFindings

/-- Only the checker of state machines can find something else in the marked script. -/
theorem assess_of_marks
    {checker : Checker}
    (isStandard : checker ∈ Checker.standard)
    (notMachines : checker.name ≠ "state-machines")
    (file : Text) :
    checker.assess (contextFor {} marked file []) =
      checker.assess (contextFor {} script file []) := by
  have sameGraph :
      EventGraph.ofOutline (.ofScript marked) = EventGraph.ofOutline (.ofScript script) :=
    marks.commented.eq_of_bare (EventGraph.ofOutline_bare _) (EventGraph.ofOutline_bare _)
  have sameLocks : LockPattern.find (.ofScript marked) = LockPattern.find (.ofScript script) :=
    marks.commented.eq_of_bare
      (LockPattern.find_bare fun _ => Outline.isName_of_mem_declared)
      (LockPattern.find_bare fun _ => Outline.isName_of_mem_declared)
  have sameFlows :
      ResourceFlow.find (.ofScript marked) = ResourceFlow.find (.ofScript script) :=
    marks.commented.eq_of_bare (ResourceFlow.find_bare _) (ResourceFlow.find_bare _)
  have sameLoad :
      LoadMetrics.ofOutline {} (.ofScript marked) = LoadMetrics.ofOutline {} (.ofScript script) :=
    marks.commented.eq_of_bare (LoadMetrics.ofOutline_bare _ {}) (LoadMetrics.ofOutline_bare _ {})
  have sameRisks :
      DeadlockRisk.find (.ofScript marked) = DeadlockRisk.find (.ofScript script) :=
    marks.commented.eq_of_bare (DeadlockRisk.find_bare _) (DeadlockRisk.find_bare _)
  simp only [Checker.standard, List.mem_cons, List.not_mem_nil, or_false] at isStandard
  rcases isStandard with rfl | rfl | rfl | rfl | rfl | rfl | rfl | rfl
  · exact assess_duplicateEvents marks file
  · refine assess_eq_of_gathers Checker.gathers_undefinedTargets ?_ fun _ => rfl
    rw [sameGraph]
  · refine assess_eq_of_gathers Checker.gathers_locks ?_ fun _ => rfl
    rw [sameLocks]
  · exact absurd rfl notMachines
  · refine assess_eq_of_gathers Checker.gathers_resourceFlows ?_ fun _ => rfl
    rw [sameFlows]
  · refine assess_eq_of_gathers Checker.gathers_loads ?_ fun _ => rfl
    rw [sameLoad]
  · refine assess_eq_of_gathers Checker.gathers_circularDependencies ?_ fun _ => rfl
    rw [sameGraph]
  · refine assess_eq_of_gathers Checker.gathers_deadlocks ?_ fun _ => rfl
    rw [sameRisks]

/-- A checker that finds the same reports the same, but for what the marker hides. -/
theorem reportOf_of_assess
    {checker : Checker}
    {file : Text}
    (sameFindings :
      checker.assess (contextFor {} marked file []) =
        checker.assess (contextFor {} script file [])) :
    reportOf (contextFor {} marked file []) checker =
      (reportOf (contextFor {} script file []) checker).filter fun diagnostic =>
        !Suppressions.hides ids number diagnostic := by
  unfold reportOf
  rw [sameFindings]
  cases checker.assess (contextFor {} script file []) with
  | error failure =>
      have shown :
          Suppressions.hides ids number
            (failureDiagnostic (contextFor {} script file []) checker failure) = false :=
        Suppressions.hides_eq_false ids marks.positive (Int.lt_irrefl 0)
      simp only [List.filter_cons, shown]
      rfl
  | ok findings =>
      exact Suppressions.filter_of_commented marks.commented marks.named marks.positive _

end Marked

end Run

/-! ## The checker of state machines -/

/-- Every state that is reported for a marked script, and that takes its name from the
marker, had that name before. -/
def StateMachine.KeepNames (script marked : Text) (number : Nat) (comment : Text) : Prop :=
  ∀ machines, find (.ofScript script) ({} : Settings).stateNames = .ok machines →
    ∀ machine ∈ machines,
      ∀ state ∈ machine.reportedStates (({} : Suppressions).loadInline (Line.ofScript marked))
          (Checker.machineLine (.ofScript script) machine),
        takesComment (Line.ofScript script) number machine.variableName state = true →
          machine.nameOf state = nameOfComment comment

namespace Run

section Marked

variable {script marked : Text} {number : Nat} {comment : Text} {ids : List Text}
  (marks : Suppressions.Marks script marked number comment ids)

include marks

/-- A marker relabels state machines and changes nothing else of them. -/
theorem find_of_marks :
    StateMachine.find (.ofScript marked) ({} : Settings).stateNames =
      (StateMachine.find (.ofScript script) ({} : Settings).stateNames).map
        (List.map (StateMachine.relabelled (Line.ofScript script) number comment)) :=
  StateMachine.find_of_commented marks.commented marks.nonempty _

/-- A marker does not move the line of a machine. -/
theorem machineLine_of_marks
    (machine : StateMachine) :
    Checker.machineLine (.ofScript marked) machine =
      Checker.machineLine (.ofScript script) machine := by
  have sameDeclared := congrArg Outline.declared marks.commented.bare_ofLines
  change (Outline.ofScript marked).declared = (Outline.ofScript script).declared at sameDeclared
  rw [Checker.machineLine, Outline.variableNamed?, sameDeclared]
  rfl

/-- For the marked script it reports the same topics with the names that states take from
the comment. -/
theorem reportOf_stateMachines_of_marks
    {machines : List StateMachine}
    (found : StateMachine.find (.ofScript script) ({} : Settings).stateNames = .ok machines)
    (file : Text) :
    reportOf (contextFor {} marked file []) .stateMachines =
      (({} : Suppressions).loadInline (Line.ofScript marked)).filter
        ((MachineTopic.ofMachines machines).map
          (MachineTopic.diagnostic (contextFor {} script file [])
            (StateMachine.relabelled (Line.ofScript script) number comment))) := by
  have foundMarked :
      StateMachine.find (.ofScript marked) ({} : Settings).stateNames =
        .ok (machines.map (StateMachine.relabelled (Line.ofScript script) number comment)) := by
    rw [find_of_marks marks, found]
    rfl
  have sameDiagnostic (topic : StateMachine × MachineTopic) :
      MachineTopic.diagnostic (contextFor {} marked file []) id
          (topic.1.relabelled (Line.ofScript script) number comment, topic.2) =
        MachineTopic.diagnostic (contextFor {} script file [])
          (StateMachine.relabelled (Line.ofScript script) number comment) topic := by
    have relabelledLine :=
      machineLine_of_marks marks (topic.1.relabelled (Line.ofScript script) number comment)
    change Checker.machineLine (contextFor {} marked file []).outline _ = _ at relabelledLine
    rw [MachineTopic.diagnostic, relabelledLine]
    rfl
  rw [reportOf_stateMachines (contextFor {} marked file []) rfl foundMarked,
    MachineTopic.ofMachines_relabelled, List.map_map]
  simp only [Function.comp_def, sameDiagnostic]
  rfl

/-- What it reports for the script, but for what the marker hides. -/
theorem filter_reportOf_stateMachines
    {machines : List StateMachine}
    (found : StateMachine.find (.ofScript script) ({} : Settings).stateNames = .ok machines)
    (file : Text) :
    ((reportOf (contextFor {} script file []) .stateMachines).filter fun diagnostic =>
        !Suppressions.hides ids number diagnostic) =
      (({} : Suppressions).loadInline (Line.ofScript marked)).filter
        ((MachineTopic.ofMachines machines).map
          (MachineTopic.diagnostic (contextFor {} script file []) id)) := by
  rw [reportOf_stateMachines (contextFor {} script file []) rfl found]
  exact (Suppressions.filter_of_commented marks.commented marks.named marks.positive _).symm

/-- When the machines cannot be found, both scripts fail alike. -/
theorem assess_stateMachines_of_error
    {fault : NumeralFault}
    (failed : StateMachine.find (.ofScript script) ({} : Settings).stateNames = .error fault)
    (file : Text) :
    Checker.stateMachines.assess (contextFor {} marked file []) =
      Checker.stateMachines.assess (contextFor {} script file []) := by
  rw [Checker.gathers_stateMachines.assess_eq (Context.shares_self rfl),
    Checker.gathers_stateMachines.assess_eq (Context.shares_self rfl)]
  change ((StateMachine.find (.ofScript marked) ({} : Settings).stateNames).mapError _).bind _ =
    ((StateMachine.find (.ofScript script) ({} : Settings).stateNames).mapError _).bind _
  rw [find_of_marks marks, failed]
  rfl

/-- The reports for both scripts differ in nothing but messages about states. -/
theorem unnamed_reportOf_stateMachines
    (file : Text) :
    (reportOf (contextFor {} marked file []) .stateMachines).map Diagnostic.unnamed =
      ((reportOf (contextFor {} script file []) .stateMachines).filter fun diagnostic =>
        !Suppressions.hides ids number diagnostic).map Diagnostic.unnamed := by
  cases found : StateMachine.find (.ofScript script) ({} : Settings).stateNames with
  | error fault =>
      have sameFindings := assess_stateMachines_of_error marks found file
      rw [reportOf_of_assess marks sameFindings]
  | ok machines =>
      rw [reportOf_stateMachines_of_marks marks found,
        filter_reportOf_stateMachines marks found,
        Suppressions.filter_map, Suppressions.filter_map, List.map_map, List.map_map]
      simp only [MachineTopic.suppresses_diagnostic, Function.comp_def,
        MachineTopic.unnamed_diagnostic]

/-- They are the same exactly when no state that is still reported gets another name. -/
theorem reportOf_stateMachines_iff
    (file : Text) :
    (reportOf (contextFor {} marked file []) .stateMachines =
      (reportOf (contextFor {} script file []) .stateMachines).filter fun diagnostic =>
        !Suppressions.hides ids number diagnostic) ↔
      StateMachine.KeepNames script marked number comment := by
  cases found : StateMachine.find (.ofScript script) ({} : Settings).stateNames with
  | error fault =>
      have sameFindings := assess_stateMachines_of_error marks found file
      refine iff_of_true (reportOf_of_assess marks sameFindings) ?_
      intro machines isFound
      rw [found] at isFound
      cases isFound
  | ok machines =>
      rw [reportOf_stateMachines_of_marks marks found,
        filter_reportOf_stateMachines marks found,
        Suppressions.filter_map, Suppressions.filter_map]
      simp only [MachineTopic.suppresses_diagnostic]
      rw [List.map_inj_left]
      constructor
      · intro unchanged _ isFound machine member state reported
        cases found.symm.trans isFound
        obtain ⟨topic, isTopic, isState, shown⟩ :=
          MachineTopic.mem_reportedStates_iff.mp reported
        have unchangedTopic := unchanged (machine, topic) (List.mem_filter.mpr
          ⟨MachineTopic.mem_ofMachines_iff.mpr ⟨member, isTopic⟩,
            (Bool.not_eq_true' _).mpr shown⟩)
        exact (MachineTopic.diagnostic_relabelled_iff isTopic _).mp unchangedTopic state isState
      · rintro keepsNames ⟨machine, topic⟩ isShown
        obtain ⟨inMachines, shown⟩ := List.mem_filter.mp isShown
        obtain ⟨member, isTopic⟩ := MachineTopic.mem_ofMachines_iff.mp inMachines
        refine (MachineTopic.diagnostic_relabelled_iff isTopic _).mpr fun state isState => ?_
        refine keepsNames machines found machine member state ?_
        exact MachineTopic.mem_reportedStates_iff.mpr
          ⟨topic, isTopic, isState, (Bool.not_eq_true' _).mp shown⟩

/-- The checkers other than that of state machines report the same but for what the marker hides. -/
theorem flatMap_reportOf_of_marks
    (checkers : List Checker)
    (areStandard : ∀ checker ∈ checkers, checker ∈ Checker.standard)
    (notMachines : ∀ checker ∈ checkers, checker.name ≠ "state-machines")
    (file : Text) :
    checkers.flatMap (reportOf (contextFor {} marked file [])) =
      (checkers.flatMap (reportOf (contextFor {} script file []))).filter fun diagnostic =>
        !Suppressions.hides ids number diagnostic := by
  rw [List.filter_flatMap]
  refine List.flatMap_congr fun checker member => ?_
  apply reportOf_of_assess marks
  exact assess_of_marks marks (areStandard checker member) (notMachines checker member) file

/-- The diagnostics of both runs: those of the checker of state machines stand between
others that are the same. -/
theorem diagnostics_of_marks
    (file : Text) :
    ∃ before after : List Diagnostic,
      (standardResults marked file).diagnostics =
        before ++ (reportOf (contextFor {} marked file []) .stateMachines ++ after) ∧
      ((standardResults script file).diagnostics.filter fun diagnostic =>
          !Suppressions.hides ids number diagnostic) =
        before ++ (((reportOf (contextFor {} script file []) .stateMachines).filter
          fun diagnostic => !Suppressions.hides ids number diagnostic) ++ after) := by
  have reports (script : Text) :
      (standardResults script file).diagnostics =
        [Checker.duplicateEvents, .undefinedTargets, .locks].flatMap
            (reportOf (contextFor {} script file [])) ++
          (reportOf (contextFor {} script file []) .stateMachines ++
            [Checker.resourceFlows, .loads, .circularDependencies, .deadlocks].flatMap
              (reportOf (contextFor {} script file []))) := by
    simp [RunResults.diagnostics, standardResults, Checker.standard]
  have before :=
    flatMap_reportOf_of_marks marks
      [.duplicateEvents, .undefinedTargets, .locks]
      (by simp [Checker.standard])
      (by decide)
      file
  have after :=
    flatMap_reportOf_of_marks marks
      [.resourceFlows, .loads, .circularDependencies, .deadlocks]
      (by simp [Checker.standard])
      (by decide)
      file
  refine ⟨_, _, reports marked, ?_⟩
  rw [reports script, List.filter_append, List.filter_append, before, after]

/-- All checkers report the same but for what the marker hides and for names of states. -/
theorem unnamed_diagnostics_of_marks
    (file : Text) :
    (standardResults marked file).diagnostics.map Diagnostic.unnamed =
      ((standardResults script file).diagnostics.filter fun diagnostic =>
        !Suppressions.hides ids number diagnostic).map Diagnostic.unnamed := by
  obtain ⟨before, after, isMarked, isFiltered⟩ :=
    diagnostics_of_marks marks file
  have sameMachines := unnamed_reportOf_stateMachines marks file
  rw [isMarked, isFiltered]
  simp only [List.map_append, sameMachines]

/-- The diagnostics are the same but for what the marker hides exactly when the names of states
that are reported stay as they are. -/
theorem diagnostics_of_marks_iff
    (file : Text) :
    ((standardResults marked file).diagnostics =
      (standardResults script file).diagnostics.filter fun diagnostic =>
        !Suppressions.hides ids number diagnostic) ↔
      StateMachine.KeepNames script marked number comment := by
  obtain ⟨before, after, isMarked, isFiltered⟩ :=
    diagnostics_of_marks marks file
  rw [isMarked, isFiltered, List.append_cancel_left_eq, List.append_cancel_right_eq]
  exact reportOf_stateMachines_iff marks file

end Marked

end Run

/-- The ids of standard checkers can be written in a marker. -/
theorem Checker.isWord_of_known
    {id : Text}
    (known : id = "*" ∨ ∃ checker ∈ standard, id ∈ checker.ids) :
    Text.IsWord id := by
  have listed : id ∈ ("*" : Text) :: standard.flatMap Checker.ids := by
    rcases known with rfl | ⟨checker, isStandard, isId⟩
    · exact List.mem_cons_self
    · exact List.mem_cons_of_mem _ (List.mem_flatMap.mpr ⟨checker, isStandard, isId⟩)
  have written :
      ∀ other ∈ ("*" : Text) :: standard.flatMap Checker.ids,
        other ≠ [] ∧ (∀ c ∈ other, Text.isBlank c = false) ∧ (',' : CodePoint) ∉ other := by
    decide +kernel
  obtain ⟨nonempty, visible, noComma⟩ := written id listed
  exact ⟨nonempty, visible, noComma⟩

/-- A marker for ids at the end of an open line filters the diagnostics, but for the
messages about states: both runs give the same but for these, and they give the same
exactly when no state that is still reported gets another name from the marker. -/
theorem diagnostics_annotate
    {script raw : Text}
    {index : Nat}
    (isLine : (script.splitOn ('\n' : CodePoint))[index]? = some raw)
    (isOpen : Line.Open raw)
    {separator : Text}
    {ids : List Text}
    (isSeparator : Text.IsSeparator separator)
    (nonempty : ids ≠ [])
    (known : ∀ id ∈ ids, id = "*" ∨ ∃ checker ∈ Checker.standard, id ∈ checker.ids)
    (file : Text) :
    ∃ results marked,
      (run .standard {} script none file).result = .ok results ∧
      (run .standard {} (Line.annotate script index (Suppressions.commentFor separator ids))
        none file).result = .ok marked ∧
      marked.diagnostics.map Diagnostic.unnamed =
        (results.diagnostics.filter fun diagnostic =>
          !Suppressions.hides ids (index + 1) diagnostic).map Diagnostic.unnamed ∧
      ((marked.diagnostics =
          results.diagnostics.filter fun diagnostic =>
            !Suppressions.hides ids (index + 1) diagnostic) ↔
        StateMachine.KeepNames script
          (Line.annotate script index (Suppressions.commentFor separator ids)) (index + 1)
          (Suppressions.commentFor separator ids)) := by
  have writable : Suppressions.Writable separator ids :=
    ⟨nonempty, fun id member => Checker.isWord_of_known (known id member), isSeparator⟩
  have marks := Suppressions.marks_annotate isLine isOpen writable
  refine ⟨_, _, Run.result_run_standard _ file, Run.result_run_standard _ file, ?_, ?_⟩
  · exact Run.unnamed_diagnostics_of_marks marks file
  · exact Run.diagnostics_of_marks_iff marks file

/-- A script whose variable goes from its first state to a second and a last one. -/
def phaseScript : Text :=
  "int Phase = 0\nwhen(Phase==0)[Open]\nwhen(Phase==1)[Close]\n"
    ++ "Open::\nPhase:1;\nClose::\nPhase:2;"

/-- The machine of the script, with the default names of its states. -/
def phaseMachine : StateMachine where
  variableName := "Phase"
  states := [(0, "IDLE"), (1, "ACTIVE"), (2, "COMPLETE")]
  transitions := [⟨0, 1, "Open", 5⟩, ⟨1, 2, "Close", 7⟩]
  initial := 0

/-- The script has this machine and no other. -/
theorem find_phaseScript :
    StateMachine.find (.ofScript phaseScript) ({} : Settings).stateNames = .ok [phaseMachine] := by
  have states :
      StateMachine.statesOf phaseMachine.initial phaseMachine.transitions = [0, 1, 2] := by
    apply StateMachine.statesOf_eq (by decide)
    intro state
    simp only [phaseMachine, List.mem_cons, List.not_mem_nil, or_false, exists_eq_or_imp,
      ↓existsAndEq, true_and]
    omega
  exact StateMachine.find_eq_singleton states (by decide) (by decide +kernel)

/-- A marker on the line of the declaration removes what is said there, and leaves the
rest as it is. -/
theorem diagnostics_annotate_declaration :
    ∃ results marked,
      (run .standard {} phaseScript none "mission").result = .ok results ∧
      (run .standard {}
        (Line.annotate phaseScript 0
          (Suppressions.commentFor ", " ["stateMachine", "duplicateEvent"]))
        none "mission").result = .ok marked ∧
      marked.diagnostics =
        results.diagnostics.filter fun diagnostic =>
          !Suppressions.hides ["stateMachine", "duplicateEvent"] 1 diagnostic := by
  have isLine :
      (phaseScript.splitOn ('\n' : CodePoint))[0]? = some ("int Phase = 0" : Text) := by
    decide +kernel
  have isOpen : Line.Open "int Phase = 0" :=
    ⟨by decide, by decide, by decide⟩
  have isSeparator : Text.IsSeparator ", " :=
    ⟨by decide, by decide⟩
  have known :
      ∀ id ∈ (["stateMachine", "duplicateEvent"] : List Text),
        id = "*" ∨ ∃ checker ∈ Checker.standard, id ∈ checker.ids := by
    decide
  obtain ⟨results, marked, isResults, isMarked, _, filtered_iff⟩ :=
    diagnostics_annotate isLine isOpen isSeparator (by decide) known "mission"
  refine ⟨results, marked, isResults, isMarked, filtered_iff.mpr ?_⟩
  intro machines isFound machine member state reported
  cases find_phaseScript.symm.trans isFound
  cases List.mem_singleton.mp member
  have onlyLast :
      phaseMachine.reportedStates
          (({} : Suppressions).loadInline (Line.ofScript (Line.annotate phaseScript 0
            (Suppressions.commentFor ", " ["stateMachine", "duplicateEvent"]))))
          (Checker.machineLine (.ofScript phaseScript) phaseMachine) =
        [2] := by
    decide +kernel
  rw [onlyLast] at reported
  cases List.mem_singleton.mp reported
  have untaken :
      StateMachine.takesComment (Line.ofScript phaseScript) 1 phaseMachine.variableName 2 =
        false := by
    decide +kernel
  intro taken
  cases untaken.symm.trans taken

/-- The last line is the first to assign state two, so a marker there becomes the name of
that state in a message that it does not hide. -/
theorem diagnostics_ne_of_marked_assignment :
    (phaseScript.splitOn ('\n' : CodePoint))[6]? = some ("Phase:2;" : Text) ∧
      Line.Open "Phase:2;" ∧
      ("deadlockRisk" : Text) ∈ Checker.deadlocks.ids ∧
      ∃ results marked,
        (run .standard {} phaseScript none "mission").result = .ok results ∧
        (run .standard {}
          (Line.annotate phaseScript 6 (Suppressions.commentFor " " ["deadlockRisk"]))
          none "mission").result = .ok marked ∧
        marked.diagnostics ≠
          results.diagnostics.filter fun diagnostic =>
            !Suppressions.hides ["deadlockRisk"] 7 diagnostic := by
  have isLine : (phaseScript.splitOn ('\n' : CodePoint))[6]? = some ("Phase:2;" : Text) := by
    decide +kernel
  have isOpen : Line.Open "Phase:2;" :=
    ⟨by decide, by decide, by decide⟩
  have writable : Suppressions.Writable " " ["deadlockRisk"] := by
    refine ⟨by decide, ?_, by decide, by decide⟩
    intro id member
    cases List.mem_singleton.mp member
    exact ⟨by decide, by decide, by decide⟩
  have marks := Suppressions.marks_annotate isLine isOpen writable
  have filtered_iff := Run.diagnostics_of_marks_iff marks "mission"
  refine ⟨isLine, isOpen, List.mem_cons_self, _, _, Run.result_run_standard _ _,
    Run.result_run_standard _ _, mt filtered_iff.mp ?_⟩
  intro keepsNames
  have renamed :
      phaseMachine.nameOf 2 =
        StateMachine.nameOfComment (Suppressions.commentFor " " ["deadlockRisk"]) :=
    keepsNames [phaseMachine] find_phaseScript phaseMachine List.mem_cons_self 2
      (by decide +kernel) (by decide +kernel)
  revert renamed
  decide +kernel

end MissionLint
