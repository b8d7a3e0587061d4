import MissionLint.Proofs.Analysis.Fault
import MissionLint.Proofs.Analysis.Naming
import MissionLint.Proofs.Checker.Locations

namespace MissionLint

/-!
# Listings of diagnostics

The diagnostics of a run are listed one a line.  This needs that no message has a line break:
neither what a checker finds nor why it failed.
-/

open Text

/-! ## One diagnostic -/

namespace Diagnostic

/-- The file, the message and the id of a diagnostic have no line break. -/
structure IsOneLine (diagnostic : Diagnostic) : Prop where
  file : diagnostic.location.file.OneLine
  message : diagnostic.message.OneLine
  id : diagnostic.id.OneLine

/-- A diagnostic with texts of one line is printed on one line. -/
theorem IsOneLine.toLine
    {diagnostic : Diagnostic}
    (isOneLine : diagnostic.IsOneLine) :
    diagnostic.toLine.OneLine := by
  have place : diagnostic.location.describe.OneLine := by
    have line : (diagnostic.location.file ++ ":" ++ Text.ofInt diagnostic.location.line).OneLine :=
      (isOneLine.file.append (oneLine_literal (by decide))).append (oneLine_ofInt _)
    unfold Location.describe
    split
    · exact line
    · exact (line.append (oneLine_literal (by decide))).append (oneLine_ofInt _)
  have severity : diagnostic.severity.name.OneLine := by
    cases diagnostic.severity <;>
      exact oneLine_literal (by decide)
  simp only [Diagnostic.toLine, oneLine_append_iff, and_assoc]
  refine ⟨place, ?_, severity, ?_, isOneLine.message, ?_, isOneLine.id, ?_⟩ <;>
    exact oneLine_literal (by decide)

/-- A printed diagnostic starts with its file. -/
theorem file_isPrefix_toLine
    (diagnostic : Diagnostic) :
    diagnostic.location.file <+: diagnostic.toLine := by
  have place : diagnostic.location.file <+: diagnostic.location.describe := by
    unfold Location.describe
    split <;>
      simp only [List.append_assoc] <;>
      exact List.prefix_append _ _
  simp only [toLine, List.append_assoc]
  exact place.trans (List.prefix_append _ _)

/-- The id of a diagnostic in square brackets. -/
def bracketedId (diagnostic : Diagnostic) : Text :=
  "[" ++ diagnostic.id ++ "]"

/-- A printed diagnostic ends with its id in brackets. -/
theorem bracketedId_isSuffix_toLine
    (diagnostic : Diagnostic) :
    diagnostic.bracketedId <:+ diagnostic.toLine := by
  refine ⟨diagnostic.location.describe ++ ": " ++ diagnostic.severity.name ++ ": "
    ++ diagnostic.message ++ " ", ?_⟩
  simp [toLine, bracketedId, ofString, ofCharacters]

end Diagnostic

/-! ## Messages -/

/-- The message of a failure has no line break. -/
def Failure.IsOneLine (failure : Failure) : Prop :=
  failure.message.OneLine

namespace Checker

/-- What a checker says in a context has no line break: the messages of its findings, and why
it fails. -/
structure SpeaksOneLine (checker : Checker) (context : Context) : Prop where
  findings : ∀ {findings : List Finding}, checker.assess context = .ok findings →
    ∀ finding ∈ findings, finding.message.OneLine
  failure : ∀ {failure : Failure}, checker.assess context = .error failure →
    failure.IsOneLine

/-- A checker fails only when it gathers its evidence, as long as what it makes of the evidence
is complete. -/
theorem speaksOneLine_of_gathers
    {checker : Checker}
    {gather : Outline → Settings → Except Failure checker.Evidence}
    (gathers : checker.Gathers gather)
    {context : Context}
    (fresh : context.analyses.eventGraph = none)
    (complete : ∀ evidence, (checker.diagnose context evidence).failure = none)
    (fails : Outcome.FailsWith Failure.IsOneLine (gather context.outline context.settings))
    (messages : ∀ {evidence : checker.Evidence},
      gather context.outline context.settings = .ok evidence →
      ∀ finding ∈ (checker.diagnose context evidence).findings, finding.message.OneLine) :
    checker.SpeaksOneLine context where
  findings := by
    intro findings assessed
    obtain ⟨evidence, gathered, rfl⟩ := gathers.exists_of_assess fresh assessed
    exact messages gathered
  failure := by
    intro failure assessed
    rw [gathers.assess_eq (Context.shares_self fresh)] at assessed
    refine fails.bind (fun evidence => ?_) failure assessed
    rw [outcomeOf, complete evidence]
    exact Outcome.failsWith_ok _

/-- A fault of digits makes a failure with a message of one line. -/
theorem failsWith_mapError_numeral
    {outcome : Except NumeralFault Value}
    (fails : Outcome.FailsWith NumeralFault.OfDigits outcome) :
    Outcome.FailsWith Failure.IsOneLine (outcome.mapError .numeral) :=
  fails.mapError fun _ ofDigits => ofDigits.oneLine_message

section Standard

variable {context : Context} {script : Text}

/-- Messages about repeated events are one line, as events have names. -/
theorem speaksOneLine_duplicateEvents
    (isScript : context.outline = .ofScript script)
    (fresh : context.analyses.eventGraph = none) :
    duplicateEvents.SpeaksOneLine context := by
  refine speaksOneLine_of_gathers gathers_duplicateEvents fresh (fun _ => rfl)
    (Outcome.failsWith_ok _) ?_
  intro repeated gathered finding isFinding
  cases gathered
  obtain ⟨event, isRepeated, rfl⟩ := List.mem_map.mp isFinding
  rw [isScript] at isRepeated
  have isBlock := Outline.mem_of_mem_repeatedFrom isRepeated
  exact .append (oneLine_literal (by decide))
    (oneLine_of_isName (Outline.isName_of_mem_events isBlock))

/-- Messages about undefined targets are one line, as both ends of an edge have names. -/
theorem speaksOneLine_undefinedTargets
    (isScript : context.outline = .ofScript script)
    (fresh : context.analyses.eventGraph = none) :
    undefinedTargets.SpeaksOneLine context := by
  refine speaksOneLine_of_gathers gathers_undefinedTargets fresh (fun _ => rfl)
    (Outcome.failsWith_ok _) ?_
  intro dangling gathered finding isFinding
  cases gathered
  obtain ⟨edge, isDangling, rfl⟩ := List.mem_map.mp isFinding
  rw [isScript] at isDangling
  have named := EventGraph.isNamed_of_mem_edges (List.mem_filter.mp isDangling).1
  have kind : edge.kind.name.OneLine := by
    cases edge.kind <;>
      exact oneLine_literal (by decide)
  simp only [oneLine_append_iff, and_assoc]
  refine ⟨?_, oneLine_of_isName named.source, ?_, oneLine_of_isName named.target, ?_, kind, ?_⟩ <;>
    exact oneLine_literal (by decide)

/-- Messages about locks are one line, as variables have names. -/
theorem speaksOneLine_locks
    (isScript : context.outline = .ofScript script)
    (fresh : context.analyses.eventGraph = none) :
    locks.SpeaksOneLine context := by
  refine speaksOneLine_of_gathers gathers_locks fresh (fun _ => rfl)
    ((failsWith_mapError_numeral (LockPattern.failsWith_find _)).map _) ?_
  intro evidence gathered finding isFinding
  rw [isScript] at gathered
  obtain ⟨patterns, returned, rfl⟩ := Outcome.exists_of_map gathered
  have found := Outcome.eq_ok_of_mapError returned
  obtain ⟨pattern, isPattern, isAbout⟩ := List.mem_flatMap.mp isFinding
  have name := oneLine_of_isName (LockPattern.isName_of_find found isPattern)
  have label : pattern.kind.label.OneLine := by
    cases pattern.kind <;>
      decide
  rcases List.mem_cons.mp isAbout with rfl | isShared
  · simp only [lockFinding, oneLine_append_iff, and_assoc]
    refine ⟨?_, label, ?_, name, ?_⟩ <;>
      exact oneLine_literal (by decide)
  · split at isShared
    · rw [List.mem_singleton.mp isShared]
      simp only [sharedCooldownFinding, oneLine_append_iff, and_assoc]
      refine ⟨?_, name, ?_, oneLine_ofNat _, ?_⟩ <;>
        exact oneLine_literal (by decide)
    · cases isShared

/-- A message about a state is one line when the machine has names of one line. -/
theorem oneLine_message_stateFinding
    {machine : StateMachine}
    (named : machine.IsNamed)
    {remark : Text}
    (remarkOneLine : remark.OneLine)
    (id : Text)
    (line : Nat)
    (state : Int) :
    (stateFinding id remark line machine state).message.OneLine := by
  simp only [stateFinding, oneLine_append_iff, and_assoc]
  refine ⟨?_, named.states state, ?_, oneLine_ofInt state, ?_,
    oneLine_of_isName named.variableName, ?_, remarkOneLine⟩ <;>
    exact oneLine_literal (by decide)

/-- Messages about state machines are one line when the table of state names has only such. -/
theorem speaksOneLine_stateMachines
    (isScript : context.outline = .ofScript script)
    (fresh : context.analyses.eventGraph = none)
    (tabled : ∀ entry ∈ context.settings.stateNames, entry.2.OneLine) :
    stateMachines.SpeaksOneLine context := by
  refine speaksOneLine_of_gathers gathers_stateMachines fresh (fun _ => rfl)
    (failsWith_mapError_numeral (StateMachine.failsWith_find _ _)) ?_
  intro machines gathered finding isFinding
  rw [isScript] at gathered
  have found := Outcome.eq_ok_of_mapError gathered
  obtain ⟨machine, isMachine, isAbout⟩ := List.mem_flatMap.mp isFinding
  have named := StateMachine.isNamed_of_find tabled found isMachine
  simp only [machineFindings, List.cons_append, List.nil_append, List.mem_cons,
    List.mem_append, List.mem_map] at isAbout
  rcases isAbout with rfl | ⟨state, _, rfl⟩ | ⟨state, _, rfl⟩
  · simp only [machineFinding, oneLine_append_iff, and_assoc]
    refine ⟨?_, oneLine_of_isName named.variableName, ?_, oneLine_ofNat _, ?_, oneLine_ofNat _,
      ?_⟩ <;>
      exact oneLine_literal (by decide)
  · exact oneLine_message_stateFinding named (oneLine_literal (by decide)) _ _ state
  · exact oneLine_message_stateFinding named (oneLine_literal (by decide)) _ _ state

/-- Messages about resources are one line. -/
theorem speaksOneLine_resourceFlows
    (fresh : context.analyses.eventGraph = none) :
    resourceFlows.SpeaksOneLine context := by
  have fails : Outcome.FailsWith NumeralFault.OfDigits
      ((ResourceFlow.find context.outline).bind fun flows =>
        (ResourceFlow.balanceReport flows).map fun _ => flows) :=
    (ResourceFlow.failsWith_find _).bind fun flows =>
      (ResourceFlow.failsWith_balanceReport flows).map _
  refine speaksOneLine_of_gathers gathers_resourceFlows fresh (fun _ => rfl)
    (failsWith_mapError_numeral fails) ?_
  intro flows _ finding isFinding
  obtain ⟨flow, _, isAbout⟩ := List.mem_flatMap.mp isFinding
  have named : flow.resource.name.OneLine ∧ flow.resource.title.OneLine := by
    cases flow.resource <;>
      exact ⟨oneLine_literal (by decide), oneLine_literal (by decide)⟩
  unfold flowFindings at isAbout
  rcases List.mem_append.mp isAbout with isNegative | isSourceless
  · split at isNegative
    · rw [List.mem_singleton.mp isNegative]
      simp only [oneLine_append_iff, and_assoc]
      refine ⟨?_, named.1, ?_, oneLine_ofInt _, ?_, oneLine_ofNat _, ?_, oneLine_ofNat _⟩ <;>
        exact oneLine_literal (by decide)
    · cases isNegative
  · split at isSourceless
    · rw [List.mem_singleton.mp isSourceless]
      simp only [oneLine_append_iff, and_assoc]
      refine ⟨named.2, ?_, named.1, ?_⟩ <;>
        exact oneLine_literal (by decide)
    · cases isSourceless

/-- All advice is given in fixed words. -/
theorem oneLine_of_mem_advice
    {settings : Settings}
    {counts : LoadCounts}
    {hint : Text}
    (isHint : hint ∈ counts.advice settings) :
    hint.OneLine := by
  simp only [LoadCounts.advice, List.mem_append, List.mem_ite_nil_right, List.mem_singleton]
    at isHint
  rcases isHint with ((⟨_, isHint⟩ | ⟨_, isHint⟩) | ⟨_, isHint⟩) | ⟨_, isHint⟩
  · rw [isHint]
    exact .append (oneLine_literal (by decide)) (oneLine_literal (by decide))
  · rw [isHint]
    exact oneLine_literal (by decide)
  · rw [isHint]
    exact oneLine_literal (by decide)
  · rw [isHint]
    exact .append (oneLine_literal (by decide)) (oneLine_literal (by decide))

/-- Messages about the load are one line. -/
theorem speaksOneLine_loads
    (fresh : context.analyses.eventGraph = none) :
    loads.SpeaksOneLine context := by
  have overflows (cause : RealOverflow) : (Failure.overflow cause).IsOneLine := by
    cases cause
    exact oneLine_literal (by decide)
  refine speaksOneLine_of_gathers gathers_loads fresh (fun _ => rfl)
    ((Outcome.failsWith_mapError overflows _).map _) ?_
  intro metrics _ finding isFinding
  obtain ⟨measured, _, isAbout⟩ := List.mem_flatMap.mp isFinding
  unfold loadFindings at isAbout
  rcases List.mem_append.mp isAbout with isHeavy | isHint
  · split at isHeavy
    · rw [List.mem_singleton.mp isHeavy]
      simp only [oneLine_append_iff, and_assoc]
      refine ⟨?_, oneLine_ofInt _, ?_, oneLine_ofInt _, ?_, oneLine_ofInt _, ?_,
        oneLine_ofInt _⟩ <;>
        exact oneLine_literal (by decide)
    · rw [List.mem_singleton.mp isHeavy]
      dsimp only
      exact oneLine_literal (by decide)
    · cases isHeavy
  · obtain ⟨hint, given, rfl⟩ := List.mem_map.mp isHint
    exact oneLine_of_mem_advice given

/-- Messages about cycles are one line, as events have names. -/
theorem speaksOneLine_circularDependencies
    (isScript : context.outline = .ofScript script)
    (fresh : context.analyses.eventGraph = none) :
    circularDependencies.SpeaksOneLine context := by
  refine speaksOneLine_of_gathers gathers_circularDependencies fresh (fun _ => rfl)
    (Outcome.failsWith_ok _) ?_
  intro cycles gathered finding isFinding
  cases gathered
  obtain ⟨cycle, isCycle, rfl⟩ := List.mem_map.mp isFinding
  rw [isScript] at isCycle
  refine .append (oneLine_literal (by decide)) (oneLine_join (oneLine_literal (by decide)) ?_)
  intro name member
  exact oneLine_of_isName (EventGraph.isName_of_mem_cycles isCycle member)

/-- Messages about deadlocks are one line, as events and variables have names. -/
theorem speaksOneLine_deadlocks
    (isScript : context.outline = .ofScript script)
    (fresh : context.analyses.eventGraph = none) :
    deadlocks.SpeaksOneLine context := by
  refine speaksOneLine_of_gathers gathers_deadlocks fresh (fun _ => rfl)
    (Outcome.failsWith_ok _) ?_
  intro risks gathered finding isFinding
  cases gathered
  obtain ⟨risk, isRisk, rfl⟩ := List.mem_map.mp isFinding
  rw [isScript] at isRisk
  have named := DeadlockRisk.isNamed_of_mem_find isRisk
  have events : (Text.join ", " [risk.first, risk.second]).OneLine := by
    refine oneLine_join (oneLine_literal (by decide)) ?_
    simp [oneLine_of_isName named.first, oneLine_of_isName named.second]
  have shared : (Text.join ", " risk.shared).OneLine := by
    refine oneLine_join (oneLine_literal (by decide)) ?_
    intro name isShared
    exact oneLine_of_isName (named.shared name isShared)
  simp only [oneLine_append_iff, and_assoc]
  refine ⟨?_, events, ?_, shared, ?_⟩ <;>
    exact oneLine_literal (by decide)

/-- What the standard checkers say of a script has no line break, when no name in the table of
states has one. -/
theorem speaksOneLine_of_mem_standard
    {checker : Checker}
    (isStandard : checker ∈ standard)
    (isScript : context.outline = .ofScript script)
    (fresh : context.analyses.eventGraph = none)
    (tabled : ∀ entry ∈ context.settings.stateNames, entry.2.OneLine) :
    checker.SpeaksOneLine context := by
  simp only [standard, List.mem_cons, List.not_mem_nil, or_false] at isStandard
  rcases isStandard with rfl | rfl | rfl | rfl | rfl | rfl | rfl | rfl
  · exact speaksOneLine_duplicateEvents isScript fresh
  · exact speaksOneLine_undefinedTargets isScript fresh
  · exact speaksOneLine_locks isScript fresh
  · exact speaksOneLine_stateMachines isScript fresh tabled
  · exact speaksOneLine_resourceFlows fresh
  · exact speaksOneLine_loads fresh
  · exact speaksOneLine_circularDependencies isScript fresh
  · exact speaksOneLine_deadlocks isScript fresh

end Standard

/-- The name and the ids of a standard checker have no line break. -/
theorem oneLine_of_mem_standard
    {checker : Checker}
    (isStandard : checker ∈ standard) :
    checker.name.OneLine ∧ ∀ id ∈ checker.ids, id.OneLine := by
  simp only [standard, List.mem_cons, List.not_mem_nil, or_false] at isStandard
  rcases isStandard with rfl | rfl | rfl | rfl | rfl | rfl | rfl | rfl <;>
    decide

end Checker

/-! ## Runs -/

/-- What a standard checker reports about a file is on one line, also when it fails. -/
theorem Run.isOneLine_of_mem_reportOf
    {checker : Checker}
    (isStandard : checker ∈ Checker.standard)
    {context : Context}
    {script : Text}
    (isScript : context.outline = .ofScript script)
    (fresh : context.analyses.eventGraph = none)
    (tabled : ∀ entry ∈ context.settings.stateNames, entry.2.OneLine)
    (file : context.file.OneLine)
    {diagnostic : Diagnostic}
    (reported : diagnostic ∈ reportOf context checker) :
    diagnostic.IsOneLine ∧ diagnostic.location.file = context.file := by
  obtain ⟨name, ids⟩ := Checker.oneLine_of_mem_standard isStandard
  have speaks := Checker.speaksOneLine_of_mem_standard isStandard isScript fresh tabled
  unfold reportOf at reported
  split at reported
  case h_1 failure assessed =>
    rw [List.mem_singleton.mp reported]
    have message : (failureDiagnostic context checker failure).message.OneLine := by
      simp only [failureDiagnostic, oneLine_append_iff, and_assoc]
      refine ⟨?_, name, ?_, speaks.failure assessed⟩ <;>
        exact oneLine_literal (by decide)
    exact ⟨⟨file, message, oneLine_literal (by decide)⟩, rfl⟩
  case h_2 findings assessed =>
    obtain ⟨finding, isFinding, rfl⟩ := List.mem_map.mp (List.mem_filter.mp reported).1
    have message := speaks.findings assessed finding isFinding
    obtain ⟨gather, gathers⟩ := Checker.exists_gathers_of_mem_standard isStandard
    obtain ⟨evidence, _, rfl⟩ := gathers.exists_of_assess fresh assessed
    obtain ⟨_, placed⟩ := Checker.exists_at_of_mem_findings isStandard isFinding
    exact ⟨⟨file, message, ids _ placed.id_mem⟩, rfl⟩

namespace RunResults

variable {results : RunResults}

/-- Every printed diagnostic is one line when the texts of all diagnostics are. -/
theorem oneLine_of_mem_map_toLine
    (isOneLine : ∀ diagnostic ∈ results.diagnostics, diagnostic.IsOneLine) :
    ∀ line ∈ results.diagnostics.map Diagnostic.toLine, line.OneLine := by
  intro line isLine
  obtain ⟨diagnostic, member, rfl⟩ := List.mem_map.mp isLine
  exact (isOneLine diagnostic member).toLine

/-- The listing has one line break between any two diagnostics. -/
theorem count_toLines
    (isOneLine : ∀ diagnostic ∈ results.diagnostics, diagnostic.IsOneLine) :
    results.toLines.count ('\n' : CodePoint) = results.totalCount - 1 := by
  rw [toLines, count_join_lines (oneLine_of_mem_map_toLine isOneLine), List.length_map]
  rfl

/-- The lines of a listing are the diagnostics, in their order. -/
theorem splitOn_toLines
    (isOneLine : ∀ diagnostic ∈ results.diagnostics, diagnostic.IsOneLine)
    (found : results.diagnostics ≠ []) :
    results.toLines.splitOn ('\n' : CodePoint) = results.diagnostics.map Diagnostic.toLine :=
  List.splitOn_intercalate _ (oneLine_of_mem_map_toLine isOneLine) (by simpa using found)

end RunResults

/-- A run of standard checkers lists its diagnostics one a line: there is one line break fewer
than there are diagnostics, and each line starts with the file and ends with the id of its
diagnostic in square brackets.  For no message has a line break. -/
theorem diagnostics_are_listed_one_a_line
    (hidden : List Text)
    (script : Text)
    (names : Option (List Text))
    {file : Text}
    (oneLine : ('\n' : CodePoint) ∉ file) :
    ∃ results,
      (run (.standardWithout hidden) {} script names file).result = .ok results ∧
      results.toLines.count ('\n' : CodePoint) =
        (if 0 < results.totalCount then results.totalCount - 1 else 0) ∧
      (∀ (index : Nat) (diagnostic : Diagnostic), results.diagnostics[index]? = some diagnostic →
        ∃ line, (results.toLines.splitOn ('\n' : CodePoint))[index]? = some line ∧
          file <+: line ∧ diagnostic.bracketedId <:+ line) ∧
      ∀ diagnostic ∈ results.diagnostics, ('\n' : CodePoint) ∉ diagnostic.message := by
  have lists : Settings.Lists {} [] [] := ⟨rfl, rfl⟩
  have tabled : ∀ entry ∈ ({} : Settings).stateNames, entry.2.OneLine := by
    decide
  obtain ⟨checkers, selected⟩ :=
    Run.exists_select_of_lists lists (.standardWithout hidden) names
  let context := Run.contextFor {} script file []
  have isScript : context.outline = .ofScript script := rfl
  let results := Run.resultsOf context checkers
  have returns : (run (.standardWithout hidden) {} script names file).result = .ok results := by
    rw [Run.result_run_eq fun _ => Checker.exists_gathers_of_mem_standard,
      lists.suppressedTexts_eq, selected]
    rfl
  have reports : ∀ diagnostic ∈ results.diagnostics,
      diagnostic.IsOneLine ∧ diagnostic.location.file = file := by
    intro diagnostic member
    rw [Run.diagnostics_resultsOf] at member
    obtain ⟨checker, isSelected, reported⟩ := List.mem_flatMap.mp member
    have isStandard : checker ∈ Checker.standard := Run.mem_checkers_of_select selected isSelected
    exact Run.isOneLine_of_mem_reportOf isStandard isScript rfl tabled oneLine reported
  have isOneLine : ∀ diagnostic ∈ results.diagnostics, diagnostic.IsOneLine :=
    fun diagnostic member => (reports diagnostic member).1
  refine ⟨results, returns, ?_, ?_, fun diagnostic member => (isOneLine diagnostic member).message⟩
  · rw [RunResults.count_toLines isOneLine]
    split <;>
      omega
  · intro index diagnostic isDiagnostic
    have member := List.mem_of_getElem? isDiagnostic
    refine ⟨diagnostic.toLine, ?_, ?_, diagnostic.bracketedId_isSuffix_toLine⟩
    · rw [RunResults.splitOn_toLines isOneLine (List.ne_nil_of_mem member), List.getElem?_map,
        isDiagnostic]
      rfl
    · rw [← (reports diagnostic member).2]
      exact diagnostic.file_isPrefix_toLine

/-- One checker quotes the digit over which it fails, and another finds a repeated event. -/
theorem diagnostics_are_listed_one_a_line_of_failure :
    let script : Text := "int x = 0\nx:𖵱;\nA::\nA::"
    let selected : List Text := ["mutex-patterns", "duplicate-events"]
    ∃ results : RunResults,
      (run (.standardWithout []) {} script (some selected) "mission").result = .ok results ∧
      results.diagnostics.map Diagnostic.id = ["checkerInternalError", "duplicateEvent"] ∧
      results.toLines.count ('\n' : CodePoint) = 1 := by
  intro script selected
  obtain ⟨results, returns, breaks, _⟩ :=
    diagnostics_are_listed_one_a_line [] script (some selected)
      (by decide : ('\n' : CodePoint) ∉ ("mission" : Text))
  have evaluated :
      (run (.standardWithout []) {} script (some selected) "mission").result.toOption.map
        (fun results => results.diagnostics.map Diagnostic.id) =
        some (["checkerInternalError", "duplicateEvent"] : List Text) := by
    decide +kernel
  rw [returns] at evaluated
  have ids := Option.some.inj evaluated
  have two : results.totalCount = 2 := by
    simpa [RunResults.totalCount] using congrArg List.length ids
  refine ⟨results, returns, ids, ?_⟩
  rw [breaks, two]
  rfl

end MissionLint
