import MissionLint.EventGraph.Cycle
import MissionLint.Analysis.Load
import MissionLint.Failure
import MissionLint.Report.Log
import MissionLint.Report.Suppression

namespace MissionLint

/-!
# Checkers

A checker turns the results of an analysis into diagnostics.  It reads its
thresholds from the settings, collects evidence from a script, makes findings of
the evidence, and reports those that are not suppressed.  Checkers of one run
share a context, in which the event graph is built once.
-/

/-- Results that the checkers of a run share. -/
structure Analyses where
  eventGraph : Option EventGraph := none
  load : Option LoadMetrics := none

/-- What a checker works on. -/
structure Context where
  outline : Outline
  settings : Settings
  file : Text := "<script>"
  suppressions : Suppressions := {}
  analyses : Analyses := {}

namespace Context

/-- A context for a script, with the suppressions of its comments. -/
def ofOutline (outline : Outline) (settings : Settings) (file : Text) : Context where
  outline := outline
  settings := settings
  file := file
  suppressions := ({} : Suppressions).loadInline outline.lines

/-- The event graph, the context that remembers it, and what building it says. -/
def eventGraph (context : Context) : EventGraph × Context × List LogEntry :=
  match context.analyses.eventGraph with
  | some graph => (graph, context, [])
  | none =>
      let graph := EventGraph.ofOutline context.outline
      let remembering :=
        { context with analyses := { context.analyses with eventGraph := some graph } }
      (graph, remembering, [⟨.debug, "mmscript.event_graph", "built " ++ graph.describe⟩])

end Context

/-- What a checker finds, before it is attributed to the checker. -/
structure Finding where
  id : Text
  message : Text
  line : Nat := 0
  column : Nat := 0
  severity : Option Severity := none
  evidence : List (Text × Data) := []

/-- What collecting gives: the evidence, the context afterwards, and what was said
meanwhile. -/
structure Collected (Evidence : Type) where
  evidence : Evidence
  context : Context
  log : List LogEntry := []

/-- What a checker makes of its evidence: findings, and the failure that stopped
it. -/
structure Diagnosis where
  findings : List Finding
  failure : Option Failure := none

/-- A checker.  Its label names its kind, and its severity is that of findings
without one. -/
structure Checker where
  name : Text
  label : Text
  description : Text
  ids : List Text
  severity : Severity
  Evidence : Type
  initial : Evidence
  configure : Context → Evidence → Evidence
  collect : Context → Evidence → Except Failure (Collected Evidence)
  diagnose : Context → Evidence → Diagnosis

namespace Checker

/-- The diagnostic of a finding, with the severity of the checker where the finding has none. -/
def toDiagnostic (checker : Checker) (context : Context) (finding : Finding) : Diagnostic where
  id := finding.id
  message := finding.message
  severity := finding.severity.getD checker.severity
  location := ⟨context.file, finding.line, finding.column⟩
  checker := checker.name
  evidence := finding.evidence

/-- A short description of a checker. -/
def describe (checker : Checker) : Text :=
  "<" ++ checker.label ++ " '" ++ checker.name ++ "'>"

end Checker

/-- A checker at work: its evidence and the diagnostics it has made so far. -/
structure CheckerWork (checker : Checker) where
  evidence : checker.Evidence
  diagnostics : List Diagnostic

namespace CheckerWork

/-- A checker before its work. -/
def start (checker : Checker) : CheckerWork checker :=
  ⟨checker.initial, []⟩

/-- Read the thresholds. -/
def configure (work : CheckerWork checker) (context : Context) : CheckerWork checker :=
  { work with evidence := checker.configure context work.evidence }

/-- Collect evidence. -/
def collect
    (work : CheckerWork checker)
    (context : Context) :
    Except Failure (CheckerWork checker × Context × List LogEntry) := do
  let collected ← checker.collect context work.evidence
  return ({ work with evidence := collected.evidence }, collected.context, collected.log)

/-- Make diagnostics of the evidence.  Those made before a failure stay. -/
def diagnose
    (work : CheckerWork checker)
    (context : Context) :
    CheckerWork checker × Option Failure :=
  let diagnosis := checker.diagnose context work.evidence
  let made := diagnosis.findings.map (checker.toDiagnostic context)
  ({ work with diagnostics := work.diagnostics ++ made }, diagnosis.failure)

/-- The diagnostics that are not suppressed. -/
def report (work : CheckerWork checker) (context : Context) : List Diagnostic :=
  context.suppressions.filter work.diagnostics

end CheckerWork

end MissionLint
