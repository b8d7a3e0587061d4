import MissionLint.Checker.Registry
import MissionLint.Settings.Reader
import MissionLint.Section

namespace MissionLint

/-!
# Runs

A run applies checkers to one script.  A checker that fails reports its failure
as a diagnostic, and the run goes on; only settings that cannot be used end it.
-/

/-- The results of a run: each checker that ran, with its diagnostics. -/
structure RunResults where
  reports : List (Text × List Diagnostic)

namespace RunResults

/-- All diagnostics in order. -/
def diagnostics (results : RunResults) : List Diagnostic :=
  results.reports.flatMap Prod.snd

/-- The names of the checkers that ran. -/
def checkerNames (results : RunResults) : List Text :=
  results.reports.map Prod.fst

/-- The diagnostics of the last run of a checker. -/
def byChecker (results : RunResults) (name : Text) : List Diagnostic :=
  (Table.find? results.reports.reverse name).getD []

/-- The diagnostics of a severity. -/
def bySeverity (results : RunResults) (severity : Severity) : List Diagnostic :=
  results.diagnostics.filter fun diagnostic => diagnostic.severity == severity

/-- The diagnostics with an id. -/
def byId (results : RunResults) (id : Text) : List Diagnostic :=
  results.diagnostics.filter fun diagnostic => diagnostic.id == id

/-- The number of diagnostics. -/
def totalCount (results : RunResults) : Nat :=
  results.diagnostics.length

/-- The number of errors. -/
def errorCount (results : RunResults) : Nat :=
  (results.bySeverity .error).length

/-- The number of warnings. -/
def warningCount (results : RunResults) : Nat :=
  (results.bySeverity .warning).length

/-- The diagnostics as records. -/
def toRecords (results : RunResults) : List Data :=
  results.diagnostics.map Diagnostic.toRecord

/-- The diagnostics as documents, one a line. -/
def toDocumentLines (results : RunResults) : Text :=
  Text.join "\n" (results.diagnostics.map Diagnostic.toDocumentLine)

/-- The diagnostics as compilers show theirs, one a line. -/
def toLines (results : RunResults) : Text :=
  Text.join "\n" (results.diagnostics.map Diagnostic.toLine)

/-- How long a checker took.  Runs are functions and have no clock, so each checker
is shown as taking no time. -/
def elapsed : Text := "0.0ms"

/-- The counts of a run and of its checkers. -/
def summary (results : RunResults) : Text :=
  let heading : Text :=
    "Checker run complete: " ++ Text.ofNat results.totalCount ++ " diagnostics ("
      ++ Text.ofNat results.errorCount ++ " errors, " ++ Text.ofNat results.warningCount
      ++ " warnings)"
  let checkerLine (name : Text) : Text :=
    "  " ++ name ++ ": " ++ Text.ofNat (results.byChecker name).length ++ " findings ("
      ++ elapsed ++ ")"
  Text.join "\n" (heading :: results.checkerNames.map checkerLine)

end RunResults

/-- What a run gives: its log, and its results or the failure that ended it. -/
structure RunOutcome where
  log : List LogEntry
  result : Except Failure RunResults

namespace Settings

/-- Whether the settings disable the checker of a name.  A text disables every
name that occurs in it. -/
def disables (settings : Settings) (name : Text) : Except Failure Bool :=
  match settings.disabledCheckers with
  | .text text => .ok (Text.occursIn name text)
  | .list items => .ok ((items.filterMap text?).contains name)
  | .record fields => .ok ((fields.map Prod.fst).contains name)
  | value => .error (.kind (.notSearchable value.kindName))

/-- The ids that the settings suppress everywhere. -/
def suppressedTexts (settings : Settings) : Except Failure (List Text) :=
  match membersOf? settings.suppressedIds with
  | none => .error (.kind (.notIterable settings.suppressedIds.kindName))
  | some members =>
      match members.find? fun member => !isKey member with
      | some member => .error (.kind (.notAKey member.kindName))
      | none => .ok (members.filterMap text?)

end Settings

namespace Run

/-- Where runs log. -/
def origin : Text := "mmscript.checkers"

/-- What collecting an outline says. -/
def outlineEntry (outline : Outline) : LogEntry :=
  ⟨.debug, "mmscript.declarations",
    "collected " ++ Text.ofNat outline.declared.length ++ " variable(s) and "
      ++ Text.ofNat outline.events.length ++ " event block(s)"⟩

/-- The checkers of some names, and what is said about unknown names. -/
def selectNamed (registry : Registry) : List Text → List LogEntry × List Checker
  | [] => ([], [])
  | name :: rest =>
      let (log, checkers) := selectNamed registry rest
      match registry.named? name with
      | some checker => (log, checker :: checkers)
      | none =>
          (⟨.warning, origin, "unknown checker '" ++ name ++ "' ignored"⟩ :: log, checkers)

/-- The checkers that the settings do not disable. -/
def notDisabled (settings : Settings) : List Checker → Except Failure (List Checker)
  | [] => .ok []
  | checker :: rest =>
      match settings.disables checker.name with
      | .error failure => .error failure
      | .ok isDisabled =>
          (notDisabled settings rest).map fun kept =>
            if isDisabled then kept else checker :: kept

/-- The checkers of a run: those of given names, or all that are enabled. -/
def select
    (registry : Registry)
    (settings : Settings) :
    Option (List Text) → List LogEntry × Except Failure (List Checker)
  | some names =>
      let (log, checkers) := selectNamed registry names
      (log, .ok checkers)
  | none => ([], notDisabled settings registry.enabled)

/-- What one checker does in a run: its diagnostics, the context for the next one,
and its log. -/
structure Step where
  diagnostics : List Diagnostic
  context : Context
  log : List LogEntry

/-- What is reported when a checker fails. -/
def failureDiagnostic (context : Context) (checker : Checker) (failure : Failure) : Diagnostic where
  id := "checkerInternalError"
  message := "Checker '" ++ checker.name ++ "' failed: " ++ failure.message
  severity := .warning
  location := ⟨context.file, 0, 0⟩
  checker := checker.name

/-- The step of a checker that failed after saying something. -/
def failedStep
    (checker : Checker)
    (context : Context)
    (log : List LogEntry)
    (failure : Failure) :
    Step where
  diagnostics := [failureDiagnostic context checker failure]
  context := context
  log := log ++ [⟨.error, origin, "checker '" ++ checker.name ++ "' failed"⟩]

/-- Run one checker: it is configured, collects its evidence and diagnoses. -/
def step (context : Context) (checker : Checker) : Step :=
  let configured := (CheckerWork.start checker).configure context
  match configured.collect context with
  | .error failure => failedStep checker context [] failure
  | .ok (collected, context, log) =>
      match collected.diagnose context with
      | (_, some failure) => failedStep checker context log failure
      | (diagnosed, none) => ⟨diagnosed.report context, context, log⟩

/-- What is said after a checker. -/
def stepEntry (checker : Checker) (diagnostics : List Diagnostic) : LogEntry :=
  ⟨.debug, origin,
    checker.name ++ ": " ++ Text.ofNat diagnostics.length ++ " diagnostic(s) in "
      ++ RunResults.elapsed⟩

/-- Run checkers one after another in a shared context. -/
def steps (context : Context) : List Checker → List (Text × List Diagnostic) × List LogEntry
  | [] => ([], [])
  | checker :: rest =>
      let done := step context checker
      let (reports, log) := steps done.context rest
      ((checker.name, done.diagnostics) :: reports,
        done.log ++ [stepEntry checker done.diagnostics] ++ log)

end Run

/-- Run checkers on a script: those of given names, or all that are enabled. -/
def run
    (registry : Registry)
    (settings : Settings)
    (script : Text)
    (names : Option (List Text))
    (file : Text) :
    RunOutcome :=
  let outline := Outline.ofScript script
  let opening := [Run.outlineEntry outline]
  match settings.suppressedTexts with
  | .error failure => ⟨opening, .error failure⟩
  | .ok everywhere =>
      let unsuppressed := Context.ofOutline outline settings file
      let context :=
        { unsuppressed with
          suppressions := everywhere.foldl Suppressions.addEverywhere unsuppressed.suppressions }
      match Run.select registry settings names with
      | (log, .error failure) => ⟨opening ++ log, .error failure⟩
      | (log, .ok checkers) =>
          let (reports, stepLog) := Run.steps context checkers
          ⟨opening ++ log ++ stepLog, .ok ⟨reports⟩⟩

/-- The records of the diagnostics of all enabled standard checkers. -/
def analyzeScript (settings : Settings) (script : Text) : Except Failure (List Data) :=
  (run .standard settings script none "<script>").result.map RunResults.toRecords

/-- The records of the diagnostics for a section. -/
def analyzeSection
    (settings : Settings)
    (script : ScriptSection) :
    Except Failure (List Data) := do
  analyzeScript settings (← script.toScript.mapError .unwritable)

end MissionLint
