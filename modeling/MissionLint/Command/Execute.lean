import MissionLint.Command.Task
import MissionLint.Checker.Run
import MissionLint.EventGraph.Dot

namespace MissionLint

/-!
# Performing commands

A command ends with an exit code: zero, one when a diagnostic is an error, and two
when the command could not be performed.
-/

/-- What a command leaves: its exit code, what it writes, what it logs, and the
last line of the refusal of its arguments. -/
structure Outcome where
  exitCode : Nat
  output : Text := []
  log : List LogEntry := []
  refusal : Option Text := none
  deriving Repr, DecidableEq

namespace RunResults

/-- The exit code of an analysis. -/
def exitCode (results : RunResults) : Nat :=
  if 0 < results.errorCount then 1 else 0

/-- Lines, each ended, when there are diagnostics. -/
def ended (results : RunResults) (lines : Text) : Text :=
  if results.diagnostics.isEmpty then [] else lines ++ "\n"

/-- The results in a form of output. -/
def render (results : RunResults) : OutputForm → Text
  | .document =>
      Data.indented 0 (.list (results.diagnostics.map Diagnostic.toRecordWithId)) ++ "\n"
  | .documentLines => results.ended results.toDocumentLines
  | .lines => results.ended results.toLines
  | .summary => results.ended results.toLines ++ "\n" ++ results.summary ++ "\n"

end RunResults

namespace Settings

/-- Suppress ids everywhere.  Only a list of ids can grow. -/
def suppressing (settings : Settings) (ids : List Text) : Except Failure Settings :=
  match settings.suppressedIds with
  | .list items => .ok { settings with suppressedIds := .list (items ++ ids.map Data.text) }
  | value => .error (.kind (.noAttribute value.kindName "extend"))

end Settings

namespace Command

variable {m : Type → Type} [Monad m]

/-- Where commands log. -/
def origin : Text := "mmscript"

/-- What a command gives when it is performed. -/
structure Result where
  exitCode : Nat
  output : Text

/-- An entry about the progress of a command. -/
def note (message : Text) : List LogEntry :=
  [⟨.info, origin, message⟩]

/-- The settings of a request.  No path, or an empty one, means the defaults. -/
def settingsOf (host : Host m) (request : AnalyzeRequest) : Task m Settings :=
  match request.settings with
  | none => pure {}
  | some [] => pure {}
  | some file => Task.readSettings host file

/-- Analyze a script.  What is not written to a file is output, and the output is taken to
accept every text, also one with surrogates. -/
def analyzeScript (host : Host m) (request : AnalyzeRequest) : Task m Result := do
  let given ← settingsOf host request
  let settings ← Task.settle (given.suppressing request.suppress)
  let script ← Task.readScript host request.input
  let lineCount := script.count ('\n' : CodePoint) + 1
  Task.say (note ("analyzing " ++ request.input.script ++ " (" ++ Text.ofNat lineCount
    ++ " line(s))"))
  let outcome := run .standard settings script request.checkers request.input.script
  Task.say outcome.log
  let results ← Task.settle outcome.result
  let rendered := results.render request.outputForm
  let output ←
    match request.output with
    | none => pure rendered
    | some ['-'] => pure rendered
    | some file => do
        Task.writeFile host file rendered
        pure []
  Task.say (note (Text.ofNat results.errorCount ++ " error(s), "
    ++ Text.ofNat results.warningCount ++ " warning(s)"))
  return ⟨results.exitCode, output⟩

/-- The sizes of a graph as a record. -/
def statisticsText (drawn : EventGraph) : Text :=
  let shown := drawn.statistics.map fun entry =>
    Text.quoted entry.1 ++ ": " ++ Text.ofNat entry.2
  "\x7b" ++ Text.join ", " shown ++ "\x7d"

/-- Draw the event graph of a script. -/
def drawGraph (host : Host m) (request : InputRequest) : Task m Result := do
  let script ← Task.readScript host request
  let outline := Outline.ofScript script
  Task.say [Run.outlineEntry outline]
  let (drawn, _, log) := (Context.ofOutline outline {} request.script).eventGraph
  Task.say log
  Task.say (note ("event graph: " ++ statisticsText drawn))
  return ⟨0, drawn.toDot (some (Path.ofText request.script).name) ++ "\n"⟩

/-- The lines about a checker. -/
def checkerLines (checker : Checker) : Text :=
  let width := 24
  Text.padRight width checker.name ++ " " ++ checker.description ++ "\n"
    ++ Text.padRight width [] ++ " ids: " ++ Text.join ", " (Text.sortedDistinct checker.ids)
    ++ "\n"

/-- Perform a command. -/
def perform (host : Host m) : Command → Task m Result
  | .analyze request => analyzeScript host request
  | .graph request => drawGraph host request
  | .listCheckers => pure ⟨0, Registry.standard.checkers.flatMap checkerLines⟩

/-- The entry for a failure.  One with a code was foreseen. -/
def failureEntry (failure : Failure) : LogEntry :=
  match failure.code? with
  | some _ => ⟨.error, origin, failure.message⟩
  | none => ⟨.error, origin, "Unhandled exception: " ++ failure.message⟩

/-- The least level that is shown. -/
def shownLevel : Nat → LogLevel
  | 0 => .warning
  | 1 => .info
  | _ => .debug

/-- Perform a command and show what it logs. -/
def execute (host : Host m) (verbosity : Nat) (command : Command) : m Outcome := do
  let (result, log) ← (command.perform host).run.run []
  let shown (entries : List LogEntry) : List LogEntry :=
    LogEntry.atLeast (shownLevel verbosity) entries
  match result with
  | .ok result =>
      return { exitCode := result.exitCode, output := result.output, log := shown log }
  | .error failure => return { exitCode := 2, log := shown (log ++ [failureEntry failure]) }

end Command

namespace CommandLine

/-- The version that is shown. -/
def version : Text := "mmscript 0.1.0"

/-- How a program is called. -/
def usage (program : Text) : Text :=
  "usage: " ++ program ++ " [options]"

/-- Do what a command line asks for. -/
def execute {m : Type → Type} [Monad m] (host : Host m) : CommandLine → m Outcome
  | .perform verbosity command => command.execute host verbosity
  | .missingCommand => return { exitCode := 2 }
  | .showVersion => return { exitCode := 0, output := version ++ "\n" }
  | .showHelp program => return { exitCode := 0, output := usage program ++ "\n" }
  | .refused program problem =>
      return { exitCode := 2, refusal := some (program ++ ": error: " ++ problem.message) }

end CommandLine

end MissionLint
