import MissionLint.Command.Argument

namespace MissionLint

/-!
# Command lines

There are three commands: to analyze a script, to draw its event graph and to
list the checkers.
-/

/-- The form of an input: script text or a script section. -/
inductive InputForm where
  | script
  | scriptSection
  deriving Repr, DecidableEq

namespace InputForm

/-- The name of a form of input. -/
def name : InputForm → Text
  | .script => "text"
  | .scriptSection => "json"

def all : List InputForm := [.script, .scriptSection]

/-- The form of input with a name. -/
def ofName? (name : Text) : Option InputForm :=
  all.find? fun form => form.name == name

end InputForm

/-- The form in which diagnostics are shown. -/
inductive OutputForm where
  | lines
  | document
  | documentLines
  | summary
  deriving Repr, DecidableEq

namespace OutputForm

/-- The name of a form of output. -/
def name : OutputForm → Text
  | .lines => "gcc"
  | .document => "json"
  | .documentLines => "jsonl"
  | .summary => "summary"

def all : List OutputForm := [.lines, .document, .documentLines, .summary]

/-- The form of output with a name. -/
def ofName? (name : Text) : Option OutputForm :=
  all.find? fun form => form.name == name

end OutputForm

/-- A script to read. -/
structure InputRequest where
  script : Text := []
  inputForm : InputForm := .script
  deriving Repr, DecidableEq

/-- A script to analyze, and how. -/
structure AnalyzeRequest where
  input : InputRequest := {}
  outputForm : OutputForm := .lines
  output : Option Text := none
  settings : Option Text := none
  checkers : Option (List Text) := none
  suppress : List Text := []
  deriving Repr, DecidableEq

/-- A command. -/
inductive Command where
  | analyze (request : AnalyzeRequest)
  | graph (request : InputRequest)
  | listCheckers
  deriving Repr, DecidableEq

namespace InputRequest

/-- Change a request by something that was taken. -/
def apply (request : InputRequest) : Taken → InputRequest
  | .operands (script :: _) => { request with script := script }
  | .option .inputForm (name :: _) =>
      { request with inputForm := (InputForm.ofName? name).getD request.inputForm }
  | _ => request

end InputRequest

namespace AnalyzeRequest

/-- Change a request by something that was taken.  The last use of an option
counts. -/
def apply (request : AnalyzeRequest) : Taken → AnalyzeRequest
  | .option .outputForm (name :: _) =>
      { request with outputForm := (OutputForm.ofName? name).getD request.outputForm }
  | .option .output (path :: _) => { request with output := some path }
  | .option .settings (path :: _) => { request with settings := some path }
  | .option .checkers names => { request with checkers := some names }
  | .option .suppress ids => { request with suppress := ids }
  | taken => { request with input := request.input.apply taken }

end AnalyzeRequest

/-- The kinds of commands. -/
inductive CommandWord where
  | analyze
  | graph
  | listCheckers
  deriving Repr, DecidableEq

namespace CommandWord

/-- The words of the commands; one of them has two. -/
def spellings : List (Text × CommandWord) := [
  ("analyze", .analyze), ("analyse", .analyze), ("graph", .graph),
  ("list-checkers", .listCheckers)
]

/-- The option that asks for help. -/
def helpRule : OptionRule := ⟨.help, ["-h", "--help"], .flag, []⟩

/-- The option that gives the form of the input. -/
def inputFormRule : OptionRule :=
  ⟨.inputForm, ["--input-format"], .one, InputForm.all.map InputForm.name⟩

/-- The rules for the arguments of a command. -/
def rules : CommandWord → ArgumentRules
  | .analyze => {
      program := "mmscript analyze"
      options := [
        helpRule, inputFormRule,
        ⟨.outputForm, ["-f", "--format"], .one, OutputForm.all.map OutputForm.name⟩,
        ⟨.output, ["-o", "--output"], .one, []⟩,
        ⟨.settings, ["-c", "--config"], .one, []⟩,
        ⟨.checkers, ["--checkers"], .several, []⟩,
        ⟨.suppress, ["--suppress"], .several, []⟩
      ]
      operand := .one "FILE" }
  | .graph => {
      program := "mmscript graph"
      options := [helpRule, inputFormRule]
      operand := .one "FILE" }
  | .listCheckers => {
      program := "mmscript list-checkers"
      options := [helpRule]
      operand := .nothing }

/-- The command that was asked for. -/
def command (word : CommandWord) (taken : List Taken) : Command :=
  match word with
  | .analyze => .analyze (taken.foldl AnalyzeRequest.apply {})
  | .graph => .graph (taken.foldl InputRequest.apply {})
  | .listCheckers => .listCheckers

end CommandWord

/-- What a command line asks for. -/
inductive CommandLine where
  | perform (verbosity : Nat) (command : Command)
  | missingCommand
  | showVersion
  | showHelp (program : Text)
  | refused (program : Text) (problem : UsageProblem)
  deriving Repr, DecidableEq

namespace CommandLine

/-- The arguments before a command. -/
def rules : ArgumentRules where
  program := "mmscript"
  options := [
    CommandWord.helpRule,
    ⟨.version, ["--version"], .flag, []⟩,
    ⟨.verbose, ["-v", "--verbose"], .flag, []⟩
  ]
  operand := .command "<command>" (CommandWord.spellings.map Prod.fst)

/-- The first request to show something instead of performing a command. -/
def shown? (program : Text) : List Taken → Option CommandLine
  | [] => none
  | .option .help _ :: _ => some (.showHelp program)
  | .option .version _ :: _ => some .showVersion
  | _ :: rest => shown? program rest

/-- What was asked for by arguments that may end early: what is to be shown, the
problem, or what they give. -/
def settle
    (rules : ArgumentRules)
    (parsed : Parsed) :
    Except CommandLine (List Taken × List Text) :=
  match shown? rules.program parsed.taken, parsed.problem with
  | some line, _ => .error line
  | none, some problem => .error (.refused rules.program problem)
  | none, none => .ok (parsed.taken, parsed.extras)

/-- The operands that were taken. -/
def operandsIn (taken : List Taken) : List Text :=
  taken.flatMap fun item =>
    match item with
    | .operands values => values
    | .option _ _ => []

/-- How often a switch was taken. -/
def countOf (switch : Switch) (taken : List Taken) : Nat :=
  taken.countP fun item =>
    match item with
    | .option other _ => other == switch
    | .operands _ => false

/-- Read the command whose word comes first, with the arguments nobody takes. -/
def readCommand (arguments : List Text) :
    Except CommandLine (Option Command × List Text) :=
  match arguments with
  | [] => .ok (none, [])
  | spelling :: rest =>
      match CommandWord.spellings.lookup spelling with
      | none => .ok (none, [])
      | some word => do
          let (taken, extras) ← settle word.rules (word.rules.parse rest)
          return (some (word.command taken), extras)

/-- Read a command line, or find what it asks for instead of a command. -/
def readFully (arguments : List Text) : Except CommandLine CommandLine := do
  let (taken, extras) ← settle rules (rules.parse arguments)
  let (command?, commandExtras) ← readCommand (operandsIn taken)
  if !(extras ++ commandExtras).isEmpty then
    throw (.refused rules.program (.unrecognized (extras ++ commandExtras)))
  match command? with
  | none => return .missingCommand
  | some command => return .perform (countOf .verbose taken) command

/-- What the arguments ask for. -/
def read (arguments : List Text) : CommandLine :=
  match readFully arguments with
  | .ok line => line
  | .error line => line

end CommandLine

end MissionLint
