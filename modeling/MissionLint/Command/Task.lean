import MissionLint.Command.Host
import MissionLint.Command.Line
import MissionLint.Report.Log
import MissionLint.Section.Reader

namespace MissionLint

/-!
# Tasks

A task is a part of a command: it reaches its host, says what it does, and can
fail.  What it has said before a failure stays said.
-/

/-- A part of a command. -/
abbrev Task (m : Type → Type) := ExceptT Failure (StateT (List LogEntry) m)

namespace Task

variable {m : Type → Type} [Monad m]

/-- Add entries to the log. -/
def say (entries : List LogEntry) : Task m Unit :=
  modify fun log => log ++ entries

/-- Ask the host, which does not fail. -/
def ask (answer : m Value) : Task m Value :=
  liftM (n := Task m) answer

/-- Go on with a result, or fail. -/
def settle (result : Except Failure Value) : Task m Value :=
  match result with
  | .ok value => pure value
  | .error failure => throw failure

/-- A text with every line end written as one character. -/
def joinLineEnds : Text → Text
  | [] => []
  | '\r' :: '\n' :: rest => '\n' :: joinLineEnds rest
  | '\r' :: rest => '\n' :: joinLineEnds rest
  | c :: rest => c :: joinLineEnds rest

/-- The path with its home in place. -/
def expand (host : Host m) (path : Path) : Task m Path := do
  match path.homeUser? with
  | none => return path
  | some user =>
      match ← ask (host.homeOf user) with
      | some home => return path.atHome home
      | none => throw .noHome

/-- The bytes of a file.  The fault of the file system becomes a failure in the
words of the reader. -/
def bytesOf (host : Host m) (path : Path) (unreadable : FileFault → Failure) :
    Task m (List Nat) := do
  if path.holdsNull then
    throw .nullInPath
  settle ((← ask (host.readBytes path)).mapError unreadable)

/-- The text of a file.  A fault of its encoding becomes a failure in the words of
the reader. -/
def textOf
    (host : Host m)
    (path : Path)
    (unreadable : FileFault → Failure)
    (undecodable : Utf8.Fault → Failure) :
    Task m Text := do
  let bytes ← bytesOf host path unreadable
  let text ← settle ((Utf8.decode bytes).mapError undecodable)
  return joinLineEnds text

/-- The document in a text.  A malformed one becomes a failure in the words of the
reader, and one that passes a limit fails as it is. -/
def documentOf (text : Text) (malformed : Data.Fault → Failure) : Task m Data :=
  settle ((Data.parse text).mapError fun fault =>
    match fault with
    | .tooLong _ => .document fault
    | .tooDeep _ => .document fault
    | .malformed _ _ _ _ => malformed fault)

/-- Read a script, or the script of a section. -/
def readScript (host : Host m) (request : InputRequest) : Task m Text := do
  let path ← expand host (Path.ofText request.script)
  let shown := path.toText
  let text ← textOf host path (fun fault => .input (.unreadable shown fault))
    (fun fault => .input (.notUtf8 shown fault))
  match request.inputForm with
  | .script => return text
  | .scriptSection =>
      let document ← documentOf text fun fault => .input (.malformed shown fault)
      let script ← settle (ScriptSection.ofData document)
      settle (script.toScript.mapError .unwritable)

/-- Read settings.  A fault of the encoding fails as it is. -/
def readSettings (host : Host m) (file : Text) : Task m Settings := do
  let path := Path.ofText file
  let shown := path.toText
  say [⟨.debug, "mmscript.config", "loading analyzer config from " ++ shown⟩]
  let text ← textOf host path (fun fault => .settings (.unreadable shown fault)) .encoding
  match ← documentOf text fun fault => .settings (.malformed shown fault) with
  | .record fields => settle (Settings.ofFields fields)
  | _ => throw (.settings (.notARecord shown))

/-- Write a file, and make the directories above it.  A text with a surrogate has
no bytes, and the file stays empty. -/
def writeFile (host : Host m) (file content : Text) : Task m Unit := do
  let path ← expand host (Path.ofText file)
  if path.holdsNull then
    throw .nullInPath
  let resolved := path.resolve (← ask host.workingDirectory)
  settle ((← ask (host.makeDirectories resolved.parent)).mapError .file)
  match Utf8.encode content with
  | .ok bytes => settle ((← ask (host.writeBytes resolved bytes)).mapError .file)
  | .error lone => do
      settle ((← ask (host.writeBytes resolved [])).mapError .file)
      throw (.unencodable lone)

end Task

end MissionLint
