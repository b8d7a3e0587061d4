import MissionLint.Command.Execute

namespace MissionLint

/-!
# The program

The file system as a host, and the entry point.
-/

/-- The string of a text.  A string has no surrogates, so the replacement
character stands for each. -/
def shownAs (text : Text) : String :=
  String.ofList (text.map fun point =>
    match point with
    | .character c => c
    | .surrogate _ => Char.ofNat 0xfffd)

namespace FileSystem

/-- The number of an error, which some operations report negated. -/
def errorNumber (code : UInt32) : UInt32 :=
  min code (0 - code)

/-- The fault behind an error of the file system. -/
def faultOf (path : Text) (error : IO.Error) : FileFault :=
  match error with
  | .noFileOrDirectory _ _ _ => .missing path
  | .alreadyExists _ _ _ => .exists path
  | .inappropriateType _ code _ =>
      if errorNumber code == 20 then .notDirectory path else .isDirectory path
  | _ => .other 5 (Text.ofString (toString error)) path

/-- Act on a path, and report a fault of the file system under the path that is
shown. -/
def attemptAs (shown path : Path) (action : String → IO Value) :
    IO (Except FileFault Value) := do
  try
    return .ok (← action (shownAs path.toText))
  catch error =>
    return .error (faultOf shown.toText error)

/-- Act on a path, and report a fault of the file system. -/
def attempt (path : Path) (action : String → IO Value) : IO (Except FileFault Value) :=
  attemptAs path path action

/-- A path and the directories above it, from the root down. -/
def fromRoot (path : Path) : List Path :=
  (List.range path.parts.length).map fun above =>
    { path with parts := path.parts.take (above + 1) }

/-- Make a directory and those above it.  What is there already has to be a
directory. -/
def makeDirectories (path : Path) : IO (Except FileFault Unit) := do
  for directory in fromRoot path do
    match ← attemptAs path directory fun file => IO.FS.createDir file with
    | .ok _ => pure ()
    | .error (.exists _) => pure ()
    | .error fault => return .error fault
  match ← attempt path fun file => IO.FS.realPath (file ++ "/.") with
  | .ok _ => return .ok ()
  | .error _ => return .error (.exists path.toText)

/-- The files of the computer. -/
def host : Host IO where
  readBytes path := attempt path fun file => do
    return (← IO.FS.readBinFile file).toList.map UInt8.toNat
  makeDirectories := makeDirectories
  writeBytes path bytes := attempt path fun file =>
    IO.FS.writeBinFile file ⟨(bytes.map UInt8.ofNat).toArray⟩
  workingDirectory := do
    return Path.ofText (Text.ofString (← IO.currentDir).toString)
  homeOf user := do
    if user.isEmpty then
      return (← IO.getEnv "HOME").map fun home => Path.ofText (Text.ofString home)
    else
      return none

end FileSystem

/-- A log entry as it is printed. -/
def LogEntry.toLine (entry : LogEntry) : Text :=
  "[" ++ entry.level.shortName ++ "] " ++ entry.origin ++ ": " ++ entry.message

end MissionLint

open MissionLint in
/-- Do what the arguments ask for. -/
def main (arguments : List String) : IO UInt32 := do
  let line := CommandLine.read (arguments.map Text.ofString)
  let outcome ← line.execute FileSystem.host
  for entry in outcome.log do
    IO.eprintln (shownAs entry.toLine)
  for refusal in outcome.refusal do
    IO.eprintln (shownAs refusal)
  IO.print (shownAs outcome.output)
  return UInt32.ofNat outcome.exitCode
