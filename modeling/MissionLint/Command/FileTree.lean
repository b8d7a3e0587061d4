import MissionLint.Command.Host
import MissionLint.Table

namespace MissionLint

/-!
# File trees

A file tree holds directories and files by their parts below the root.  Every
directory above an entry is an entry itself, and the root is a directory.
-/

/-- A directory, or a file with its bytes. -/
inductive FileEntry where
  | directory
  | file (bytes : List Nat)
  deriving Repr, DecidableEq

/-- The entries of a tree, and the directory in which relative paths start. -/
structure FileTree where
  entries : Table (List Text) FileEntry
  workingDirectory : List Text
  deriving Repr, DecidableEq

namespace FileTree

/-- What is at a place in the tree. -/
def entryAt? (tree : FileTree) (parts : List Text) : Option FileEntry :=
  if parts.isEmpty then
    some .directory
  else
    tree.entries.find? parts

/-- The longest name of a file, in bytes. -/
def nameLimit : Nat := 255

/-- The longest path, in bytes. -/
def pathLimit : Nat := 4095

/-- The fault of a name or a path that is too long. -/
def tooLong (path : Text) : FileFault :=
  .other 36 "File name too long" path

/-- Follow the parts of a path.  All but the last have to lead to directories,
also those that double dots leave again. -/
def walk
    (tree : FileTree)
    (path : Text)
    (place : List Text) :
    List Text → Except FileFault (List Text)
  | [] => .ok place
  | part :: rest =>
      match tree.entryAt? place with
      | none => .error (.missing path)
      | some (.file _) => .error (.notDirectory path)
      | some .directory =>
          if nameLimit < Utf8.size part then
            .error (tooLong path)
          else
            walk tree path (Path.follow place part) rest

/-- Where a path leads, whether or not there is an entry. -/
def locate (tree : FileTree) (path : Path) : Except FileFault (List Text) :=
  let shown := path.toText
  if pathLimit < Utf8.size shown then
    .error (tooLong shown)
  else
    tree.walk shown (if path.isAbsolute then [] else tree.workingDirectory) path.parts

/-- The bytes of a file. -/
def readBytes (tree : FileTree) (path : Path) : Except FileFault (List Nat) :=
  match tree.locate path with
  | .error fault => .error fault
  | .ok place =>
      match tree.entryAt? place with
      | none => .error (.missing path.toText)
      | some .directory => .error (.isDirectory path.toText)
      | some (.file bytes) => .ok bytes

/-- Give a path an entry. -/
def put (tree : FileTree) (parts : List Text) (entry : FileEntry) : FileTree :=
  { tree with entries := tree.entries.put parts entry }

/-- Make a directory and those above it, from the root down. -/
def makeFrom (shown : Text) (tree : FileTree) (place : List Text) :
    List Text → Except FileFault FileTree
  | [] => .ok tree
  | part :: rest =>
      let next := place ++ [part]
      if nameLimit < Utf8.size part then
        .error (tooLong shown)
      else
        match tree.entryAt? next with
        | some .directory => makeFrom shown tree next rest
        | some (.file _) => .error (if rest.isEmpty then .exists shown else .notDirectory shown)
        | none => makeFrom shown (tree.put next .directory) next rest

/-- Make the directory of an absolute path and those above it. -/
def makeDirectories (tree : FileTree) (path : Path) : Except FileFault FileTree :=
  makeFrom path.toText tree [] path.parts

/-- Write a file, in place of one that is there. -/
def writeBytes (tree : FileTree) (path : Path) (bytes : List Nat) : Except FileFault FileTree :=
  match tree.locate path with
  | .error fault => .error fault
  | .ok place =>
      match tree.entryAt? place with
      | some .directory => .error (.isDirectory path.toText)
      | _ => .ok (tree.put place (.file bytes))

/-- Change the tree, or leave it as it is at a fault. -/
def change
    (step : FileTree → Except FileFault FileTree) :
    StateM FileTree (Except FileFault Unit) := do
  match step (← get) with
  | .error fault => return .error fault
  | .ok tree =>
      set tree
      return .ok ()

/-- A tree as a host.  The current user is at home in the working directory. -/
def host : Host (StateM FileTree) where
  readBytes path := do return (← get).readBytes path
  makeDirectories path := change fun tree => tree.makeDirectories path
  writeBytes path bytes := change fun tree => tree.writeBytes path bytes
  workingDirectory := do return ⟨"/", (← get).workingDirectory⟩
  homeOf user := do
    if user.isEmpty then
      return some ⟨"/", (← get).workingDirectory⟩
    else
      return none

end FileTree

end MissionLint
