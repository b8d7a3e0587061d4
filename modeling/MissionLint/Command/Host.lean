import MissionLint.Command.Path
import MissionLint.Failure

namespace MissionLint

/-!
# Hosts

Commands reach files only through a host.  A host can be the file system or a tree
of files in memory, so that what a command does is a function of the tree.
-/

/-- What a command needs from its surroundings.  Directories are made with those
above them. -/
structure Host (m : Type → Type) where
  readBytes : Path → m (Except FileFault (List Nat))
  makeDirectories : Path → m (Except FileFault Unit)
  writeBytes : Path → List Nat → m (Except FileFault Unit)
  workingDirectory : m Path
  homeOf : Text → m (Option Path)

end MissionLint
