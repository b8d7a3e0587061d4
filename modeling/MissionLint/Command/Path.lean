import MissionLint.Text

namespace MissionLint

/-!
# Paths

A path is a root and the parts below it.  Empty parts and single dots say nothing
and are dropped; double dots stay until the path is resolved.
-/

/-- The slashes at the start of a path, none for a relative one, and its parts. -/
structure Path where
  root : Text
  parts : List Text
  deriving Repr, DecidableEq

namespace Path

/-- Whether a code point separates the parts of a path. -/
def isSlash (c : CodePoint) : Bool :=
  c == '/'

/-- The root of a path.  Exactly two slashes are kept, and any other number of
them is one. -/
def rootOf (text : Text) : Text :=
  match (text.takeWhile isSlash).length with
  | 0 => []
  | 2 => "//"
  | _ => "/"

/-- Read a path. -/
def ofText (text : Text) : Path where
  root := rootOf text
  parts := (text.splitOnP isSlash).filter fun part => !part.isEmpty && part != "."

/-- Write a path.  The path without parts is a dot. -/
def toText (path : Path) : Text :=
  if path.root.isEmpty && path.parts.isEmpty then
    "."
  else
    path.root ++ Text.join "/" path.parts

/-- Whether a path starts at the root. -/
def isAbsolute (path : Path) : Bool :=
  !path.root.isEmpty

/-- The last part of a path. -/
def name (path : Path) : Text :=
  path.parts.getLast?.getD []

/-- The path of the directory that holds a path. -/
def parent (path : Path) : Path :=
  { path with parts := path.parts.dropLast }

/-- Whether a path holds a null character, which no file name does. -/
def holdsNull (path : Path) : Bool :=
  path.parts.any fun part => part.contains (CodePoint.ofNat 0)

/-- The user whose home a path starts with, the empty name being the current
user. -/
def homeUser? (path : Path) : Option Text :=
  match path.root, path.parts with
  | [], ('~' :: user) :: _ => some user
  | _, _ => none

/-- Replace the first part of a path by a home. -/
def atHome (path : Path) (home : Path) : Path :=
  { home with parts := home.parts ++ path.parts.drop 1 }

/-- Follow a part: double dots leave the last part, which the root does not have. -/
def follow (parts : List Text) (part : Text) : List Text :=
  if part == ".." then
    parts.dropLast
  else
    parts ++ [part]

/-- The absolute path without double dots that a path means in a directory. -/
def resolve (path : Path) (directory : Path) : Path where
  root := "/"
  parts :=
    let start := if path.isAbsolute then [] else directory.parts
    path.parts.foldl follow start

end Path

end MissionLint
