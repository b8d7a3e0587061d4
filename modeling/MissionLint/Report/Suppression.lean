import MissionLint.Script.Line
import MissionLint.Report.Diagnostic

namespace MissionLint

/-!
# Suppressions

A diagnostic is suppressed when its id, or `*`, is suppressed everywhere, or by a
comment on its line or on the line above it.
-/

/-- The ids that comments suppress, by line, and the ids that are suppressed
everywhere. -/
structure Suppressions where
  inline : List (Nat × List Text) := []
  everywhere : List Text := []
  deriving Repr, DecidableEq

namespace Suppressions

/-- What a comment starts with to suppress ids. -/
def marker : Text := "mmscript-suppress"

/-- The ids that a comment suppresses: those that follow the marker, with commas
or blanks between them, or all when none follows. -/
def idsOf? (comment : Text) : Option (List Text) :=
  if marker.isPrefixOf comment then
    let rest := Text.replaced ',' ' ' (comment.drop marker.length)
    match Text.words rest with
    | [] => some ["*"]
    | ids => some ids
  else
    none

/-- Add the suppressions in the comments of some lines. -/
def loadInline (suppressions : Suppressions) (lines : List Line) : Suppressions :=
  let loaded := lines.filterMap fun line =>
    (idsOf? (line.comment.getD [])).map fun ids => (line.number, ids)
  { suppressions with inline := suppressions.inline ++ loaded }

/-- Suppress an id on all lines. -/
def addEverywhere (suppressions : Suppressions) (id : Text) : Suppressions :=
  { suppressions with everywhere := suppressions.everywhere ++ [id] }

/-- Whether ids cover an id, by itself or by a star. -/
def covers (ids : List Text) (id : Text) : Bool :=
  ids.contains id || ids.contains "*"

/-- Whether a comment on a line covers an id. -/
def coversOn (suppressions : Suppressions) (line : Int) (id : Text) : Bool :=
  suppressions.inline.any fun entry => (entry.1 : Int) == line && covers entry.2 id

/-- Whether an id is suppressed on a line: everywhere, or by a comment on this line or the one
before. -/
def suppresses (suppressions : Suppressions) (id : Text) (line : Int) : Bool :=
  covers suppressions.everywhere id ||
    (0 < line &&
      (suppressions.coversOn line id || suppressions.coversOn (line - 1) id))

/-- The diagnostics that are not suppressed. -/
def filter (suppressions : Suppressions) (diagnostics : List Diagnostic) : List Diagnostic :=
  diagnostics.filter fun diagnostic =>
    !suppressions.suppresses diagnostic.id diagnostic.location.line

end Suppressions

end MissionLint
