import MissionLint.Script.Reader

namespace MissionLint

/-!
# Occurrences

A shape can occur anywhere in a line, but only from a boundary on: a character
that can start a name and does not continue one.  Occurrences are found from
left to right and do not overlap.  The search goes on where an occurrence ends,
and after an empty one on the next character.
-/

/-- An occurrence in a text: where it starts, how many characters it has and what
was read there. -/
structure Occurrence (Value : Type) where
  start : Nat
  width : Nat
  value : Value
  deriving Repr, DecidableEq

namespace Occurrence

/-- The position after an occurrence. -/
def stop (occurrence : Occurrence Value) : Nat :=
  occurrence.start + occurrence.width

/-- The column of an occurrence.  The first one is column one. -/
def column (occurrence : Occurrence Value) : Nat :=
  occurrence.start + 1

/-- Whether an occurrence may start on a character after another one. -/
def isBoundary (before : Option CodePoint) (c : CodePoint) : Bool :=
  Text.isNameStart c && !before.any Text.isNameChar

/-- The occurrences in the rest of a text, which starts at a position and follows
a character. -/
def searchFrom
    (read? : Reader Value)
    (before : Option CodePoint)
    (position : Nat)
    (text : Text) :
    List (Occurrence Value) :=
  match text with
  | [] => []
  | c :: rest =>
      if isBoundary before c then
        match read? (c :: rest) with
        | some (value, remaining) =>
            let width := (c :: rest).length - remaining.length
            let step := width - 1
            ⟨position, width, value⟩ ::
              searchFrom read? (c :: rest)[step]? (position + step + 1) (rest.drop step)
        | none => searchFrom read? (some c) (position + 1) rest
      else
        searchFrom read? (some c) (position + 1) rest
termination_by text.length
decreasing_by
  all_goals simp only [List.length_drop, List.length_cons]
  all_goals omega

/-- What a reader finds in a text, with the places. -/
def search (read? : Reader Value) (text : Text) : List (Occurrence Value) :=
  searchFrom read? none 0 text

/-- What occurs in a text. -/
def values (read? : Reader Value) (text : Text) : List Value :=
  (search read? text).map Occurrence.value

end Occurrence

end MissionLint
