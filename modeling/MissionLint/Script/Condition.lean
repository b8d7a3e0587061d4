import MissionLint.Script.Reader
import MissionLint.Text.WordCharacter

namespace MissionLint

/-!
# Conditions

The condition of a trigger is a sequence of comparisons, connectives, names,
numbers and punctuation.  Of it the analyses use the comparisons, the names that
it reads and the number of its connectives.
-/

/-- How a comparison compares its sides. -/
inductive Operator where
  | equal
  | different
  | atLeast
  | atMost
  | above
  | below
  deriving Repr, DecidableEq

namespace Operator

/-- The spellings of the operators, the longer ones first. -/
def spellings : List (Text × Operator) := [
  ("==", .equal), ("!=", .different), (">=", .atLeast), ("<=", .atMost),
  (">", .above), ("<", .below)
]

/-- The spelling of an operator. -/
def spelling : Operator → Text
  | .equal => "=="
  | .different => "!="
  | .atLeast => ">="
  | .atMost => "<="
  | .above => ">"
  | .below => "<"

/-- Read an operator. -/
def read? : Reader Operator :=
  Reader.word? spellings

end Operator

/-- A comparison of a name with a name or a number. -/
structure Comparison where
  left : Text
  operator : Operator
  right : Text
  deriving Repr, DecidableEq

namespace Comparison

/-- Whether a name is one of the sides. -/
def involves (comparison : Comparison) (name : Text) : Bool :=
  comparison.left == name || comparison.right == name

/-- The side opposite a name. -/
def opposite? (comparison : Comparison) (name : Text) : Option Text :=
  if comparison.left == name then
    some comparison.right
  else if comparison.right == name then
    some comparison.left
  else
    none

/-- Read the right side: a number, which may have a hyphen, or a name. -/
def readRight? : Reader Text := fun text =>
  match Reader.signed? Reader.decimal? text with
  | some result => some result
  | none => Reader.name? text

/-- Read a comparison. -/
def read? : Reader Comparison := fun text => do
  let (left, rest) ← Reader.name? text
  let (operator, rest) ← Operator.read? (Reader.skipIndent rest)
  let (right, rest) ← readRight? (Reader.skipIndent rest)
  return (⟨left, operator, right⟩, rest)

end Comparison

/-- One item of a condition. -/
inductive ConditionItem where
  | compares (comparison : Comparison)
  | connective
  | reads (name : Text)
  | number
  | punctuation
  deriving Repr, DecidableEq

namespace ConditionItem

/-- Read a word in any case, which no word character may follow. -/
def readWord? (word text : Text) : Option Text :=
  if Text.lower (text.take word.length) == word then
    let rest := text.drop word.length
    if rest.head?.any Text.isWordCharacter then none else some rest
  else
    none

/-- Read a connective: `and` or `or`. -/
def readConnective? (text : Text) : Option Text :=
  match readWord? "and" text with
  | some rest => some rest
  | none => readWord? "or" text

/-- Whether a character is punctuation: neither part of a name nor spacing. -/
def isPunctuation (c : CodePoint) : Bool :=
  !Text.isNameChar c && !Text.isSpacing c

/-- Read an item of a condition, of the first kind that fits. -/
def read? : Reader ConditionItem := fun text =>
  match Comparison.read? text with
  | some (comparison, rest) => some (.compares comparison, rest)
  | none =>
      match readConnective? text with
      | some rest => some (.connective, rest)
      | none =>
          match Reader.name? text with
          | some (name, rest) => some (.reads name, rest)
          | none =>
              match Reader.decimal? text with
              | some (_, rest) => some (.number, rest)
              | none =>
                  (Reader.run? isPunctuation text).map fun (_, rest) => (.punctuation, rest)

/-- Read items, each followed by spacing, as long as there are any. -/
def readAll (text : Text) : List ConditionItem × Text :=
  match read? text with
  | none => ([], text)
  | some (item, afterItem) =>
      let rest := Reader.skipSpacing afterItem
      if rest.length < text.length then
        let (items, remaining) := readAll rest
        (item :: items, remaining)
      else
        ([item], rest)
termination_by text.length

/-- The names that an item mentions. -/
def names : ConditionItem → List Text
  | .compares comparison =>
      comparison.left :: (if Text.isName comparison.right then [comparison.right] else [])
  | .reads name => [name]
  | _ => []

/-- The comparison that an item makes. -/
def comparison? : ConditionItem → Option Comparison
  | .compares comparison => some comparison
  | _ => none

end ConditionItem

/-- What a condition mentions. -/
structure Condition where
  comparisons : List Comparison := []
  names : List Text := []
  connectives : Nat := 0
  deriving Repr, DecidableEq

namespace Condition

/-- What a sequence of items mentions. -/
def ofItems (items : List ConditionItem) : Condition where
  comparisons := items.filterMap ConditionItem.comparison?
  names := items.flatMap ConditionItem.names
  connectives := items.count .connective

/-- Read items after spacing. -/
def read? : Reader Condition := fun text =>
  let (items, rest) := ConditionItem.readAll (Reader.skipSpacing text)
  some (ofItems items, rest)

/-- What a text mentions as a condition.  A text that cannot be read to its end
mentions nothing. -/
def ofText (text : Text) : Condition :=
  (Reader.whole? read? text).getD {}

/-- The words of a condition that never name state. -/
def keywords : List Text := [
  "and", "or", "not", "true", "false", "AND", "OR", "NOT", "TRUE", "FALSE"
]

end Condition

end MissionLint
