import MissionLint.Script.Outline
import MissionLint.Script.Condition

namespace MissionLint

/-!
# Locks built from variables

The script language has no locks, so authors build them from variables.  Three
idioms are known.  A global cooldown is a variable that some line increments by
itself and some trigger compares with `time`.  A one-time event is a flag that
starts false, is set to true, never to false, and is compared with false by a
trigger.  An exclusive state is an integer that takes at least three values.  A
variable is reported once, under the first idiom that it follows.
-/

/-- The idiom of a lock. -/
inductive LockKind where
  | globalCooldown
  | oneTimeEvent
  | exclusiveState
  deriving Repr, DecidableEq

namespace LockKind

/-- The name of an idiom. -/
def name : LockKind → Text
  | .globalCooldown => "global_cooldown"
  | .oneTimeEvent => "one_time_event"
  | .exclusiveState => "exclusive_state"

/-- The name of an idiom in words. -/
def label (kind : LockKind) : Text :=
  Text.replaced '_' ' ' kind.name

end LockKind

/-- A variable used as a lock: the line that is reported, and the events whose
blocks mention the variable. -/
structure LockPattern where
  variableName : Text
  line : Nat
  kind : LockKind
  relatedEvents : List Text
  deriving Repr, DecidableEq

namespace LockPattern

/-- A variable that follows an idiom, with the line to report. -/
structure Candidate where
  name : Text
  line : Nat
  deriving Repr, DecidableEq

/-- The comparisons in the triggers of a line. -/
def comparisonsOn (line : Line) : List Comparison :=
  (Trigger.inCode line.code).flatMap fun trigger =>
    (Condition.ofText trigger.condition).comparisons

/-- The names to which a line assigns an increment of themselves. -/
def incrementedOn (line : Line) : Except NumeralFault (List Text) := do
  let read ← (Assignment.inCode line.code).mapM fun assignment => do
    let increment ← Increment.ofValue? assignment.value
    return (increment.map Prod.fst).filter (· == assignment.name)
  return read.filterMap id

/-- The side that a comparison bounds by `time`. -/
def timedSide? (comparison : Comparison) : Option Text :=
  if comparison.operator == .atMost || comparison.operator == .atLeast then
    if comparison.right == "time" then
      some comparison.left
    else if comparison.left == "time" then
      some comparison.right
    else
      none
  else
    none

/-- The names that the triggers of a line compare with `time`. -/
def timedOn (line : Line) : List Candidate :=
  (comparisonsOn line).filterMap fun comparison =>
    (timedSide? comparison).map fun name => ⟨name, line.number⟩

/-- The first candidate of each name. -/
def firstOfName (candidates : List Candidate) : List Candidate :=
  candidates.eraseDupsBy fun left right => left.name == right.name

/-- The variables that follow the cooldown idiom, with the first line that
compares them with `time`. -/
def cooldowns (outline : Outline) : Except NumeralFault (List Candidate) := do
  let incremented ← outline.lines.mapM incrementedOn
  return (firstOfName (outline.lines.flatMap timedOn)).filter fun candidate =>
    incremented.flatten.contains candidate.name

/-- Whether a line assigns a truth value, in any case, to a name. -/
def assignsWord (name word : Text) (line : Line) : Bool :=
  (Assignment.inCode line.code).any fun assignment =>
    assignment.name == name && Text.lower assignment.value == word

/-- Whether a trigger of a line compares a name with false. -/
def comparesWithFalse (name : Text) (line : Line) : Bool :=
  (comparisonsOn line).any fun comparison =>
    comparison.operator == .equal &&
      (comparison.opposite? name).any fun other => Text.lower other == "false"

/-- The variables that follow the idiom of an event that happens once, with the
lines that declare them. -/
def oneTimeEvents (outline : Outline) : List Candidate :=
  let flags := (outline.variablesOfType .bool).filter fun declared => declared.initial.isFalse
  let follows (name : Text) : Bool :=
    outline.lines.any (assignsWord name "true") &&
      outline.lines.any (comparesWithFalse name) &&
      !outline.lines.any (assignsWord name "false")
  (flags.filter fun declared => follows declared.name).map fun declared =>
    ⟨declared.name, declared.line⟩

/-- The values that a line assigns to some names or compares with them, as
written: first the assignments, then the triggers. -/
def valuesOn (names : List Text) (line : Line) : List (Text × Text) :=
  let assigned :=
    (Assignment.inCode line.code).filterMap fun assignment =>
      if names.contains assignment.name then some (assignment.name, assignment.value) else none
  let compared :=
    (comparisonsOn line).flatMap fun comparison =>
      if comparison.operator == .equal then
        names.filterMap fun name => (comparison.opposite? name).map fun other => (name, other)
      else
        []
  assigned ++ compared

/-- The variables that follow the exclusive state idiom, with the lines that
declare them. -/
def exclusiveStates (outline : Outline) : Except NumeralFault (List Candidate) := do
  let integers := outline.variablesOfType .int
  let names := integers.map Variable.name
  let seen ← IntegerLiteral.integersOf (outline.lines.flatMap (valuesOn names))
  let valuesOf (name : Text) : List Int :=
    (seen.filterMap fun (other, value) => if other == name then some value else none).eraseDups
  return (integers.filter fun declared => 3 ≤ (valuesOf declared.name).length).map
    fun declared => ⟨declared.name, declared.line⟩

/-- Patterns are ordered by line and then by name. -/
def ordered (left right : LockPattern) : Bool :=
  left.line < right.line ||
    (left.line == right.line && Text.ordered left.variableName right.variableName)

/-- The locks of a script.  All increments are read before the values of exclusive
states. -/
def find (outline : Outline) : Except NumeralFault (List LockPattern) := do
  let cooling ← cooldowns outline
  let exclusive ← exclusiveStates outline
  let ofKind (kind : LockKind) (candidates : List Candidate) : List LockPattern :=
    candidates.map fun candidate =>
      ⟨candidate.name, candidate.line, kind, outline.eventsMentioning candidate.name⟩
  let patterns :=
    ofKind .globalCooldown cooling
      ++ ofKind .oneTimeEvent (oneTimeEvents outline)
      ++ ofKind .exclusiveState exclusive
  let chosen :=
    patterns.eraseDupsBy fun left right => left.variableName == right.variableName
  return chosen.mergeSort ordered

end LockPattern

end MissionLint
