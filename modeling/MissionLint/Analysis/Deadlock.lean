import MissionLint.Table
import MissionLint.Analysis.Resource

namespace MissionLint

/-!
# Deadlock risks

An event holds the variables and resources that its blocks assign, and waits on
the names that the guards leading to it read.  Two events that hold something in
common are at risk when one waits on what the other holds, and at high risk when
both do.
-/

/-- How likely two events block each other. -/
inductive RiskLevel where
  | medium
  | high
  deriving Repr, DecidableEq

namespace RiskLevel

/-- The name of a level. -/
def name : RiskLevel → Text
  | .medium => "medium"
  | .high => "high"

end RiskLevel

/-- Two events that may block each other: what both hold, in ascending order, and
the line on which the first one opens. -/
structure DeadlockRisk where
  first : Text
  second : Text
  shared : List Text
  level : RiskLevel
  line : Nat
  deriving Repr, DecidableEq

namespace DeadlockRisk

/-- The names whose assignment counts: declared variables and resources. -/
def tracked (outline : Outline) : List Text :=
  outline.declared.map Variable.name ++ Resource.all.map Resource.name

/-- What an event holds: the tracked names that blocks of its name assign. -/
def heldBy (outline : Outline) (name : Text) : List Text :=
  let names := tracked outline
  let assigned := (outline.eventsNamed name).flatMap fun event =>
    event.commands.flatMap fun line => (Assignment.inCode line.code).map Assignment.name
  (assigned.filter fun assignedName => names.contains assignedName).eraseDups

/-- What each event holds. -/
def held (outline : Outline) : List (Text × List Text) :=
  outline.eventNames.map fun name => (name, heldBy outline name)

/-- What a guard reads, keywords apart. -/
def readBy (guard : Trigger) : List Text :=
  (Condition.ofText guard.condition).names.filter fun name => !Condition.keywords.contains name

/-- The guards of a script: the event to which each leads and what it reads. -/
def guardReads (outline : Outline) : List (Text × List Text) :=
  (Outline.guards outline.lines).map fun guard => (guard.target, readBy guard)

/-- What an event waits on: the names that the guards leading to it read. -/
def waitedBy (reads : List (Text × List Text)) (name : Text) : List Text :=
  ((reads.filter fun guard => guard.1 == name).flatMap Prod.snd).eraseDups

/-- What each guarded event waits on, in the order in which guards lead to them. -/
def waits (outline : Outline) : List (Text × List Text) :=
  let reads := guardReads outline
  (reads.map Prod.fst).eraseDups.map fun name => (name, waitedBy reads name)

/-- Whether two lists have a common member. -/
def meets (left right : List Text) : Bool :=
  left.any fun name => right.contains name

/-- The level of the risk between two events, given what both hold and wait on. -/
def levelOf? (firstHeld secondHeld firstWaits secondWaits : List Text) : Option RiskLevel :=
  if !meets firstHeld secondHeld then
    none
  else if meets firstWaits secondHeld && meets secondWaits firstHeld then
    some .high
  else if meets firstWaits secondHeld || meets secondWaits firstHeld then
    some .medium
  else
    none

/-- The pairs of a list, each with its earlier member first. -/
def pairs : List Text → List (Text × Text)
  | [] => []
  | first :: rest => rest.map (fun second => (first, second)) ++ pairs rest

/-- The risks of a script, in the order of its events. -/
def find (outline : Outline) : List DeadlockRisk :=
  let heldTable := held outline
  let waitTable := waits outline
  let heldOf (name : Text) : List Text := (Table.find? heldTable name).getD []
  let waitsOf (name : Text) : List Text := (Table.find? waitTable name).getD []
  let lineOf (name : Text) : Nat := ((outline.firstEvent? name).map Event.start).getD 0
  (pairs outline.eventNames).filterMap fun (first, second) =>
    let level? := levelOf? (heldOf first) (heldOf second) (waitsOf first) (waitsOf second)
    let shared := (heldOf first).filter fun name => (heldOf second).contains name
    level?.map fun level => ⟨first, second, Text.sortedDistinct shared, level, lineOf first⟩

end DeadlockRisk

end MissionLint
