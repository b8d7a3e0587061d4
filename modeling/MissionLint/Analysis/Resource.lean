import MissionLint.Script.Outline
import MissionLint.Script.Condition

namespace MissionLint

/-!
# Resource flows

Crystals, ore and studs are granted by assignments and demanded by comparisons
where an objective is mentioned; air is granted by oxygen levels.  A resource's
balance is the sum of what is granted less the sum of what is demanded.
-/

/-- A resource of the game. -/
inductive Resource where
  | crystals
  | ore
  | studs
  | air
  deriving Repr, DecidableEq

namespace Resource

/-- All resources in the order in which they are reported. -/
def all : List Resource :=
  [.crystals, .ore, .studs, .air]

/-- The name of a resource. -/
def name : Resource → Text
  | .crystals => "crystals"
  | .ore => "ore"
  | .studs => "studs"
  | .air => "air"

/-- The name of a resource at the start of a sentence. -/
def title : Resource → Text
  | .crystals => "Crystals"
  | .ore => "Ore"
  | .studs => "Studs"
  | .air => "Air"

/-- Whether a resource is counted by assignments and comparisons. -/
def isCounted (resource : Resource) : Bool :=
  resource != .air

/-- The counted resource of a name. -/
def counted? (name : Text) : Option Resource :=
  all.find? fun resource => resource.isCounted && resource.name == name

end Resource

/-- An amount of a resource, with its line and the event whose block has it. -/
structure ResourceAmount where
  amount : Int
  line : Nat
  event : Option Text
  deriving Repr, DecidableEq

/-- Where a resource is granted and where it is demanded. -/
structure ResourceFlow where
  resource : Resource
  sources : List ResourceAmount
  sinks : List ResourceAmount
  deriving Repr, DecidableEq

namespace ResourceFlow

/-- The sum of some amounts. -/
def total (amounts : List ResourceAmount) : Int :=
  (amounts.map ResourceAmount.amount).foldr (· + ·) 0

/-- What is granted in all. -/
def totalSources (flow : ResourceFlow) : Int :=
  total flow.sources

/-- What is demanded in all. -/
def totalSinks (flow : ResourceFlow) : Int :=
  total flow.sinks

/-- What is granted less what is demanded. -/
def balance (flow : ResourceFlow) : Int :=
  flow.totalSources - flow.totalSinks

/-- Whether an amount is granted or demanded. -/
inductive Side where
  | source
  | sink
  deriving Repr, DecidableEq

/-- An amount of a resource on one of the sides. -/
structure Entry where
  resource : Resource
  side : Side
  amount : ResourceAmount
  deriving Repr, DecidableEq

/-- Whether a text mentions an objective, in any case. -/
def mentionsObjective (text : Text) : Bool :=
  Text.occursIn "objective" (Text.lower text)

/-- Whether an event's name or one of its command lines mentions an objective. -/
def isObjective (event : Event) : Bool :=
  mentionsObjective event.name || event.commands.any fun line => mentionsObjective line.code

/-- The amounts, as written, that a line grants. -/
def grantedOn (code : Text) : List (Resource × Text) :=
  (Assignment.inCode code).filterMap fun assignment =>
    (Resource.counted? assignment.name).map fun resource => (resource, assignment.value)

/-- The amounts, as written, that a line demands when it belongs to an objective. -/
def demandedOn (code : Text) : List (Resource × Text) :=
  (Condition.ofText code).comparisons.filterMap fun comparison =>
    if comparison.operator == .atLeast then
      (Resource.counted? comparison.left).map fun resource => (resource, comparison.right)
    else
      none

/-- The amounts, as written, that a line demands: none when it belongs to no
objective. -/
def demandedBy (outline : Outline) (line : Line) : List (Resource × Text) :=
  if mentionsObjective line.code || (outline.eventAt? line.number).any isObjective then
    demandedOn line.code
  else
    []

/-- What a line grants and demands. -/
def entriesOn (outline : Outline) (line : Line) : Except NumeralFault (List Entry) :=
  if line.isBlank then
    .ok []
  else do
    let owner := outline.eventAt? line.number
    let amountOf (value : Int) : ResourceAmount := ⟨value, line.number, owner.map Event.name⟩
    let granted ← IntegerLiteral.integersOf (grantedOn line.code)
    let demanded ← IntegerLiteral.integersOf (demandedBy outline line)
    let oxygen ← OxygenLevel.inCode? line.code
    return granted.map (fun (resource, value) => ⟨resource, .source, amountOf value⟩)
      ++ demanded.map (fun (resource, value) => ⟨resource, .sink, amountOf value⟩)
      ++ oxygen.toList.map fun (current, _) => ⟨.air, .source, amountOf current⟩

/-- The flow of a resource among entries. -/
def ofEntries (entries : List Entry) (resource : Resource) : ResourceFlow :=
  let onSide (side : Side) : List ResourceAmount :=
    (entries.filter fun entry => entry.resource == resource && entry.side == side).map
      Entry.amount
  ⟨resource, onSide .source, onSide .sink⟩

/-- The balances of all resources on one line. -/
def balanceReport (flows : List ResourceFlow) : Except NumeralFault Text := do
  let parts ← flows.mapM fun flow => do
    return flow.resource.name ++ "=" ++ (← (Numeral.writeInteger flow.balance).mapError .tooLong)
  return Text.join ", " parts

/-- The flows of all resources.  Each balance has to fit the limit on integer
texts. -/
def find (outline : Outline) : Except NumeralFault (List ResourceFlow) := do
  let entries ← outline.lines.mapM (entriesOn outline)
  let flows := Resource.all.map (ofEntries entries.flatten)
  let _ ← balanceReport flows
  return flows

end ResourceFlow

end MissionLint
