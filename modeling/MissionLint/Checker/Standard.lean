import MissionLint.Checker
import MissionLint.Analysis.Lock
import MissionLint.Analysis.Machine
import MissionLint.Analysis.Deadlock

namespace MissionLint

/-!
# The standard checkers

One checker for each analysis, in the order in which they report.
-/

namespace Checker

/-- What a checker says when its analysis has ended. -/
def progress (origin message : Text) : List LogEntry :=
  [⟨.debug, origin, message⟩]

/-- Keep the evidence as it is when there is nothing to configure. -/
def unconfigured {Kept : Type} (_ : Context) (evidence : Kept) : Kept :=
  evidence

/-- The finding that a block repeats an event. -/
def repeatFinding (outline : Outline) (event : Event) : Finding :=
  let firstLine := ((outline.firstEvent? event.name).map Event.start).getD 0
  { id := "duplicateEvent"
    message := "Duplicate event name: " ++ event.name
    line := event.start
    evidence := [("first_line", .number (.integer firstLine))] }

/-- Events with more than one block. -/
def duplicateEvents : Checker where
  name := "duplicate-events"
  label := "DuplicateEventChecker"
  description := "Event names defined more than once"
  ids := ["duplicateEvent"]
  severity := .warning
  Evidence := List Event
  initial := []
  configure := unconfigured
  collect context _ := .ok ⟨context.outline.repeatedEvents, context, []⟩
  diagnose context repeated := ⟨repeated.map (repeatFinding context.outline), none⟩

/-- References to events without a block. -/
def undefinedTargets : Checker where
  name := "event-graph"
  label := "EventGraphChecker"
  description := "Calls and triggers targeting undefined events"
  ids := ["undefinedEventTarget"]
  severity := .warning
  Evidence := List Edge
  initial := []
  configure := unconfigured
  collect context _ :=
    let (graph, context, log) := context.eventGraph
    .ok ⟨graph.undefinedTargets, context, log⟩
  diagnose _ dangling :=
    ⟨dangling.map fun edge =>
      { id := "undefinedEventTarget"
        message :=
          "Event '" ++ edge.source ++ "' references undefined event '" ++ edge.target ++ "' ("
            ++ edge.kind.name ++ ")"
        line := edge.line }, none⟩

/-- The evidence for locks: the locks, and the number of events that may share a
cooldown. -/
structure LockEvidence where
  patterns : List LockPattern
  sharedThreshold : Number

/-- The finding that a variable is a lock. -/
def lockFinding (pattern : LockPattern) : Finding where
  id := "mutexPattern"
  message :=
    "Detected " ++ pattern.kind.label ++ " pattern with variable '" ++ pattern.variableName
      ++ "' - ensure proper synchronization"
  line := pattern.line
  evidence := [
    ("kind", .text pattern.kind.name),
    ("related_events", .list (pattern.relatedEvents.map Data.text))
  ]

/-- The finding that too many events share a cooldown. -/
def sharedCooldownFinding (pattern : LockPattern) : Finding where
  id := "sharedCooldown"
  message :=
    "Variable '" ++ pattern.variableName ++ "' is used as cooldown for "
      ++ Text.ofNat pattern.relatedEvents.length ++ " events - consider separate cooldowns"
  line := pattern.line

/-- Variables used as locks, and cooldowns that too many events share. -/
def locks : Checker where
  name := "mutex-patterns"
  label := "MutexChecker"
  description := "Variables used as locks, flags or cooldowns"
  ids := ["mutexPattern", "sharedCooldown"]
  severity := .warning
  Evidence := LockEvidence
  initial := ⟨[], .integer 3⟩
  configure context evidence :=
    { evidence with sharedThreshold := context.settings.sharedCooldownThreshold }
  collect context evidence := do
    let patterns ← (LockPattern.find context.outline).mapError .numeral
    return ⟨{ evidence with patterns := patterns }, context,
      progress "mmscript.mutex"
        ("found " ++ Text.ofNat patterns.length ++ " mutex pattern(s)")⟩
  diagnose _ evidence :=
    ⟨evidence.patterns.flatMap fun pattern =>
      let isShared :=
        pattern.kind == .globalCooldown &&
          evidence.sharedThreshold.less (.integer pattern.relatedEvents.length)
      lockFinding pattern :: (if isShared then [sharedCooldownFinding pattern] else []), none⟩

/-- The finding that a variable drives a machine. -/
def machineFinding (line : Nat) (machine : StateMachine) : Finding where
  id := "stateMachine"
  message :=
    "Detected state machine with variable '" ++ machine.variableName ++ "' ("
      ++ Text.ofNat machine.states.length ++ " states, "
      ++ Text.ofNat machine.transitions.length ++ " transitions)"
  line := line

/-- A finding about a state of a machine, with a remark. -/
def stateFinding
    (id remark : Text)
    (line : Nat)
    (machine : StateMachine)
    (state : Int) :
    Finding where
  id := id
  message :=
    "State '" ++ machine.nameOf state ++ "' (" ++ Text.ofInt state ++ ") in machine '"
      ++ machine.variableName ++ "'" ++ remark
  line := line

/-- The finding that no transition enters a state. -/
def unreachableFinding : Nat → StateMachine → Int → Finding :=
  stateFinding "unreachableState" " is unreachable"

/-- The finding that no transition leaves a state. -/
def deadEndFinding : Nat → StateMachine → Int → Finding :=
  stateFinding "deadEndState" " has no outgoing transitions"

/-- The line on which the variable of a machine is declared. -/
def machineLine (outline : Outline) (machine : StateMachine) : Nat :=
  ((outline.variableNamed? machine.variableName).map Variable.line).getD 0

/-- The findings about a machine whose variable is declared on a line. -/
def machineFindings (line : Nat) (machine : StateMachine) : List Finding :=
  [machineFinding line machine]
    ++ machine.unreachableStates.map (unreachableFinding line machine)
    ++ machine.deadEndStates.map (deadEndFinding line machine)

/-- State machines, their unreachable states and their dead ends. -/
def stateMachines : Checker where
  name := "state-machines"
  label := "StateMachineChecker"
  description := "State machines built from int variables"
  ids := ["stateMachine", "unreachableState", "deadEndState"]
  severity := .warning
  Evidence := List StateMachine
  initial := []
  configure := unconfigured
  collect context _ := do
    let machines ←
      (StateMachine.find context.outline context.settings.stateNames).mapError .numeral
    return ⟨machines, context,
      progress "mmscript.state_machine"
        ("found " ++ Text.ofNat machines.length ++ " state machine(s)")⟩
  diagnose context machines :=
    ⟨machines.flatMap fun machine =>
      machineFindings (machineLine context.outline machine) machine, none⟩

/-- The findings about the flow of a resource. -/
def flowFindings (flow : ResourceFlow) : List Finding :=
  let line := (flow.sinks.head?.map ResourceAmount.line).getD 0
  let negative : Finding :=
    { id := "negativeResourceBalance"
      message :=
        "Resource '" ++ flow.resource.name ++ "' has negative balance ("
          ++ Text.ofInt flow.balance ++ ") - sources: " ++ Text.ofNat flow.sources.length
          ++ ", sinks: " ++ Text.ofNat flow.sinks.length
      line := line
      evidence := [("balance", .number (.integer flow.balance))] }
  let sourceless : Finding :=
    { id := "resourceWithoutSource"
      message :=
        flow.resource.title ++ " required for objectives but no " ++ flow.resource.name
          ++ " sources found in script"
      line := line }
  (if flow.balance < 0 then [negative] else [])
    ++ (if flow.resource.isCounted && !flow.sinks.isEmpty && flow.sources.isEmpty then
      [sourceless] else [])

/-- Objectives that demand more than the script grants. -/
def resourceFlows : Checker where
  name := "resource-flow"
  label := "ResourceFlowChecker"
  description := "Resource sources versus objective sinks"
  ids := ["negativeResourceBalance", "resourceWithoutSource"]
  severity := .warning
  Evidence := List ResourceFlow
  initial := []
  configure := unconfigured
  collect context _ := do
    let flows ← (ResourceFlow.find context.outline).mapError .numeral
    let balances ← (ResourceFlow.balanceReport flows).mapError .numeral
    return ⟨flows, context, progress "mmscript.resources" ("resource balances: " ++ balances)⟩
  diagnose _ flows := ⟨flows.flatMap flowFindings, none⟩

/-- The findings about the load of a script. -/
def loadFindings (settings : Settings) (metrics : LoadMetrics) : List Finding :=
  let counts := metrics.counts
  let evidence : List (Text × Data) := [("score", .number metrics.score)]
  let heavy : List Finding :=
    match metrics.level with
    | .critical =>
        [{ id := "performanceLoad"
           message :=
            "Script has critical performance load - Events: " ++ Text.ofInt counts.events
              ++ ", Complexity: " ++ Text.ofInt counts.complexity
              ++ ", Timers: " ++ Text.ofInt counts.timers
              ++ ", Spawners: " ++ Text.ofInt counts.spawners
           evidence := evidence }]
    | .high =>
        [{ id := "performanceLoad"
           message := "Script has high performance load - consider optimization"
           evidence := evidence }]
    | _ => []
  heavy ++ (counts.advice settings).map fun hint => { id := "performanceHint", message := hint }

/-- Heavy scripts, and counts above their thresholds. -/
def loads : Checker where
  name := "performance"
  label := "PerformanceChecker"
  description := "Estimated runtime load of the script"
  ids := ["performanceLoad", "performanceHint"]
  severity := .warning
  Evidence := Option LoadMetrics
  initial := none
  configure := unconfigured
  collect context _ := do
    let metrics ← (LoadMetrics.ofOutline context.settings context.outline).mapError .overflow
    let remembering :=
      { context with analyses := { context.analyses with load := some metrics } }
    return ⟨some metrics, remembering, []⟩
  diagnose context metrics :=
    ⟨metrics.toList.flatMap (loadFindings context.settings), none⟩

/-- Events that lead back to themselves. -/
def circularDependencies : Checker where
  name := "circular-dependencies"
  label := "CircularDependencyChecker"
  description := "Cycles in the event graph"
  ids := ["circularDependency"]
  severity := .error
  Evidence := List Cycle
  initial := []
  configure := unconfigured
  collect context _ :=
    let (graph, context, log) := context.eventGraph
    let cycles := graph.cycles
    .ok ⟨cycles, context, log ++ progress "mmscript.cycles"
      ("found " ++ Text.ofNat cycles.length ++ " circular dependenc(ies)")⟩
  diagnose _ cycles :=
    ⟨cycles.map fun cycle =>
      { id := "circularDependency"
        message := "Circular dependency detected: " ++ cycle.describe
        line := cycle.line
        evidence := [("events", .list (cycle.events.map Data.text))] }, none⟩

/-- Events that wait on what the other one holds. -/
def deadlocks : Checker where
  name := "deadlocks"
  label := "DeadlockChecker"
  description := "Mutual waits over shared state"
  ids := ["deadlockRisk"]
  severity := .warning
  Evidence := List DeadlockRisk
  initial := []
  configure := unconfigured
  collect context _ :=
    let risks := DeadlockRisk.find context.outline
    .ok ⟨risks, context, progress "mmscript.deadlock"
      ("found " ++ Text.ofNat risks.length ++ " deadlock risk(s)")⟩
  diagnose _ risks :=
    ⟨risks.map fun risk =>
      { id := "deadlockRisk"
        message :=
          "Potential deadlock between events [" ++ Text.join ", " [risk.first, risk.second]
            ++ "] on resources [" ++ Text.join ", " risk.shared ++ "]"
        line := risk.line
        severity := some (if risk.level == .high then .error else .warning)
        evidence := [("risk_level", .text risk.level.name)] }, none⟩

/-- The standard checkers in the order in which they report. -/
def standard : List Checker := [
  duplicateEvents, undefinedTargets, locks, stateMachines, resourceFlows, loads,
  circularDependencies, deadlocks
]

end Checker

end MissionLint
