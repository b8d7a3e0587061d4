import MissionLint.Proofs.EventGraph.Search

namespace MissionLint

/-!
# The search as a recursion

The search for cycles follows a stack of events, each with the path that led to it.  The
same search can be written as a recursion that visits an event and then, on the longer
path, all that it leads to.  The rounds in which the loop works off some entries of its
stack do what the visits of these entries do, and they leave the entries below as they
are.  So the loop comes to an end for every start, and it reports the cycles of the
recursion in the same order.
-/

/-! ## The recursion -/

/-- The visited events and the reported cycles of a search. -/
structure Visits where
  visited : List Text
  reported : List Cycle

namespace Visits

/-- Report a cycle unless one with the same members is reported. -/
def report (visits : Visits) (cycle : Cycle) : Visits :=
  if (visits.reported.map Cycle.members).contains cycle.members then
    visits
  else
    { visits with reported := visits.reported ++ [cycle] }

/-- Mark an event as visited. -/
def mark (visits : Visits) (event : Text) : Visits :=
  { visits with visited := event :: visits.visited }

end Visits

namespace EventGraph

/-- The order in which events are visited does not matter for those that are not. -/
theorem unvisited_append_singleton
    (graph : EventGraph)
    (path : List Text)
    (event : Text) :
    graph.unvisited (path ++ [event]) = graph.unvisited (event :: path) := by
  unfold unvisited
  apply List.filter_congr
  intro name _
  simp [or_comm]

/-- Visit an event on the path that led to it: an event on its path closes a cycle, a
visited event is passed over, and any other event is marked before all that it leads to is
visited.  A path has no repeats, so there are fewer and fewer nodes off the path. -/
def visit
    (graph : EventGraph)
    (path : List Text)
    (event : Text)
    (visits : Visits) :
    Visits :=
  if path.contains event then
    visits.report (Cycle.closing graph path event)
  else if visits.visited.contains event then
    visits
  else
    (graph.successors event).attach.foldl
      (fun visits next => visit graph (path ++ [event]) next.1 visits) (visits.mark event)
termination_by (graph.unvisited path).length
decreasing_by
  have isNode : event ∈ graph.links.keys :=
    mem_keys_of_successors_ne_nil graph event (List.ne_nil_of_mem next.2)
  rw [unvisited_append_singleton]
  exact unvisited_cons_lt graph path event isNode (by simpa using ‹¬path.contains event = true›)

/-- The cycles that visits from every node report, each with nothing visited and all with
the same reports. -/
def cyclesOfVisits (graph : EventGraph) : List Cycle :=
  graph.nodes.keys.foldl
    (fun reported start => (graph.visit [] start ⟨[], reported⟩).reported) []

/-! ## The loop -/

/-- The state of the loop between two rounds.  The first entry of the stack is its top. -/
structure SearchState where
  visited : List Text
  stack : List (Text × List Text)
  found : FoundCycles

/-- One round of the loop: the top of the stack is taken off.  What a new event leads to is
pushed from the last to the first. -/
def SearchState.next? (graph : EventGraph) : SearchState → Option SearchState
  | ⟨_, [], _⟩ => none
  | ⟨visited, (event, path) :: rest, found⟩ =>
      if path.contains event then
        some ⟨visited, rest, found.report (Cycle.closing graph path event)⟩
      else if visited.contains event then
        some ⟨visited, rest, found⟩
      else
        let pushed := (graph.successors event).reverse.foldl
          (fun stack next => (next, path ++ [event]) :: stack) rest
        some ⟨event :: visited, pushed, found⟩

/-- The loop comes from one state to another in some rounds. -/
def Runs (graph : EventGraph) : SearchState → SearchState → Prop :=
  Relation.ReflTransGen fun state later => state.next? graph = some later

/-- The successors are pushed so that the first one is on top. -/
theorem pushed_eq
    (nexts : List Text)
    (path : List Text)
    (rest : List (Text × List Text)) :
    nexts.reverse.foldl (fun stack next => (next, path) :: stack) rest =
      nexts.map (fun next => (next, path)) ++ rest := by
  rw [List.foldl_reverse]
  induction nexts with
  | nil =>
      rfl
  | cons next others inductionHypothesis =>
      rw [List.foldr_cons, inductionHypothesis]
      rfl

/-- Following the stack goes round by round. -/
theorem followStack_of_next?
    {graph : EventGraph}
    {state later : SearchState}
    (moves : state.next? graph = some later) :
    graph.followStack state.visited state.stack state.found =
      graph.followStack later.visited later.stack later.found := by
  obtain ⟨visited, stack, found⟩ := state
  cases stack with
  | nil =>
      cases moves
  | cons entry rest =>
      obtain ⟨event, path⟩ := entry
      simp only [SearchState.next?, pushed_eq] at moves
      rw [followStack]
      split at moves
      case isTrue onPath =>
        cases moves
        rw [if_pos onPath]
      case isFalse offPath =>
        rw [if_neg offPath]
        split at moves
        case isTrue isVisited =>
          cases moves
          rw [if_pos isVisited]
        case isFalse isNew =>
          cases moves
          rw [if_neg isNew]

/-- The loop ends as it does from any state that it comes to. -/
theorem followStack_of_runs
    {graph : EventGraph}
    {state later : SearchState}
    (runs : graph.Runs state later) :
    graph.followStack state.visited state.stack state.found =
      graph.followStack later.visited later.stack later.found := by
  induction runs with
  | refl =>
      rfl
  | tail _ moves inductionHypothesis =>
      exact inductionHypothesis.trans (followStack_of_next? moves)

/-! ## The loop works off visits -/

/-- The loop works off the entries at the top of its stack, whatever is below them, and
thereby visits and reports as given. -/
def WorksOff
    (graph : EventGraph)
    (entries : List (Text × List Text))
    (before after : Visits) :
    Prop :=
  ∀ (rest : List (Text × List Text)) (found : FoundCycles),
    found.cycles = before.reported →
    ∃ later : FoundCycles,
      later.cycles = after.reported ∧
        graph.Runs ⟨before.visited, entries ++ rest, found⟩ ⟨after.visited, rest, later⟩

namespace WorksOff

variable {graph : EventGraph} {path : List Text} {event : Text} {visits after : Visits}

/-- No entry is worked off without a step. -/
theorem nil
    (graph : EventGraph)
    (visits : Visits) :
    graph.WorksOff [] visits visits :=
  fun _ found same => ⟨found, same, .refl⟩

/-- Entries are worked off from the top of the stack on. -/
theorem append
    {entries others : List (Text × List Text)}
    {between : Visits}
    (first : graph.WorksOff entries visits between)
    (second : graph.WorksOff others between after) :
    graph.WorksOff (entries ++ others) visits after := by
  intro rest found same
  obtain ⟨midway, sameMidway, runs⟩ := first (others ++ rest) found same
  obtain ⟨later, sameLater, goesOn⟩ := second rest midway sameMidway
  rw [← List.append_assoc] at runs
  exact ⟨later, sameLater, runs.trans goesOn⟩

/-- An entry that is on its path is worked off by a report. -/
theorem close
    (onPath : path.contains event = true) :
    graph.WorksOff [(event, path)] visits
      (visits.report (Cycle.closing graph path event)) := by
  intro rest found same
  refine ⟨found.report (Cycle.closing graph path event), ?_, .single ?_⟩
  · rw [FoundCycles.cycles_report, same, Visits.report]
    split <;>
      rfl
  · have unmarked :
        (visits.report (Cycle.closing graph path event)).visited = visits.visited := by
      unfold Visits.report
      split <;>
        rfl
    rw [unmarked]
    exact if_pos onPath

/-- An entry that is visited is passed over. -/
theorem pass
    (offPath : ¬path.contains event = true)
    (isVisited : visits.visited.contains event = true) :
    graph.WorksOff [(event, path)] visits visits := by
  intro rest found same
  refine ⟨found, same, .single ?_⟩
  exact (if_neg offPath).trans (if_pos isVisited)

/-- A new event is worked off when all that it leads to is. -/
theorem expand
    (offPath : ¬path.contains event = true)
    (isNew : ¬visits.visited.contains event = true)
    (onward :
      graph.WorksOff ((graph.successors event).map fun next => (next, path ++ [event]))
        (visits.mark event) after) :
    graph.WorksOff [(event, path)] visits after := by
  intro rest found same
  obtain ⟨later, sameLater, runs⟩ := onward rest found same
  refine ⟨later, sameLater, .head ?_ runs⟩
  simp only [SearchState.next?, List.singleton_append, pushed_eq]
  exact (if_neg offPath).trans (if_neg isNew)

/-- The entries of events on one path are worked off one visit after another. -/
theorem foldl
    {nexts : List Text}
    (each : ∀ next ∈ nexts, ∀ visits,
      graph.WorksOff [(next, path)] visits (graph.visit path next visits))
    (visits : Visits) :
    graph.WorksOff (nexts.map fun next => (next, path)) visits
      (nexts.foldl (fun visits next => graph.visit path next visits) visits) := by
  induction nexts generalizing visits with
  | nil =>
      exact nil graph visits
  | cons next others inductionHypothesis =>
      have first := each next List.mem_cons_self visits
      have rest := inductionHypothesis
        (fun later isLater => each later (List.mem_cons_of_mem next isLater))
        (graph.visit path next visits)
      exact first.append rest

end WorksOff

/-- The loop works off an entry as the recursion visits it. -/
theorem worksOff_visit
    (graph : EventGraph)
    (path : List Text)
    (event : Text)
    (visits : Visits) :
    graph.WorksOff [(event, path)] visits (graph.visit path event visits) := by
  fun_induction visit graph path event visits with
  | case1 path event visits onPath =>
      exact .close onPath
  | case2 path event visits offPath isVisited =>
      exact .pass offPath isVisited
  | case3 path event visits offPath isNew inductionHypothesis =>
      rw [List.foldl_attach (f := fun visits next => graph.visit (path ++ [event]) next visits)]
      refine .expand offPath isNew (.foldl ?_ (visits.mark event))
      intro next isNext visits
      exact inductionHypothesis visits ⟨next, isNext⟩

/-- From every start the loop comes to a state in which nothing is left to do.  It has then
found what following the stack gives, and reported what the visit of the start does. -/
theorem exists_last_of_start
    (graph : EventGraph)
    (start : Text)
    (found : FoundCycles) :
    ∃ last : SearchState,
      graph.Runs ⟨[], [(start, [])], found⟩ last ∧
        last.next? graph = none ∧
        last.found = graph.followStack [] [(start, [])] found ∧
        last.found.cycles = (graph.visit [] start ⟨[], found.cycles⟩).reported := by
  obtain ⟨later, sameLater, runs⟩ :=
    graph.worksOff_visit [] start ⟨[], found.cycles⟩ [] found rfl
  refine ⟨_, runs, rfl, ?_, sameLater⟩
  have follows := followStack_of_runs runs
  rw [followStack.eq_def graph _ []] at follows
  exact follows.symm

/-- The loop reports the cycles that the recursion reports, in the same order. -/
theorem cycles_followStack
    (graph : EventGraph)
    (start : Text)
    (found : FoundCycles) :
    (graph.followStack [] [(start, [])] found).cycles =
      (graph.visit [] start ⟨[], found.cycles⟩).reported := by
  obtain ⟨last, _, _, isLast, reports⟩ := graph.exists_last_of_start start found
  rw [← isLast, reports]

/-- The loop comes to an end for every start, and then it has reported what the recursion
reports.  So the cycles of a graph are those of the recursion, with their events and lines
and in their order. -/
theorem cycles_are_those_of_visits
    (graph : EventGraph) :
    (∀ start found, ∃ last : SearchState,
      graph.Runs ⟨[], [(start, [])], found⟩ last ∧
        last.next? graph = none ∧
        last.found = graph.followStack [] [(start, [])] found ∧
        last.found.cycles = (graph.visit [] start ⟨[], found.cycles⟩).reported) ∧
      graph.cycles = graph.cyclesOfVisits := by
  refine ⟨graph.exists_last_of_start, ?_⟩
  unfold cycles cyclesOfVisits
  exact (List.foldl_hom FoundCycles.cycles fun found start =>
    (graph.cycles_followStack start found).symm).symm

end EventGraph

end MissionLint
