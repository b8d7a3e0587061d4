import Std.Data.HashSet
import MissionLint.EventGraph

namespace MissionLint

/-!
# Circular dependencies

From every event a depth first search follows the successors and carries the
path that led to the event.  An event that is already on its path closes a cycle.
Of the cycles with the same members only the first one found is reported.
-/

/-- A cycle: its events, the first of which is repeated at the end, and the line
of the edge that closes it. -/
structure Cycle where
  events : List Text
  line : Nat
  deriving Repr, DecidableEq

namespace Cycle

/-- The distinct events of a cycle in ascending order. -/
def members (cycle : Cycle) : List Text :=
  Text.sortedDistinct cycle.events

/-- The events of a cycle with arrows between them. -/
def describe (cycle : Cycle) : Text :=
  Text.join " -> " cycle.events

/-- The cycle that an event closes on the path that led to it. -/
def closing (graph : EventGraph) (path : List Text) (event : Text) : Cycle where
  events := path.dropWhile (· != event) ++ [event]
  line :=
    let edge? := path.getLast?.bind fun last => graph.edgeBetween? last event
    (edge?.map Edge.line).getD 0

end Cycle

/-- Cycles in the order in which they were found, with the set of their members
for a quick look. -/
structure FoundCycles where
  cycles : List Cycle := []
  reported : Std.HashSet (List Text) := {}
  reported_eq :
    ∀ key, reported.contains key = (cycles.map Cycle.members).contains key := by simp

namespace FoundCycles

/-- Report a cycle unless one with the same members is reported. -/
def report (found : FoundCycles) (cycle : Cycle) : FoundCycles :=
  if found.reported.contains cycle.members then
    found
  else {
    cycles := found.cycles ++ [cycle]
    reported := found.reported.insert cycle.members
    reported_eq := by
      intro key
      rw [Std.HashSet.contains_insert, found.reported_eq]
      simp only [List.map_append, List.map_cons, List.map_nil, List.contains_append,
        List.contains_cons, List.contains_nil, Bool.or_false]
      rw [Bool.or_comm, BEq.comm]
  }

/-- Whether a cycle is new depends on the reported cycles alone. -/
theorem cycles_report
    (found : FoundCycles)
    (cycle : Cycle) :
    (found.report cycle).cycles =
      if (found.cycles.map Cycle.members).contains cycle.members then
        found.cycles
      else
        found.cycles ++ [cycle] := by
  unfold report
  rw [found.reported_eq]
  split <;>
    rfl

end FoundCycles

namespace EventGraph

/-- The nodes that a search has not visited. -/
def unvisited (graph : EventGraph) (visited : List Text) : List Text :=
  graph.links.keys.filter fun name => !visited.contains name

/-- Visiting an event removes it from the unvisited nodes. -/
theorem unvisited_cons
    (graph : EventGraph)
    (visited : List Text)
    (event : Text) :
    graph.unvisited (event :: visited) =
      (graph.unvisited visited).filter fun name => decide (name ≠ event) := by
  unfold unvisited
  rw [List.filter_filter]
  apply List.filter_congr
  intro name _
  by_cases same : name = event <;>
    simp [same]

/-- Visiting an event leaves no more unvisited nodes than before. -/
theorem unvisited_cons_le
    (graph : EventGraph)
    (visited : List Text)
    (event : Text) :
    (graph.unvisited (event :: visited)).length ≤ (graph.unvisited visited).length := by
  rw [unvisited_cons]
  exact List.length_filter_le _ _

/-- Visiting a node for the first time leaves fewer unvisited nodes. -/
theorem unvisited_cons_lt
    (graph : EventGraph)
    (visited : List Text)
    (event : Text)
    (isNode : event ∈ graph.links.keys)
    (isNew : visited.contains event = false) :
    (graph.unvisited (event :: visited)).length < (graph.unvisited visited).length := by
  have waiting : event ∈ graph.unvisited visited := by
    unfold unvisited
    exact List.mem_filter.mpr ⟨isNode, by rw [isNew]; rfl⟩
  rw [unvisited_cons]
  refine Nat.lt_of_le_of_ne (List.length_filter_le _ _) ?_
  intro sameLength
  have kept := List.length_filter_eq_length_iff.mp sameLength event waiting
  simp at kept

/-- An event with successors is a node. -/
theorem mem_keys_of_successors_ne_nil
    (graph : EventGraph)
    (event : Text)
    (continues : graph.successors event ≠ []) :
    event ∈ graph.links.keys := by
  unfold successors linksOf Table.find? at continues
  cases found : List.lookup event graph.links with
  | none =>
      rw [found] at continues
      exact absurd rfl continues
  | some links =>
      rw [List.lookup_eq_some_iff] at found
      obtain ⟨before, after, shape, _⟩ := found
      unfold Table.keys
      rw [shape]
      simp

/-- Follow a stack of events, each with the path that led to it.  Either an
unvisited node is visited or the stack shrinks. -/
def followStack
    (graph : EventGraph)
    (visited : List Text)
    (stack : List (Text × List Text))
    (found : FoundCycles) :
    FoundCycles :=
  match stack with
  | [] => found
  | (event, path) :: rest =>
      if path.contains event then
        followStack graph visited rest (found.report (Cycle.closing graph path event))
      else if visited.contains event then
        followStack graph visited rest found
      else
        let onward := (graph.successors event).map fun next => (next, path ++ [event])
        followStack graph (event :: visited) (onward ++ rest) found
termination_by ((graph.unvisited visited).length, stack.length)
decreasing_by
  · exact Prod.Lex.right _ (by simp)
  · exact Prod.Lex.right _ (by simp)
  · have isNew : visited.contains event = false := by
      simpa using ‹¬visited.contains event = true›
    cases continues : graph.successors event with
    | nil =>
        have fewer := unvisited_cons_le graph visited event
        rcases Nat.lt_or_eq_of_le fewer with less | same
        · exact Prod.Lex.left _ _ less
        · rw [same]
          exact Prod.Lex.right _ (by simp)
    | cons next others =>
        have isNode : event ∈ graph.links.keys :=
          mem_keys_of_successors_ne_nil graph event (by simp [continues])
        exact Prod.Lex.left _ _ (unvisited_cons_lt graph visited event isNode isNew)

/-- The cycles of a graph: a search from every node with nothing visited. -/
def cycles (graph : EventGraph) : List Cycle :=
  (graph.nodes.keys.foldl
    (fun found start => graph.followStack [] [(start, [])] found) {}).cycles

end EventGraph

end MissionLint
