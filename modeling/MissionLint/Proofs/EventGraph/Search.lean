import Mathlib.Logic.Relation
import Mathlib.Data.List.Chain
import MissionLint.EventGraph.Cycle
import MissionLint.Proofs.EventGraph.Construction

namespace MissionLint

/-!
# Searching for cycles

The search of one start follows a stack.  Every property that its three kinds of
steps keep holds when the stack is empty.  Two such properties make the search
exact: the paths on the stack are walks without repeats, so that only cycles are
reported, and every visited event that leads back to the start is reported with
the start or is about to be.
-/

namespace EventGraph

/-- One event leads to another when it refers to it. -/
def Leads (graph : EventGraph) (source target : Text) : Prop :=
  target ∈ graph.successors source

/-- Following references from one event comes to another, after any number of steps. -/
def Reaches (graph : EventGraph) : Text → Text → Prop :=
  Relation.ReflTransGen graph.Leads

/-- Following references from an event comes back to it after at least one step. -/
def OnCycle (graph : EventGraph) (name : Text) : Prop :=
  Relation.TransGen graph.Leads name name

/-- An event leads to another exactly when there is an edge between them. -/
theorem Indexed.leads_iff
    {graph : EventGraph}
    (indexed : Indexed graph)
    {source target : Text} :
    graph.Leads source target ↔
      ∃ edge ∈ graph.edges, edge.source = source ∧ edge.target = target := by
  unfold Leads
  rw [indexed.successors_eq, List.mem_eraseDups, List.mem_map]
  simp [edgesFrom, and_assoc]

/-- No event leads to itself directly. -/
theorem Indexed.ne_of_leads
    {graph : EventGraph}
    (indexed : Indexed graph)
    {source target : Text}
    (leads : graph.Leads source target) :
    source ≠ target := by
  obtain ⟨edge, member, rfl, rfl⟩ := indexed.leads_iff.mp leads
  exact indexed.ends_ne edge member

/-- What an event leads to is a node. -/
theorem Indexed.mem_keys_of_leads
    {graph : EventGraph}
    (indexed : Indexed graph)
    {source target : Text}
    (leads : graph.Leads source target) :
    target ∈ graph.nodes.keys := by
  obtain ⟨edge, member, rfl, rfl⟩ := indexed.leads_iff.mp leads
  exact indexed.target_mem edge member

/-- An event is on a cycle when one of its successors reaches it. -/
theorem onCycle_iff
    (graph : EventGraph)
    (name : Text) :
    graph.OnCycle name ↔ ∃ next, graph.Leads name next ∧ graph.Reaches next name :=
  Relation.TransGen.head'_iff

/-- What holds of a search is kept when an event closes a cycle, when a visited
event is passed over and when an event is visited; then it holds when nothing is
left to follow. -/
theorem followStack_induction
    (graph : EventGraph)
    (holds : List Text → List (Text × List Text) → FoundCycles → Prop)
    (closes : ∀ visited event path rest found,
      event ∈ path →
      holds visited ((event, path) :: rest) found →
      holds visited rest (found.report (Cycle.closing graph path event)))
    (passes : ∀ visited event path rest found,
      event ∉ path →
      event ∈ visited →
      holds visited ((event, path) :: rest) found →
      holds visited rest found)
    (visits : ∀ visited event path rest found,
      event ∉ path →
      event ∉ visited →
      holds visited ((event, path) :: rest) found →
      holds (event :: visited)
        ((graph.successors event).map (fun next => (next, path ++ [event])) ++ rest) found)
    (visited : List Text)
    (stack : List (Text × List Text))
    (found : FoundCycles)
    (start : holds visited stack found) :
    ∃ seen, holds seen [] (graph.followStack visited stack found) := by
  fun_induction followStack graph visited stack found with
  | case1 visited found =>
      exact ⟨visited, start⟩
  | case2 visited found event path rest onPath inductionHypothesis =>
      exact inductionHypothesis
        (closes visited event path rest found (by simpa using onPath) start)
  | case3 visited found event path rest offPath isVisited inductionHypothesis =>
      exact inductionHypothesis
        (passes visited event path rest found
          (by simpa using offPath) (by simpa using isVisited) start)
  | case4 visited found event path rest offPath isNew onward inductionHypothesis =>
      exact inductionHypothesis
        (visits visited event path rest found
          (by simpa using offPath) (by simpa using isNew) start)

end EventGraph

/-! ## Reported cycles -/

namespace FoundCycles

/-- Some reported cycle has both of two events. -/
def Covers (found : FoundCycles) (first second : Text) : Prop :=
  ∃ cycle ∈ found.cycles, first ∈ cycle.members ∧ second ∈ cycle.members

/-- Reporting a cycle leaves the others. -/
theorem mem_report_of_mem
    {found : FoundCycles}
    {known : Cycle}
    (reported : known ∈ found.cycles)
    (cycle : Cycle) :
    known ∈ (found.report cycle).cycles := by
  rw [cycles_report]
  split
  · exact reported
  · exact List.mem_append_left _ reported

/-- After a report, some cycle with the same members is reported. -/
theorem exists_members_report
    (found : FoundCycles)
    (cycle : Cycle) :
    ∃ known ∈ (found.report cycle).cycles, known.members = cycle.members := by
  rw [cycles_report]
  split
  case isTrue isKnown =>
    rw [List.contains_iff_mem, List.mem_map] at isKnown
    exact isKnown
  case isFalse =>
    exact ⟨cycle, by simp, rfl⟩

/-- Reporting a cycle adds no other one. -/
theorem mem_or_eq_of_mem_report
    {found : FoundCycles}
    {cycle known : Cycle}
    (reported : known ∈ (found.report cycle).cycles) :
    known ∈ found.cycles ∨ known = cycle := by
  rw [cycles_report] at reported
  split at reported
  · exact Or.inl reported
  · simpa using reported

/-- What is covered stays covered after a report. -/
theorem Covers.report
    {found : FoundCycles}
    {first second : Text}
    (covered : found.Covers first second)
    (cycle : Cycle) :
    (found.report cycle).Covers first second := by
  obtain ⟨known, reported, both⟩ := covered
  exact ⟨known, mem_report_of_mem reported cycle, both⟩

/-- A report covers any two events of its cycle. -/
theorem covers_report
    (found : FoundCycles)
    {cycle : Cycle}
    {first second : Text}
    (hasFirst : first ∈ cycle.events)
    (hasSecond : second ∈ cycle.events) :
    (found.report cycle).Covers first second := by
  obtain ⟨known, reported, sameMembers⟩ := found.exists_members_report cycle
  refine ⟨known, reported, ?_⟩
  rw [sameMembers]
  exact ⟨Text.mem_sortedDistinct.mpr hasFirst, Text.mem_sortedDistinct.mpr hasSecond⟩

/-- A report keeps the sets of members different. -/
theorem nodup_members_report
    {found : FoundCycles}
    (distinct : (found.cycles.map Cycle.members).Nodup)
    (cycle : Cycle) :
    ((found.report cycle).cycles.map Cycle.members).Nodup := by
  rw [cycles_report]
  split
  · exact distinct
  case isFalse isNew =>
    rw [List.contains_iff_mem] at isNew
    rw [List.map_append, List.map_singleton, List.nodup_append]
    refine ⟨distinct, by simp, ?_⟩
    rintro members isKnown other isLast rfl
    rw [List.mem_singleton.mp isLast] at isKnown
    exact isNew isKnown

end FoundCycles

namespace EventGraph

/-! ## Nothing is missed -/

/-- The state of a search from a start.  Paths begin with the start and go over
visited events; what a visited event leads to is visited or waits; and a visited
event that leads back to the start is covered or waits to be. -/
structure Searching
    (graph : EventGraph)
    (start : Text)
    (visited : List Text)
    (stack : List (Text × List Text))
    (found : FoundCycles) :
    Prop where
  rooted : ∀ entry ∈ stack, entry.2 ≠ [] → entry.2.head? = some start
  unrooted : ∀ entry ∈ stack, entry.2 = [] → entry.1 = start
  walked : ∀ entry ∈ stack, ∀ name ∈ entry.2, name ∈ visited
  begun : start ∈ visited ∨ start ∈ stack.map Prod.fst
  onward : ∀ name ∈ visited, ∀ next, graph.Leads name next →
    next ∈ visited ∨ next ∈ stack.map Prod.fst
  returns : ∀ name ∈ visited, graph.Leads name start →
    found.Covers name start ∨ ∃ path, (start, path) ∈ stack ∧ path.getLast? = some name

/-- A path that begins with an event is all of the cycle that the event closes. -/
theorem events_closing_of_head
    (graph : EventGraph)
    {path : List Text}
    {event : Text}
    (isHead : path.head? = some event) :
    (Cycle.closing graph path event).events = path ++ [event] := by
  cases path with
  | nil =>
      simp at isHead
  | cons first rest =>
      simp only [List.head?_cons, Option.some.injEq] at isHead
      simp [Cycle.closing, isHead]

namespace Searching

variable {graph : EventGraph} {start : Text} {visited : List Text} {event : Text}
  {path : List Text} {rest : List (Text × List Text)} {found : FoundCycles}

/-- A search starts with nothing visited and an empty path. -/
theorem initial
    (graph : EventGraph)
    (start : Text)
    (found : FoundCycles) :
    Searching graph start [] [(start, [])] found where
  rooted := by simp
  unrooted := by simp
  walked := by simp
  begun := by simp
  onward := by simp
  returns := by simp

/-- An event that is visited need not wait any longer, however it came up. -/
theorem visited_or_waits_tail
    {name : Text}
    (isVisited : event ∈ visited)
    (waits : name ∈ visited ∨ name ∈ ((event, path) :: rest).map Prod.fst) :
    name ∈ visited ∨ name ∈ rest.map Prod.fst := by
  rcases waits with already | waiting
  · exact Or.inl already
  · rcases List.mem_cons.mp waiting with isEvent | later
    · subst isEvent
      exact Or.inl isVisited
    · exact Or.inr later

/-- Closing a cycle covers what waited for it. -/
theorem close
    (searching : Searching graph start visited ((event, path) :: rest) found)
    (onPath : event ∈ path) :
    Searching graph start visited rest (found.report (Cycle.closing graph path event)) where
  rooted entry member := searching.rooted entry (List.mem_cons_of_mem _ member)
  unrooted entry member := searching.unrooted entry (List.mem_cons_of_mem _ member)
  walked entry member := searching.walked entry (List.mem_cons_of_mem _ member)
  begun :=
    visited_or_waits_tail (searching.walked _ List.mem_cons_self event onPath) searching.begun
  onward name isVisited next leads :=
    visited_or_waits_tail (searching.walked _ List.mem_cons_self event onPath)
      (searching.onward name isVisited next leads)
  returns name isVisited leads := by
    rcases searching.returns name isVisited leads with covered | ⟨back, member, isLast⟩
    · exact Or.inl (covered.report _)
    · rcases List.mem_cons.mp member with isFirst | later
      · obtain ⟨rfl, rfl⟩ := Prod.mk.inj isFirst
        have isHead := searching.rooted _ List.mem_cons_self (List.ne_nil_of_mem onPath)
        refine Or.inl (found.covers_report ?_ ?_) <;>
          rw [events_closing_of_head graph isHead]
        · exact List.mem_append_left _ (List.mem_of_getLast? isLast)
        · simp
      · exact Or.inr ⟨back, later, isLast⟩

/-- A path that is not empty has the start of the search. -/
theorem start_mem_path
    (searching : Searching graph start visited ((event, path) :: rest) found)
    {name : Text}
    (isLast : path.getLast? = some name) :
    start ∈ path := by
  have notEmpty : path ≠ [] := by
    rintro rfl
    simp at isLast
  exact List.mem_of_head? (searching.rooted _ List.mem_cons_self notEmpty)

/-- Passing over a visited event loses nothing: off its path it is not the start
that waits to close a cycle. -/
theorem pass
    (searching : Searching graph start visited ((event, path) :: rest) found)
    (offPath : event ∉ path)
    (isVisited : event ∈ visited) :
    Searching graph start visited rest found where
  rooted entry member := searching.rooted entry (List.mem_cons_of_mem _ member)
  unrooted entry member := searching.unrooted entry (List.mem_cons_of_mem _ member)
  walked entry member := searching.walked entry (List.mem_cons_of_mem _ member)
  begun := visited_or_waits_tail isVisited searching.begun
  onward name isNode next leads :=
    visited_or_waits_tail isVisited (searching.onward name isNode next leads)
  returns name isNode leads := by
    rcases searching.returns name isNode leads with covered | ⟨back, member, isLast⟩
    · exact Or.inl covered
    · rcases List.mem_cons.mp member with isFirst | later
      · obtain ⟨rfl, rfl⟩ := Prod.mk.inj isFirst
        exact absurd (searching.start_mem_path isLast) offPath
      · exact Or.inr ⟨back, later, isLast⟩

/-- A path leads from the start of the search. -/
theorem head?_path_append
    (searching : Searching graph start visited ((event, path) :: rest) found) :
    (path ++ [event]).head? = some start := by
  rw [List.head?_append]
  by_cases isEmpty : path = []
  · have isStart := searching.unrooted _ List.mem_cons_self isEmpty
    simp only at isStart
    simp [isEmpty, isStart]
  · have isHead := searching.rooted _ List.mem_cons_self isEmpty
    simp only at isHead
    simp [isHead]

/-- Visiting an event makes all that it leads to wait. -/
theorem visit
    (searching : Searching graph start visited ((event, path) :: rest) found)
    (offPath : event ∉ path) :
    Searching graph start (event :: visited)
      ((graph.successors event).map (fun next => (next, path ++ [event])) ++ rest) found where
  rooted entry member notEmpty := by
    rcases List.mem_append.mp member with isOnward | later
    · obtain ⟨next, _, rfl⟩ := List.mem_map.mp isOnward
      exact searching.head?_path_append
    · exact searching.rooted entry (List.mem_cons_of_mem _ later) notEmpty
  unrooted entry member isEmpty := by
    rcases List.mem_append.mp member with isOnward | later
    · obtain ⟨next, _, rfl⟩ := List.mem_map.mp isOnward
      simp at isEmpty
    · exact searching.unrooted entry (List.mem_cons_of_mem _ later) isEmpty
  walked entry member name onPath := by
    rcases List.mem_append.mp member with isOnward | later
    · obtain ⟨next, _, rfl⟩ := List.mem_map.mp isOnward
      rcases List.mem_append.mp onPath with before | isEvent
      · exact List.mem_cons_of_mem _ (searching.walked _ List.mem_cons_self name before)
      · rw [List.mem_singleton.mp isEvent]
        exact List.mem_cons_self
    · exact List.mem_cons_of_mem _
        (searching.walked entry (List.mem_cons_of_mem _ later) name onPath)
  begun := by
    have begun := searching.begun
    simp only [List.map_cons, List.mem_cons, List.map_append, List.mem_append] at begun ⊢
    tauto
  onward name isVisited next leads := by
    rcases List.mem_cons.mp isVisited with isEvent | before
    · subst isEvent
      refine Or.inr (List.mem_map.mpr ⟨(next, path ++ [name]), ?_, rfl⟩)
      exact List.mem_append_left _ (List.mem_map.mpr ⟨next, leads, rfl⟩)
    · have onward := searching.onward name before next leads
      simp only [List.map_cons, List.mem_cons, List.map_append, List.mem_append] at onward ⊢
      tauto
  returns name isVisited leads := by
    rcases List.mem_cons.mp isVisited with isEvent | before
    · subst isEvent
      refine Or.inr ⟨path ++ [name], ?_, by simp⟩
      exact List.mem_append_left _ (List.mem_map.mpr ⟨start, leads, rfl⟩)
    · rcases searching.returns name before leads with covered | ⟨back, member, isLast⟩
      · exact Or.inl covered
      · rcases List.mem_cons.mp member with isFirst | later
        · obtain ⟨rfl, rfl⟩ := Prod.mk.inj isFirst
          exact absurd (searching.start_mem_path isLast) offPath
        · exact Or.inr ⟨back, List.mem_append_right _ later, isLast⟩

/-- When nothing waits, all that the start reaches is visited. -/
theorem mem_visited_of_reaches
    (searching : Searching graph start visited [] found)
    {name : Text}
    (reaches : graph.Reaches start name) :
    name ∈ visited := by
  induction reaches with
  | refl =>
      simpa using searching.begun
  | tail _ leads inductionHypothesis =>
      simpa using searching.onward _ inductionHypothesis _ leads

end Searching

/-- A search covers every event that leads back to the start with the start. -/
theorem covers_followStack
    (graph : EventGraph)
    {start name : Text}
    (found : FoundCycles)
    (leads : graph.Leads name start)
    (reaches : graph.Reaches start name) :
    (graph.followStack [] [(start, [])] found).Covers name start := by
  obtain ⟨seen, searching⟩ :=
    graph.followStack_induction (Searching graph start)
      (fun _ _ _ _ _ onPath searching => searching.close onPath)
      (fun _ _ _ _ _ offPath isVisited searching => searching.pass offPath isVisited)
      (fun _ _ _ _ _ offPath _ searching => searching.visit offPath)
      [] [(start, [])] found (Searching.initial graph start found)
  simpa using searching.returns name (searching.mem_visited_of_reaches reaches) leads

/-- A search keeps what is covered. -/
theorem covers_followStack_of_covers
    {found : FoundCycles}
    {first second : Text}
    (covered : found.Covers first second)
    (graph : EventGraph)
    (visited : List Text)
    (stack : List (Text × List Text)) :
    (graph.followStack visited stack found).Covers first second := by
  obtain ⟨_, kept⟩ :=
    graph.followStack_induction (fun _ _ found => found.Covers first second)
      (fun _ _ _ _ _ _ covered => covered.report _)
      (fun _ _ _ _ _ _ _ covered => covered)
      (fun _ _ _ _ _ _ _ covered => covered)
      visited stack found covered
  exact kept

/-- Searches from some starts cover every event that leads back to one of them. -/
theorem covers_foldl_followStack
    (graph : EventGraph)
    {start name : Text}
    {starts : List Text}
    (member : start ∈ starts)
    (leads : graph.Leads name start)
    (reaches : graph.Reaches start name)
    (found : FoundCycles) :
    (starts.foldl (fun found start => graph.followStack [] [(start, [])] found) found).Covers
      name start := by
  obtain ⟨before, after, rfl⟩ := List.append_of_mem member
  rw [List.foldl_append, List.foldl_cons]
  refine List.foldlRecOn (motive := fun (found : FoundCycles) => found.Covers name start)
    after _ ?_ ?_
  · exact graph.covers_followStack _ leads reaches
  · intro reported covered other _
    exact covers_followStack_of_covers covered graph [] [(other, [])]

end EventGraph

/-! ## Nothing else is reported -/

namespace Cycle

/-- A cycle of a graph: at least two different events, each with an edge to the next
and the last one with an edge to the first.  Its line is that of the first edge
which closes it, and that edge is found. -/
def ClosedIn (graph : EventGraph) (cycle : Cycle) : Prop :=
  ∃ first middle last,
    cycle.events = first :: middle ++ [last, first] ∧
    (first :: middle ++ [last]).Nodup ∧
    cycle.events.IsChain
      (fun source target =>
        ∃ edge ∈ graph.edges, edge.source = source ∧ edge.target = target) ∧
    ∃ edge,
      graph.edges.find? (fun edge => edge.source == last && edge.target == first) = some edge ∧
      graph.edgeBetween? last first = some edge ∧
      cycle.line = edge.line

end Cycle

namespace EventGraph

/-- The first edge between two events is found where one leads to the other. -/
theorem Indexed.exists_edgeBetween?
    {graph : EventGraph}
    (indexed : Indexed graph)
    {source target : Text}
    (leads : graph.Leads source target) :
    ∃ edge,
      graph.edges.find? (fun edge => edge.source == source && edge.target == target) =
          some edge ∧
        graph.edgeBetween? source target = some edge := by
  obtain ⟨known, member, isSource, isTarget⟩ := indexed.leads_iff.mp leads
  have isFound :
      (graph.edges.find?
        (fun edge => edge.source == source && edge.target == target)).isSome = true := by
    rw [List.find?_isSome]
    exact ⟨known, member, by simp [isSource, isTarget]⟩
  obtain ⟨edge, found⟩ := Option.isSome_iff_exists.mp isFound
  refine ⟨edge, found, ?_⟩
  rw [indexed.edgeBetween?_eq, edgesFrom, List.find?_filter, ← found]
  simp only [Bool.decide_and, Bool.decide_eq_true]

/-- What an event closes on a walk without repeats is a cycle of the graph.  It has two events at
least, as one alone would lead to itself. -/
theorem Indexed.closedIn_closing
    {graph : EventGraph}
    (indexed : Indexed graph)
    {path : List Text}
    {event : Text}
    (simple : path.Nodup)
    (linked : (path ++ [event]).IsChain graph.Leads)
    (onPath : event ∈ path) :
    (Cycle.closing graph path event).ClosedIn graph := by
  obtain ⟨before, after, rfl, notBefore⟩ := List.eq_append_cons_of_mem onPath
  have events :
      (Cycle.closing graph (before ++ event :: after) event).events =
        event :: after ++ [event] := by
    have dropped : ∀ name ∈ before, (name != event) = true := by
      intro name member
      simp only [bne_iff_ne]
      rintro rfl
      exact notBefore member
    simp [Cycle.closing, List.dropWhile_append_of_pos dropped]
  have walk : (event :: after ++ [event]).IsChain graph.Leads :=
    linked.suffix ⟨before, by simp⟩
  have continues : after ≠ [] := by
    rintro rfl
    exact indexed.ne_of_leads (List.isChain_cons_cons.mp walk).1 rfl
  obtain ⟨middle, last, rfl⟩ := (List.eq_nil_or_concat' after).resolve_left continues
  have closes : graph.Leads last event := by
    have tail : ([last, event] : List Text).IsChain graph.Leads :=
      walk.suffix ⟨event :: middle, by simp⟩
    exact (List.isChain_cons_cons.mp tail).1
  obtain ⟨edge, found, between⟩ := indexed.exists_edgeBetween? closes
  have isLast : (before ++ event :: (middle ++ [last])).getLast? = some last := by
    rw [← List.cons_append, ← List.append_assoc, List.getLast?_concat]
  refine ⟨event, middle, last, by simp [events], ?_, ?_, edge, found, between, ?_⟩
  · exact simple.sublist (by simp)
  · rw [events]
    exact walk.imp fun _ _ leads => indexed.leads_iff.mp leads
  · simp only [Cycle.closing, isLast, Option.bind_some, between, Option.map_some,
      Option.getD_some]

/-- The paths of a search are walks without repeats, and what it has reported are
cycles with different members. -/
structure Sound
    (graph : EventGraph)
    (stack : List (Text × List Text))
    (found : FoundCycles) :
    Prop where
  simple : ∀ entry ∈ stack, entry.2.Nodup
  linked : ∀ entry ∈ stack, (entry.2 ++ [entry.1]).IsChain graph.Leads
  closed : ∀ cycle ∈ found.cycles, cycle.ClosedIn graph
  distinct : (found.cycles.map Cycle.members).Nodup

namespace Sound

variable {graph : EventGraph} {event : Text} {path : List Text}
  {rest : List (Text × List Text)} {found : FoundCycles}

/-- Soundness is kept when an entry is taken off. -/
theorem tail
    (sound : Sound graph ((event, path) :: rest) found) :
    Sound graph rest found where
  simple entry member := sound.simple entry (List.mem_cons_of_mem _ member)
  linked entry member := sound.linked entry (List.mem_cons_of_mem _ member)
  closed := sound.closed
  distinct := sound.distinct

/-- Closing a cycle keeps a search sound. -/
theorem close
    (sound : Sound graph ((event, path) :: rest) found)
    (indexed : Indexed graph)
    (onPath : event ∈ path) :
    Sound graph rest (found.report (Cycle.closing graph path event)) where
  simple := sound.tail.simple
  linked := sound.tail.linked
  closed cycle member := by
    rcases FoundCycles.mem_or_eq_of_mem_report member with isKnown | isNew
    · exact sound.closed cycle isKnown
    · subst isNew
      exact indexed.closedIn_closing (sound.simple _ List.mem_cons_self)
        (sound.linked _ List.mem_cons_self) onPath
  distinct := FoundCycles.nodup_members_report sound.distinct _

/-- Visiting an event off its path keeps a search sound. -/
theorem visit
    (sound : Sound graph ((event, path) :: rest) found)
    (offPath : event ∉ path) :
    Sound graph
      ((graph.successors event).map (fun next => (next, path ++ [event])) ++ rest) found where
  simple entry member := by
    rcases List.mem_append.mp member with isOnward | later
    · obtain ⟨next, _, rfl⟩ := List.mem_map.mp isOnward
      have simple := sound.simple _ List.mem_cons_self
      refine List.nodup_append.mpr ⟨simple, by simp, ?_⟩
      rintro name before other isEvent rfl
      rw [List.mem_singleton.mp isEvent] at before
      exact offPath before
    · exact sound.tail.simple entry later
  linked entry member := by
    rcases List.mem_append.mp member with isOnward | later
    · obtain ⟨next, leads, rfl⟩ := List.mem_map.mp isOnward
      have linked := sound.linked _ List.mem_cons_self
      refine List.isChain_append.mpr ⟨linked, List.isChain_singleton next, ?_⟩
      intro last isLast following isFollowing
      simp only [List.getLast?_append, List.getLast?_singleton, Option.some_or,
        Option.mem_some_iff] at isLast
      simp only [List.head?_cons, Option.mem_some_iff] at isFollowing
      subst isLast
      subst isFollowing
      exact leads
    · exact sound.tail.linked entry later
  closed := sound.closed
  distinct := sound.distinct

end Sound

/-- What a search has reported stays sound over a search from any start. -/
theorem Indexed.sound_followStack
    {graph : EventGraph}
    (indexed : Indexed graph)
    (start : Text)
    {found : FoundCycles}
    (sound : Sound graph [] found) :
    Sound graph [] (graph.followStack [] [(start, [])] found) := by
  have waiting : Sound graph [(start, [])] found :=
    { simple := by simp
      linked := by simp
      closed := sound.closed
      distinct := sound.distinct }
  obtain ⟨_, kept⟩ :=
    graph.followStack_induction (fun _ stack found => Sound graph stack found)
      (fun _ _ _ _ _ onPath sound => sound.close indexed onPath)
      (fun _ _ _ _ _ _ _ sound => sound.tail)
      (fun _ _ _ _ _ offPath _ sound => sound.visit offPath)
      [] [(start, [])] found waiting
  exact kept

end EventGraph

end MissionLint
