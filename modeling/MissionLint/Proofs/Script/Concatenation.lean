import MissionLint.Proofs.Script.Ownership
import MissionLint.Proofs.Script.Relabelling

namespace MissionLint

/-!
# Scripts one after another

A script that starts with an opener can follow any other text.  The opener ends the block
that is open, so each of the two keeps its blocks and its declarations, and those of the
second one only move down.  The first declaration of a name counts, so of the second
script's variables only those with new names are left.
-/

namespace Line

/-- A line moved down by a number of lines. -/
def moved (offset : Nat) (line : Line) : Line :=
  { line with number := line.number + offset }

/-- Moving lines keeps their openers, declarations and guards. -/
theorem keepsShape_moved
    (offset : Nat) :
    KeepsShape (moved offset) (· + offset) :=
  keepsShape_of_code (fun _ => rfl) fun _ => rfl

/-- Lines that are numbered from further on are moved down. -/
theorem numberFrom_add
    (offset first : Nat)
    (raws : List Text) :
    numberFrom (first + offset) raws = (numberFrom first raws).map (moved offset) := by
  induction raws generalizing first with
  | nil =>
      rfl
  | cons raw rest inductionHypothesis =>
      have others := inductionHypothesis (first + 1)
      rw [Nat.add_right_comm] at others
      simp only [numberFrom, List.map_cons, others]
      rfl

/-- The lines of two texts, the second one below the first. -/
theorem ofScript_append
    (front back : Text) :
    ofScript (front ++ "\n" ++ back) =
      ofScript front ++ (ofScript back).map (moved (ofScript front).length) := by
  simp only [ofScript, Text.splitOn_append_break, numberFrom_append, length_numberFrom,
    numberFrom_add]

/-- The lines of a script are numbered from one up to their number. -/
theorem number_bounds
    {script : Text}
    {line : Line}
    (isLine : line ∈ ofScript script) :
    1 ≤ line.number ∧ line.number ≤ (ofScript script).length := by
  have isNumber : line.number ∈ (ofScript script).map Line.number :=
    List.mem_map_of_mem isLine
  rw [map_number_ofScript, List.mem_range'_1] at isNumber
  omega

end Line

/-- A variable moved down by a number of lines. -/
def Variable.moved (offset : Nat) (declared : Variable) : Variable :=
  declared.renumbered (· + offset)

namespace Event

/-- A block moved down by a number of lines. -/
def moved (offset : Nat) (event : Event) : Event :=
  event.mapLines (Line.moved offset) (· + offset)

/-- A block without the guard that leads to its event. -/
def unguarded (event : Event) : Event :=
  { event with guard := none }

/-- A block that is moved ends as much further down. -/
theorem finish_moved
    (offset : Nat)
    (event : Event) :
    (event.moved offset).finish = event.finish + offset := by
  simp only [finish, moved, mapLines, List.getLast?_map]
  cases event.commands.getLast? <;>
    rfl

/-- A moved block reaches over the moved lines. -/
theorem owns_moved
    (offset number : Nat)
    (event : Event) :
    (event.moved offset).owns (number + offset) = event.owns number := by
  rw [Bool.eq_iff_iff, owns_eq_true_iff, owns_eq_true_iff, finish_moved]
  simp only [moved, mapLines]
  omega

end Event

namespace Outline

/-- Whether some lines start with an opener. -/
def startsBlock (lines : List Line) : Bool :=
  lines.head?.any fun line => (Opener.ofCode? line.code).isSome

section StartsBlock

variable {back : List Line}
  (starts : startsBlock back = true)

include starts

/-- Lines that start with an opener have it as their first line. -/
theorem exists_opener :
    ∃ line rest name,
      back = line :: rest ∧ line.isBlank = false ∧ Opener.ofCode? line.code = some name := by
  cases back with
  | nil =>
      cases starts
  | cons line rest =>
      obtain ⟨name, opens⟩ := Option.isSome_iff_exists.mp starts
      have notBlank : line.isBlank = false := by
        cases blank : line.isBlank with
        | false =>
            rfl
        | true =>
            simp [Opener.ofCode?_of_isBlank blank] at opens
      exact ⟨line, rest, name, rfl, notBlank, opens⟩

/-- The opener ends the open block, and the blocks after it are those that it and the lines
below it have by themselves. -/
theorem blocksFrom_append
    (current : Option Event)
    (front : List Line) :
    blocksFrom current (front ++ back) = blocksFrom current front ++ blocksFrom none back := by
  fun_induction blocksFrom current front with
  | case1 current =>
      obtain ⟨line, rest, name, rfl, notBlank, opens⟩ := exists_opener starts
      simp [blocksFrom, notBlank, opens]
  | case2 current line rest isBlank inductionHypothesis =>
      simpa [blocksFrom, isBlank] using inductionHypothesis
  | case3 current line rest isCode name opens inductionHypothesis =>
      simpa [blocksFrom, isCode, opens] using inductionHypothesis
  | case4 line rest isCode notOpener inductionHypothesis =>
      simpa [blocksFrom, isCode, notOpener] using inductionHypothesis
  | case5 line rest isCode notOpener block isTyped inductionHypothesis =>
      simpa [blocksFrom, isCode, notOpener, isTyped] using inductionHypothesis
  | case6 line rest isCode notOpener block notTyped inductionHypothesis =>
      simpa [blocksFrom, isCode, notOpener, notTyped] using inductionHypothesis

/-- After the opener a declaration needs a type, whether or not a block was open before. -/
theorem declarationsFrom_append
    (inside : Bool)
    (front : List Line) :
    declarationsFrom inside (front ++ back) =
      declarationsFrom inside front ++ declarationsFrom false back := by
  fun_induction declarationsFrom inside front with
  | case1 inside =>
      obtain ⟨line, rest, name, rfl, notBlank, opens⟩ := exists_opener starts
      simp [declarationsFrom, notBlank, opens]
  | case2 inside line rest isBlank inductionHypothesis =>
      simpa [declarationsFrom, isBlank] using inductionHypothesis
  | case3 inside line rest isCode opens inductionHypothesis =>
      simpa [declarationsFrom, isCode, opens] using inductionHypothesis
  | case4 inside line rest isCode notOpener declaration declares counts inductionHypothesis =>
      simpa [declarationsFrom, isCode, notOpener, declares, counts] using inductionHypothesis
  | case5 inside line rest isCode notOpener declaration declares skipped inductionHypothesis =>
      simpa [declarationsFrom, isCode, notOpener, declares, skipped] using inductionHypothesis
  | case6 inside line rest isCode notOpener declaresNothing inductionHypothesis =>
      simpa [declarationsFrom, isCode, notOpener, declaresNothing] using inductionHypothesis

end StartsBlock

/-- The guards of lines and of lines that follow them. -/
theorem guards_append
    (front back : List Line) :
    guards (front ++ back) = guards front ++ guards back :=
  List.flatMap_append

/-- Up to guards, the events of an outline are the blocks of its lines. -/
theorem map_unguarded_events
    (lines : List Line) :
    (ofLines lines).events.map Event.unguarded = (blocksFrom none lines).map Event.unguarded := by
  simp only [ofLines, List.map_map]
  rfl

/-- An outline moved down by a number of lines. -/
def moved (offset : Nat) (outline : Outline) : Outline :=
  outline.mapLines (Line.moved offset) (· + offset)

section Script

variable (front : Text) {back : Text}
  (starts : startsBlock (Line.ofScript back) = true)

include starts

/-- The first line of moved lines is an opener when it was one. -/
theorem startsBlock_moved
    (offset : Nat) :
    startsBlock ((Line.ofScript back).map (Line.moved offset)) = true := by
  rw [startsBlock, List.head?_map, Option.any_map]
  exact starts

/-- The blocks of a script, and moved down, those of one that starts with an opener below it. -/
theorem blocks_append :
    blocksFrom none (Line.ofScript (front ++ "\n" ++ back)) =
      blocksFrom none (Line.ofScript front) ++
        (blocksFrom none (Line.ofScript back)).map
          (Event.moved (Line.ofScript front).length) := by
  have moves :=
    blocksFrom_map (Line.keepsShape_moved (Line.ofScript front).length) none (Line.ofScript back)
  rw [Line.ofScript_append, blocksFrom_append (startsBlock_moved starts _)]
  exact congrArg (blocksFrom none (Line.ofScript front) ++ ·) moves

/-- The blocks of two scripts are those of the first one and, moved down, those of the
second one. -/
theorem events_append :
    (ofScript (front ++ "\n" ++ back)).events.map Event.unguarded =
      ((ofScript front).events ++
        (ofScript back).events.map (Event.moved (Line.ofScript front).length)).map
          Event.unguarded := by
  have guardMoves (lines : List Line) :
      ((ofLines lines).events.map (Event.moved (Line.ofScript front).length)).map
          Event.unguarded =
        ((blocksFrom none lines).map (Event.moved (Line.ofScript front).length)).map
          Event.unguarded := by
    simp only [ofLines, List.map_map]
    rfl
  simp only [ofScript, List.map_append, guardMoves, map_unguarded_events,
    blocks_append front starts]

/-- What is seen of blocks apart from their guards is what is seen of the two scripts. -/
theorem map_events_append
    {View : Type}
    (view : Event → View)
    (unguarded : ∀ event, view event.unguarded = view event) :
    (ofScript (front ++ "\n" ++ back)).events.map view =
      (ofScript front).events.map view ++
        (ofScript back).events.map fun event =>
          view (event.moved (Line.ofScript front).length) := by
  have viewed := congrArg (List.map view) (events_append front starts)
  simpa only [List.map_map, List.map_append, Function.comp_def, unguarded] using viewed

/-- The variables of two scripts are those of the first one and, moved down, those of the
second one that have new names. -/
theorem declared_append :
    (ofScript (front ++ "\n" ++ back)).declared =
      (ofScript front).declared ++
        ((ofScript back).declared.filter fun declared =>
          !((ofScript front).declared.map Variable.name).contains declared.name).map
            (Variable.moved (Line.ofScript front).length) := by
  have moves :
      firstDeclarations
          (declarationsFrom false
            ((Line.ofScript back).map (Line.moved (Line.ofScript front).length))) =
        (ofScript back).declared.map (Variable.moved (Line.ofScript front).length) :=
    congrArg Outline.declared
      (ofLines_map (Line.keepsShape_moved (Line.ofScript front).length) (Line.ofScript back))
  have knownNames (name : Text) :
      ((declarationsFrom false (Line.ofScript front)).map Variable.name).contains name =
        ((ofScript front).declared.map Variable.name).contains name := by
    rw [Bool.eq_iff_iff, List.contains_iff_mem, List.contains_iff_mem]
    exact mem_map_eraseDupsBy_iff.symm
  have kept :=
    eraseDupsBy_append Variable.name (declarationsFrom false (Line.ofScript front))
      (declarationsFrom false
        ((Line.ofScript back).map (Line.moved (Line.ofScript front).length)))
  rw [ofScript, ofLines, Line.ofScript_append,
    declarationsFrom_append (startsBlock_moved starts _)]
  refine kept.trans (congrArg ((ofScript front).declared ++ ·) ?_)
  simp only [knownNames]
  rw [← firstDeclarations, moves, List.filter_map]
  rfl

end Script

/-! ## Owners of lines -/

/-- A block of a script lies within its lines. -/
theorem bounds_of_mem_events
    {script : Text}
    {event : Event}
    (isBlock : event ∈ (ofScript script).events) :
    1 ≤ event.start ∧ event.finish ≤ (Line.ofScript script).length := by
  have isOpener :
      (event.start, event.name) ∈ openers (Line.ofScript script) := by
    rw [← openers_ofScript]
    exact List.mem_map_of_mem isBlock
  obtain ⟨line, isLine, isStart⟩ := List.mem_filterMap.mp isOpener
  obtain ⟨name, _, sameStart⟩ := Option.map_eq_some_iff.mp isStart
  have startBounds := Line.number_bounds isLine
  rw [(Prod.mk.inj sameStart).1] at startBounds
  refine ⟨startBounds.1, ?_⟩
  rcases event.finish_eq with isOpen | ⟨command, isCommand, isNumber⟩
  · exact isOpen ▸ startBounds.2
  · exact isNumber ▸ (Line.number_bounds (mem_lines_of_mem_commands isBlock isCommand)).2

/-- Which block owns a line does not depend on guards. -/
theorem map_unguarded_eventAt?
    (outline : Outline)
    (number : Nat) :
    (outline.eventAt? number).map Event.unguarded =
      (outline.events.map Event.unguarded).find? fun event => event.owns number := by
  rw [eventAt?, List.find?_map]
  rfl

/-- In an outline that is moved, a line that is moved as much is owned by the same block. -/
theorem eventAt?_moved
    (outline : Outline)
    (offset number : Nat) :
    (outline.moved offset).eventAt? (number + offset) =
      (outline.eventAt? number).map (Event.moved offset) := by
  have sameOwner :
      (fun event : Event => event.owns (number + offset)) ∘ Event.moved offset =
        fun event => event.owns number :=
    funext fun event => event.owns_moved offset number
  change (outline.events.map (Event.moved offset)).find? _ = _
  rw [List.find?_map, sameOwner]
  rfl

section Script

variable {front back : Text}
  (starts : startsBlock (Line.ofScript back) = true)

include starts

/-- A line of the first script is owned by the block that owned it. -/
theorem eventAt?_front
    {number : Nat}
    (inFront : number ≤ (Line.ofScript front).length) :
    ((ofScript (front ++ "\n" ++ back)).eventAt? number).map Event.unguarded =
      ((ofScript front).eventAt? number).map Event.unguarded := by
  have notBelow :
      (((ofScript back).events.map (Event.moved (Line.ofScript front).length)).map
        Event.unguarded).find? (fun event => event.owns number) = none := by
    rw [List.find?_eq_none]
    intro event isMoved
    obtain ⟨_, inBack, rfl⟩ := List.mem_map.mp isMoved
    obtain ⟨block, isBlock, rfl⟩ := List.mem_map.mp inBack
    have startsBelow := (bounds_of_mem_events isBlock).1
    rw [Event.owns_eq_true_iff]
    simp only [Event.unguarded, Event.moved, Event.mapLines]
    omega
  rw [map_unguarded_eventAt?, map_unguarded_eventAt?, events_append front starts,
    List.map_append, List.find?_append, notBelow, Option.or_none]

/-- A line of the second script is owned by the block that owned it, moved down with it. -/
theorem eventAt?_back
    {number : Nat}
    (positive : 1 ≤ number) :
    ((ofScript (front ++ "\n" ++ back)).eventAt? (number + (Line.ofScript front).length)).map
        Event.unguarded =
      (((ofScript back).moved (Line.ofScript front).length).eventAt?
        (number + (Line.ofScript front).length)).map Event.unguarded := by
  have notAbove :
      ((ofScript front).events.map Event.unguarded).find?
        (fun event => event.owns (number + (Line.ofScript front).length)) = none := by
    rw [List.find?_eq_none]
    intro event inFront
    obtain ⟨block, isBlock, rfl⟩ := List.mem_map.mp inFront
    have endsAbove : block.unguarded.finish ≤ (Line.ofScript front).length :=
      (bounds_of_mem_events isBlock).2
    rw [Event.owns_eq_true_iff]
    omega
  rw [map_unguarded_eventAt?, map_unguarded_eventAt?, events_append front starts,
    List.map_append, List.find?_append, notAbove, Option.none_or]
  rfl

end Script

end Outline

end MissionLint
