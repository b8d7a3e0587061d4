import MissionLint.Script.Outline

namespace MissionLint

/-!
# The order of command lines

The command lines of the event blocks, one block after another, are lines of the
script in their order.  So their numbers grow over all blocks.
-/

namespace Line

/-- Lines have consecutive numbers. -/
theorem map_number_numberFrom
    (first : Nat)
    (raws : List Text) :
    (numberFrom first raws).map Line.number = List.range' first raws.length := by
  induction raws generalizing first with
  | nil =>
      rfl
  | cons raw rest inductionHypothesis =>
      simp only [numberFrom, List.map_cons, inductionHypothesis, List.length_cons,
        List.range'_succ]
      rfl

/-- Every raw line is numbered. -/
theorem length_numberFrom
    (first : Nat)
    (raws : List Text) :
    (numberFrom first raws).length = raws.length := by
  have sameLength := congrArg List.length (map_number_numberFrom first raws)
  simpa using sameLength

/-- The lines of a script are numbered from one. -/
theorem map_number_ofScript
    (script : Text) :
    (ofScript script).map Line.number = List.range' 1 (ofScript script).length := by
  rw [ofScript, map_number_numberFrom, length_numberFrom]

/-- The numbers of lines ascend. -/
theorem pairwise_number_numberFrom
    (first : Nat)
    (raws : List Text) :
    (numberFrom first raws).Pairwise fun earlier later => earlier.number < later.number := by
  have numbers : (List.range' first raws.length).Pairwise (· < ·) :=
    List.pairwise_lt_range'
  rwa [← map_number_numberFrom, List.pairwise_map] at numbers

end Line

/-- The name of a block and the codes of its commands. -/
def Event.contents (block : Event) : Text × List Text :=
  (block.name, block.commands.map Line.code)

namespace Outline

/-- Collecting blocks takes command lines from the lines in order. -/
theorem commands_blocksFrom_sublist
    (current : Option Event)
    (lines : List Line) :
    ((blocksFrom current lines).flatMap Event.commands).Sublist
      (current.toList.flatMap Event.commands ++ lines) := by
  fun_induction blocksFrom current lines with
  | case1 current =>
      simp
  | case2 current line rest isBlank inductionHypothesis =>
      exact inductionHypothesis.trans
        ((List.Sublist.refl _).append (List.sublist_cons_self line rest))
  | case3 current line rest isCode name opens inductionHypothesis =>
      rw [List.flatMap_append]
      exact (List.Sublist.refl _).append
        (inductionHypothesis.trans (by simp))
  | case4 line rest isCode notOpener inductionHypothesis =>
      exact inductionHypothesis.trans
        ((List.Sublist.refl _).append (List.sublist_cons_self line rest))
  | case5 line rest isCode notOpener block isTyped inductionHypothesis =>
      exact inductionHypothesis.trans
        ((List.Sublist.refl _).append (List.sublist_cons_self line rest))
  | case6 line rest isCode notOpener block notTyped inductionHypothesis =>
      simpa using inductionHypothesis

/-- The command lines of a script's blocks are among its lines, in their order. -/
theorem commands_sublist
    (script : Text) :
    ((ofScript script).events.flatMap Event.commands).Sublist (ofScript script).lines := by
  have sameCommands :
      (ofScript script).events.flatMap Event.commands =
        (blocksFrom none (Line.ofScript script)).flatMap Event.commands := by
    simp [ofScript, ofLines, List.flatMap_map]
  rw [sameCommands]
  exact commands_blocksFrom_sublist none (Line.ofScript script)

/-- Commands are lines of the script. -/
theorem mem_lines_of_mem_commands
    {script : Text}
    {event : Event}
    {line : Line}
    (isBlock : event ∈ (ofScript script).events)
    (isCommand : line ∈ event.commands) :
    line ∈ (ofScript script).lines :=
  (commands_sublist script).subset (List.mem_flatMap.mpr ⟨event, isBlock, isCommand⟩)

/-- The command lines of a script's blocks have growing numbers over all blocks. -/
theorem pairwise_number_commands
    (script : Text) :
    ((ofScript script).events.flatMap Event.commands).Pairwise
      fun earlier later => earlier.number < later.number :=
  (Line.pairwise_number_numberFrom 1 _).sublist (commands_sublist script)

end Outline

end MissionLint
