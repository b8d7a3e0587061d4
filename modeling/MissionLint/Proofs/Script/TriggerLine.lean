import MissionLint.Proofs.Script.Shape

namespace MissionLint

/-!
# Lines of triggers

Triggers stand on a line with a blank between neighbours.  A condition may hold parentheses
of either kind, brackets and words that look like the start of a trigger: it ends at the
first closing parenthesis after which, spacing apart, a bracket comes.  So each trigger is
read as it was written, at the place where it was written.
-/

namespace Trigger

/-- A trigger to be written.  Its target is a name.  Its condition stands on one line, and
in it no bracket comes after a closing parenthesis, be there spacing between them or not. -/
structure Written extends Trigger where
  named : Text.isName target = true
  oneLine : ('\n' : CodePoint) ∉ condition
  unended : ∀ before spacing after : Text,
    (∀ c ∈ spacing, Text.isSpacing c = true) →
      condition ≠ before ++ (")" ++ (spacing ++ ("[" ++ after)))

/-- Triggers on one line, with a space between any two. -/
def lineOf (triggers : List Written) : Text :=
  Text.join " " (triggers.map fun trigger => trigger.code)

/-- The triggers of a line that starts at an offset, each at the offset where its text
starts. -/
def placedFrom : Nat → List Written → List (Occurrence Trigger)
  | _, [] => []
  | offset, trigger :: rest =>
      ⟨offset, trigger.code.length, trigger.toTrigger⟩ ::
        placedFrom (offset + trigger.code.length + 1) rest

/-- What ends a condition is a closing parenthesis, spacing and a bracket. -/
theorem exists_of_endsCondition
    {text : Text}
    (ends : endsCondition text = true) :
    ∃ spacing after : Text,
      (∀ c ∈ spacing, Text.isSpacing c = true) ∧
        text = ")" ++ (spacing ++ ("[" ++ after)) := by
  unfold endsCondition at ends
  split at ends
  case h_1 rest =>
    have isBracket := eq_of_beq ends
    obtain ⟨after, onward⟩ := List.head?_eq_some_iff.mp isBracket
    refine ⟨rest.takeWhile Text.isSpacing, after, ?_, ?_⟩
    · intro c member
      exact List.mem_takeWhile_imp member
    · have parts : rest.takeWhile Text.isSpacing ++ Reader.skipSpacing rest = rest :=
        List.takeWhile_append_dropWhile
      rw [onward] at parts
      exact congrArg (List.cons _) parts.symm
  case h_2 =>
    cases ends

namespace Written

/-- No end of a condition ends it. -/
theorem endsCondition_eq_false
    (trigger : Written)
    {rest : Text}
    (isEnd : rest <:+ trigger.condition) :
    endsCondition rest = false := by
  refine Bool.eq_false_iff.mpr fun ends => ?_
  obtain ⟨spacing, after, isSpacing, isRest⟩ := exists_of_endsCondition ends
  obtain ⟨before, isCondition⟩ := isEnd
  apply trigger.unended before spacing after isSpacing
  rw [← isCondition, isRest]

/-- A written trigger is read as it is. -/
theorem read?_code
    (trigger : Written)
    (rest : Text) :
    read? (trigger.code ++ rest) = some (trigger.toTrigger, rest) :=
  Trigger.read?_code trigger.oneLine (fun _ => trigger.endsCondition_eq_false) trigger.named rest

end Written

/-- A trigger starts with a letter. -/
theorem exists_code_cons
    (trigger : Trigger) :
    ∃ first others, trigger.code = first :: others ∧ Text.isNameStart first = true := by
  obtain ⟨word, condition, target⟩ := trigger
  cases word <;>
    exact ⟨_, _, rfl, by decide⟩

/-- A trigger ends with a bracket. -/
theorem getLast?_code
    (trigger : Trigger) :
    trigger.code.getLast? = some (']' : CodePoint) := by
  rw [code, List.getLast?_append]
  rfl

/-- A trigger at a boundary is found there, and the search goes on after its bracket. -/
theorem Written.searchFrom_code
    (trigger : Written)
    {before : Option CodePoint}
    (apart : before.any Text.isNameChar = false)
    (position : Nat)
    (rest : Text) :
    Occurrence.searchFrom read? before position (trigger.code ++ rest) =
      ⟨position, trigger.code.length, trigger.toTrigger⟩ ::
        Occurrence.searchFrom read? (some ']') (position + trigger.code.length) rest := by
  have reads := trigger.read?_code rest
  have isLast := trigger.getLast?_code
  obtain ⟨first, others, isCode, starts⟩ := exists_code_cons trigger.toTrigger
  have isBoundary : Occurrence.isBoundary before first = true := by
    rw [Occurrence.isBoundary, starts, apart]
    rfl
  rw [isCode, List.cons_append] at reads
  rw [isCode] at isLast
  rw [isCode, List.cons_append, Occurrence.searchFrom_take isBoundary reads, isLast]
  rfl

/-- One trigger makes a line by itself. -/
theorem lineOf_singleton
    (trigger : Written) :
    lineOf [trigger] = trigger.code := by
  rw [lineOf, Text.join, List.map_singleton, List.intercalate_singleton]

/-- A line of two triggers and more starts with the first, and a blank follows it. -/
theorem lineOf_cons_cons
    (trigger next : Written)
    (rest : List Written) :
    lineOf (trigger :: next :: rest) = trigger.code ++ (" " ++ lineOf (next :: rest)) :=
  Text.join_cons_cons _ _ _ _

/-- The triggers of a line are found where they are written. -/
theorem searchFrom_lineOf
    (triggers : List Written)
    {before : Option CodePoint}
    (apart : before.any Text.isNameChar = false)
    (position : Nat) :
    Occurrence.searchFrom read? before position (lineOf triggers) =
      placedFrom position triggers := by
  induction triggers generalizing before position with
  | nil =>
      rw [lineOf, Text.join, List.map_nil, List.intercalate_nil, Occurrence.searchFrom, placedFrom]
  | cons trigger rest inductionHypothesis =>
      cases rest with
      | nil =>
          have alone := trigger.searchFrom_code apart position []
          rw [List.append_nil, Occurrence.searchFrom] at alone
          rw [lineOf_singleton, alone]
          rfl
      | cons next rest =>
          have skips (position : Nat) :
              Occurrence.searchFrom read? (some ']') position (" " ++ lineOf (next :: rest)) =
                Occurrence.searchFrom read? (some ' ') (position + 1) (lineOf (next :: rest)) :=
            Occurrence.searchFrom_of_unread rfl _ position
          rw [lineOf_cons_cons, trigger.searchFrom_code apart, skips, inductionHypothesis rfl]
          rfl

/-- The triggers of a line are the written ones, wherever the line starts. -/
theorem values_placedFrom
    (offset : Nat)
    (triggers : List Written) :
    (placedFrom offset triggers).map Occurrence.value = triggers.map Written.toTrigger := by
  induction triggers generalizing offset with
  | nil =>
      rfl
  | cons trigger rest inductionHypothesis =>
      rw [placedFrom, List.map_cons, inductionHypothesis, List.map_cons]

/-- A place in a line is how much text comes before the trigger there. -/
theorem exists_text_of_mem_placedFrom
    {offset : Nat}
    {triggers : List Written}
    {placed : Occurrence Trigger}
    (member : placed ∈ placedFrom offset triggers) :
    ∃ before after, lineOf triggers = before ++ (placed.value.code ++ after) ∧
      placed.start = offset + before.length := by
  induction triggers generalizing offset with
  | nil =>
      cases member
  | cons trigger rest inductionHypothesis =>
      rcases List.mem_cons.mp member with rfl | isLater
      · refine ⟨[], (lineOf (trigger :: rest)).drop trigger.code.length, ?_, rfl⟩
        cases rest with
        | nil =>
            simp [lineOf_singleton]
        | cons next rest =>
            simp [lineOf_cons_cons]
      · cases rest with
        | nil =>
            cases isLater
        | cons next rest =>
            obtain ⟨before, after, isLine, isStart⟩ := inductionHypothesis isLater
            refine ⟨trigger.code ++ (" " ++ before), after, ?_, ?_⟩
            · simp [lineOf_cons_cons, isLine]
            · have isBlank : (" " : Text).length = 1 :=
                rfl
              rw [isStart, List.length_append, List.length_append, isBlank]
              omega

/-- A line of triggers is read as the triggers from which it was written, in their order and
with their conditions as they are.  Each is found where its text starts, and its column is one
more than how much text comes before it. -/
theorem lineOf_is_read_back
    (triggers : List Written) :
    Occurrence.search read? (lineOf triggers) = placedFrom 0 triggers ∧
      inCode (lineOf triggers) = triggers.map Written.toTrigger ∧
      ∀ placed ∈ Occurrence.search read? (lineOf triggers),
        ∃ before after, lineOf triggers = before ++ (placed.value.code ++ after) ∧
          placed.start = before.length ∧ placed.column = before.length + 1 := by
  have isSearch : Occurrence.search read? (lineOf triggers) = placedFrom 0 triggers :=
    searchFrom_lineOf triggers rfl 0
  refine ⟨isSearch, ?_, ?_⟩
  · rw [inCode, Occurrence.values, isSearch, values_placedFrom]
  · intro placed member
    rw [isSearch] at member
    obtain ⟨before, after, isLine, isStart⟩ := exists_text_of_mem_placedFrom member
    rw [Nat.zero_add] at isStart
    exact ⟨before, after, isLine, isStart, congrArg (· + 1) isStart⟩

/-- Parentheses that do not match, a bracket, the start of a trigger and spaces at the end
are all part of a condition. -/
example :
    inCode "if(f(x) > (y)[A] when([) when( a) )[B]" =
      [⟨.onIf, "f(x) > (y", "A"⟩, ⟨.onWhen, "[) when( a) ", "B"⟩] := by
  decide +kernel

end Trigger

end MissionLint
