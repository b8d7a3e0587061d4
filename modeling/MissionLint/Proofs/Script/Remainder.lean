import MissionLint.Proofs.Script.TrailingSpace
import MissionLint.Script.Rule

namespace MissionLint

/-!
# What readers leave

A reader never makes up text: what it leaves is an end of the text that it was given.
This holds of every rule, so the extent of an occurrence is known from what is left.
-/

namespace Reader

/-- What is found leaves an end of a text. -/
def LeavesEnd (left : Found → Text) (text : Text) (result : Option Found) : Prop :=
  ∀ found ∈ result, left found <:+ text

section LeavesEnd

variable {Found Next : Type}
  {left : Found → Text}
  {leftNext : Next → Text}
  {text onward : Text}
  {result : Option Found}

/-- What leaves an end of an end leaves an end. -/
theorem LeavesEnd.of_suffix
    (leaves : LeavesEnd left onward result)
    (isEnd : onward <:+ text) :
    LeavesEnd left text result :=
  fun found isFound => (leaves found isFound).trans isEnd

/-- An indent may be skipped first. -/
theorem LeavesEnd.skipIndent
    (leaves : LeavesEnd left (skipIndent text) result) :
    LeavesEnd left text result :=
  leaves.of_suffix (List.dropWhile_suffix _)

/-- A reader goes on with what the one before it left. -/
theorem LeavesEnd.bind
    {next : Found → Option Next}
    (first : LeavesEnd left text result)
    (goesOn : ∀ found, LeavesEnd leftNext (left found) (next found)) :
    LeavesEnd leftNext text (result.bind next) := by
  intro last isLast
  obtain ⟨found, isFound, isNext⟩ := Option.bind_eq_some_iff.mp isLast
  exact (goesOn found last isNext).trans (first found isFound)

/-- What is found may be changed as long as the same is left. -/
theorem LeavesEnd.map
    {change : Found → Next}
    (leaves : LeavesEnd left text result)
    (keeps : ∀ found, leftNext (change found) = left found) :
    LeavesEnd leftNext text (result.map change) := by
  intro last isLast
  obtain ⟨found, isFound, rfl⟩ := Option.map_eq_some_iff.mp isLast
  rw [keeps]
  exact leaves found isFound

/-- Nothing is found, so nothing is left. -/
theorem leavesEnd_none :
    LeavesEnd left text none := by
  rintro found ⟨⟩

/-- What is found leaves the given end. -/
theorem leavesEnd_some
    {found : Found}
    (isEnd : left found <:+ text) :
    LeavesEnd left text (some found) := by
  rintro _ ⟨⟩
  exact isEnd

end LeavesEnd

variable {text : Text}

/-- A literal leaves an end. -/
theorem leavesEnd_literal?
    {expected : Text} :
    LeavesEnd id text (literal? expected text) := by
  intro rest reads
  rw [eq_append_of_literal? reads]
  exact List.suffix_append _ _

/-- A name leaves an end. -/
theorem leavesEnd_name? :
    LeavesEnd Prod.snd text (name? text) := by
  rintro ⟨name, rest⟩ reads
  rw [(eq_append_of_name? reads).1]
  exact List.suffix_append _ _

/-- A character that is not doubled leaves an end. -/
theorem leavesEnd_notDoubled?
    {expected : CodePoint} :
    LeavesEnd id text (notDoubled? expected text) := by
  unfold notDoubled?
  split
  · split
    · exact leavesEnd_some (List.suffix_cons _ _)
    · exact leavesEnd_none
  · exact leavesEnd_none

/-- An indent leaves an end. -/
theorem leavesEnd_skipSomeIndent? :
    LeavesEnd id text (skipSomeIndent? text) := by
  unfold skipSomeIndent?
  split
  · exact leavesEnd_none
  · split
    · exact leavesEnd_some ((List.dropWhile_suffix _).trans (List.suffix_cons _ _))
    · exact leavesEnd_none

/-- A run leaves an end. -/
theorem leavesEnd_run?
    {belongs : CodePoint → Bool} :
    LeavesEnd Prod.snd text (run? belongs text) := by
  unfold run?
  split
  · exact leavesEnd_none
  · split
    · exact leavesEnd_some (List.dropWhile_suffix _)
    · exact leavesEnd_none

/-- A word leaves an end. -/
theorem leavesEnd_word?
    {words : List (Text × Value)} :
    LeavesEnd Prod.snd text (word? words text) := by
  intro found reads
  obtain ⟨word, _, isText⟩ := exists_of_word? reads
  exact ⟨word, isText.symm⟩

/-- A decimal leaves an end. -/
theorem leavesEnd_decimal? :
    LeavesEnd Prod.snd text (decimal? text) := by
  refine leavesEnd_run?.bind ?_
  rintro ⟨whole, rest⟩
  dsimp only
  split
  case h_1 afterPoint =>
    split
    case h_1 fraction afterFraction readsFraction =>
      have isEnd : afterFraction <:+ afterPoint :=
        leavesEnd_run? (fraction, afterFraction) readsFraction
      exact leavesEnd_some (isEnd.trans (List.suffix_cons _ _))
    case h_2 =>
      exact leavesEnd_some List.suffix_rfl
  case h_2 =>
    exact leavesEnd_some List.suffix_rfl

/-- A sign in front of what leaves an end leaves one too. -/
theorem leavesEnd_signed?
    {read? : Reader Text}
    (leaves : ∀ text, LeavesEnd Prod.snd text (read? text)) :
    LeavesEnd Prod.snd text (signed? read? text) := by
  unfold signed?
  split
  case h_1 rest =>
    refine LeavesEnd.of_suffix ?_ (List.suffix_cons _ rest)
    exact (leaves rest).map fun _ => rfl
  case h_2 =>
    exact leaves text

/-- A semicolon leaves an end. -/
theorem skipSemicolon_suffix :
    skipSemicolon text <:+ text := by
  unfold skipSemicolon
  split
  · exact List.suffix_cons _ _
  · exact List.suffix_rfl

end Reader

open Reader

variable {text : Text}

namespace Declaration

/-- A value leaves an end. -/
theorem readValue_suffix :
    (readValue text).2 <:+ text :=
  (List.dropWhile_suffix _).trans <| skipSemicolon_suffix.trans <|
    (List.dropWhile_suffix _).trans (List.dropWhile_suffix _)

/-- A typed declaration leaves an end. -/
theorem leavesEnd_readTyped? :
    LeavesEnd Prod.snd text (readTyped? text) := by
  refine leavesEnd_word?.skipIndent.bind ?_
  rintro ⟨type, rest⟩
  refine leavesEnd_skipSomeIndent?.bind fun rest => ?_
  refine leavesEnd_name?.bind ?_
  rintro ⟨name, rest⟩
  refine leavesEnd_literal?.skipIndent.bind fun rest => ?_
  exact leavesEnd_some readValue_suffix

/-- A declaration without a type leaves an end. -/
theorem leavesEnd_readUntyped? :
    LeavesEnd Prod.snd text (readUntyped? text) := by
  refine leavesEnd_name?.skipIndent.bind ?_
  rintro ⟨name, rest⟩
  refine leavesEnd_notDoubled?.skipIndent.bind fun rest => ?_
  exact leavesEnd_some readValue_suffix

end Declaration

/-- An opener leaves an end. -/
theorem Opener.leavesEnd_read? :
    LeavesEnd Prod.snd text (read? text) := by
  refine leavesEnd_name?.skipIndent.bind ?_
  rintro ⟨name, rest⟩
  refine leavesEnd_literal?.bind fun rest => ?_
  exact leavesEnd_some (List.dropWhile_suffix _)

namespace Trigger

/-- A condition leaves an end. -/
theorem readCondition_suffix :
    (readCondition text).2 <:+ text :=
  ⟨_, readCondition_parts text⟩

/-- A trigger leaves an end. -/
theorem leavesEnd_read? :
    LeavesEnd Prod.snd text (read? text) := by
  refine leavesEnd_word?.bind ?_
  rintro ⟨word, rest⟩
  refine leavesEnd_literal?.skipIndent.bind fun rest => ?_
  refine (leavesEnd_literal?.of_suffix readCondition_suffix).bind fun rest => ?_
  refine leavesEnd_literal?.skipIndent.bind fun rest => ?_
  refine leavesEnd_name?.skipIndent.bind ?_
  rintro ⟨target, rest⟩
  refine leavesEnd_literal?.skipIndent.bind fun rest => ?_
  exact leavesEnd_some List.suffix_rfl

end Trigger

namespace WhenClause

/-- A split at the last mark cuts the text in two. -/
theorem eq_append_of_splitAtLast?
    {mark : CodePoint}
    {before onward : Text}
    (splits : splitAtLast? mark text = some (before, onward)) :
    text = before ++ onward := by
  induction text generalizing before with
  | nil =>
      cases splits
  | cons c rest inductionHypothesis =>
      unfold splitAtLast? at splits
      split at splits
      case h_1 earlier later splitsRest =>
        cases splits
        rw [List.cons_append, ← inductionHypothesis splitsRest]
      case h_2 =>
        split at splits
        · cases splits
          rfl
        · cases splits

/-- The body of a clause leaves an end. -/
theorem leavesEnd_readBody? :
    LeavesEnd Prod.snd text (readBody? text) := by
  have parts := Trigger.readCondition_parts text
  unfold readBody?
  split
  case h_1 condition rest isCondition =>
    rw [isCondition] at parts
    dsimp only at parts
    split
    · exact leavesEnd_some ⟨condition, parts⟩
    · intro found isFound
      obtain ⟨⟨before, onward⟩, splits, rfl⟩ := Option.map_eq_some_iff.mp isFound
      refine ⟨before, ?_⟩
      rw [← parts, eq_append_of_splitAtLast? splits, List.append_assoc]

/-- A clause leaves an end. -/
theorem leavesEnd_read? :
    LeavesEnd Prod.snd text (read? text) := by
  refine leavesEnd_literal?.bind fun rest => ?_
  refine leavesEnd_literal?.skipIndent.bind fun rest => ?_
  refine leavesEnd_readBody?.bind ?_
  rintro ⟨body, rest⟩
  refine leavesEnd_literal?.bind fun rest => ?_
  exact leavesEnd_some List.suffix_rfl

end WhenClause

/-- An invocation leaves an end. -/
theorem Invocation.leavesEnd_read? :
    LeavesEnd Prod.snd text (read? text) := by
  refine leavesEnd_name?.bind ?_
  rintro ⟨name, rest⟩
  refine leavesEnd_literal?.bind fun rest => ?_
  refine leavesEnd_literal?.skipIndent.bind fun rest => ?_
  exact leavesEnd_some List.suffix_rfl

/-- A call leaves an end. -/
theorem CallCommand.leavesEnd_read? :
    LeavesEnd Prod.snd text (read? text) := by
  refine leavesEnd_literal?.bind fun rest => ?_
  refine leavesEnd_literal?.skipIndent.bind fun rest => ?_
  exact leavesEnd_name?.skipIndent

/-- An assignment leaves an end. -/
theorem Assignment.leavesEnd_read? :
    LeavesEnd Prod.snd text (read? text) := by
  refine leavesEnd_name?.bind ?_
  rintro ⟨name, rest⟩
  refine leavesEnd_notDoubled?.skipIndent.bind fun rest => ?_
  exact leavesEnd_some ((List.dropWhile_suffix _).trans (List.dropWhile_suffix _))

/-- An increment leaves an end. -/
theorem Increment.leavesEnd_read? :
    LeavesEnd Prod.snd text (read? text) := by
  refine leavesEnd_name?.skipIndent.bind ?_
  rintro ⟨name, rest⟩
  refine leavesEnd_literal?.skipIndent.bind fun rest => ?_
  refine leavesEnd_decimal?.skipIndent.bind ?_
  rintro ⟨amount, rest⟩
  exact leavesEnd_some (List.dropWhile_suffix _)

namespace IntegerLiteral

/-- The digits of an integer literal leave an end. -/
theorem leavesEnd_readDigits? :
    LeavesEnd Prod.snd text (readDigits? text) :=
  leavesEnd_signed? fun _ => leavesEnd_run?

/-- An integer literal leaves an end. -/
theorem leavesEnd_read? :
    LeavesEnd Prod.snd text (read? text) := by
  refine leavesEnd_readDigits?.skipIndent.bind ?_
  rintro ⟨digits, rest⟩
  exact leavesEnd_some (List.dropWhile_suffix _)

end IntegerLiteral

/-- An oxygen level leaves an end. -/
theorem OxygenLevel.leavesEnd_read? :
    LeavesEnd Prod.snd text (read? text) := by
  refine leavesEnd_literal?.bind fun rest => ?_
  refine leavesEnd_literal?.skipIndent.bind fun rest => ?_
  refine leavesEnd_run?.skipIndent.bind ?_
  rintro ⟨current, rest⟩
  refine leavesEnd_literal?.skipIndent.bind fun rest => ?_
  refine leavesEnd_run?.skipIndent.bind ?_
  rintro ⟨maximum, rest⟩
  exact leavesEnd_some List.suffix_rfl

/-- A spawner leaves an end. -/
theorem Spawner.leavesEnd_read? :
    LeavesEnd Prod.snd text (read? text) := by
  refine leavesEnd_word?.bind ?_
  rintro ⟨⟨⟩, rest⟩
  refine leavesEnd_literal?.skipIndent.bind fun rest => ?_
  exact leavesEnd_some List.suffix_rfl

namespace Comparison

/-- The right side of a comparison leaves an end. -/
theorem leavesEnd_readRight? :
    LeavesEnd Prod.snd text (readRight? text) := by
  unfold readRight?
  split
  case h_1 found reads =>
    exact leavesEnd_some (leavesEnd_signed? (fun _ => leavesEnd_decimal?) found reads)
  case h_2 =>
    exact leavesEnd_name?

/-- A comparison leaves an end. -/
theorem leavesEnd_read? :
    LeavesEnd Prod.snd text (read? text) := by
  refine leavesEnd_name?.bind ?_
  rintro ⟨side, rest⟩
  refine leavesEnd_word?.skipIndent.bind ?_
  rintro ⟨operator, rest⟩
  refine leavesEnd_readRight?.skipIndent.bind ?_
  rintro ⟨right, rest⟩
  exact leavesEnd_some List.suffix_rfl

end Comparison

namespace ConditionItem

/-- The word of a connective leaves an end. -/
theorem leavesEnd_readWord?
    {word : Text} :
    LeavesEnd id text (readWord? word text) := by
  unfold readWord?
  split
  · dsimp only
    split
    · exact leavesEnd_none
    · exact leavesEnd_some (List.drop_suffix _ _)
  · exact leavesEnd_none

/-- A connective leaves an end. -/
theorem leavesEnd_readConnective? :
    LeavesEnd id text (readConnective? text) := by
  unfold readConnective?
  split
  case h_1 rest reads =>
    exact leavesEnd_some (leavesEnd_readWord? rest reads)
  case h_2 =>
    exact leavesEnd_readWord?

/-- An item of a condition leaves an end. -/
theorem leavesEnd_read? :
    LeavesEnd Prod.snd text (read? text) := by
  unfold read?
  split
  case h_1 comparison rest reads =>
    exact leavesEnd_some (Comparison.leavesEnd_read? (comparison, rest) reads)
  split
  case h_1 rest reads =>
    exact leavesEnd_some (leavesEnd_readConnective? rest reads)
  split
  case h_1 name rest reads =>
    exact leavesEnd_some (leavesEnd_name? (name, rest) reads)
  split
  case h_1 number rest reads =>
    exact leavesEnd_some (leavesEnd_decimal? (number, rest) reads)
  exact leavesEnd_run?.map fun _ => rfl

/-- The items of a condition leave an end. -/
theorem readAll_suffix
    (text : Text) :
    (readAll text).2 <:+ text := by
  fun_induction readAll text with
  | case1 =>
      exact List.suffix_rfl
  | case2 text item afterItem reads rest shorter items remaining readsAll inductionHypothesis =>
      rw [readsAll] at inductionHypothesis
      exact inductionHypothesis.trans <|
        (List.dropWhile_suffix _).trans (leavesEnd_read? (item, afterItem) reads)
  | case3 text item afterItem reads rest _ =>
      exact (List.dropWhile_suffix _).trans (leavesEnd_read? (item, afterItem) reads)

end ConditionItem

/-- A whole condition leaves an end. -/
theorem Condition.leavesEnd_read? :
    LeavesEnd Prod.snd text (read? text) :=
  leavesEnd_some ((ConditionItem.readAll_suffix _).trans (List.dropWhile_suffix _))

namespace Rule

/-- A token that is read leaves an end. -/
theorem leavesEnd_ofReader
    {name : Text}
    {read? : Reader Value}
    (leaves : ∀ text, LeavesEnd Prod.snd text (read? text)) :
    ∀ text, LeavesEnd id text ((ofReader name read?).rest? text) :=
  fun text => (leaves text).map fun _ => rfl

/-- A token that is a run leaves an end. -/
theorem leavesEnd_ofRun
    {name : Text}
    {belongs : CodePoint → Bool} :
    ∀ text, LeavesEnd id text ((ofRun name belongs).rest? text) :=
  fun _ => leavesEnd_some (List.dropWhile_suffix _)

/-- Every rule leaves an end of the text that it is given. -/
theorem leavesEnd_rest? :
    ∀ rule ∈ all, ∀ text, LeavesEnd id text (rule.rest? text) := by
  have named (name : Text) :
      ∀ text, LeavesEnd id text ((ofReader name Reader.name?).rest? text) :=
    leavesEnd_ofReader fun _ => leavesEnd_name?
  simp only [all, List.forall_mem_cons, List.not_mem_nil, false_imp_iff, implies_true, and_true]
  exact ⟨leavesEnd_ofReader fun _ => Declaration.leavesEnd_readTyped?,
    leavesEnd_ofReader fun _ => Declaration.leavesEnd_readUntyped?,
    leavesEnd_ofReader fun _ => leavesEnd_word?, named _, leavesEnd_ofRun,
    leavesEnd_ofReader fun _ => Opener.leavesEnd_read?, named _,
    leavesEnd_ofReader fun _ => Invocation.leavesEnd_read?, named _,
    leavesEnd_ofReader fun _ => Trigger.leavesEnd_read?,
    leavesEnd_ofReader fun _ => leavesEnd_word?,
    fun _ => leavesEnd_some Trigger.readCondition_suffix, named _,
    leavesEnd_ofReader fun _ => WhenClause.leavesEnd_read?,
    leavesEnd_ofReader fun _ => WhenClause.leavesEnd_readBody?,
    leavesEnd_ofReader fun _ => CallCommand.leavesEnd_read?, named _,
    leavesEnd_ofReader fun _ => Assignment.leavesEnd_read?, named _, leavesEnd_ofRun,
    leavesEnd_ofReader fun _ => Increment.leavesEnd_read?, named _,
    leavesEnd_ofReader fun _ => leavesEnd_decimal?,
    leavesEnd_ofReader fun _ => IntegerLiteral.leavesEnd_read?,
    leavesEnd_ofReader fun _ => IntegerLiteral.leavesEnd_readDigits?,
    leavesEnd_ofReader fun _ => OxygenLevel.leavesEnd_read?,
    leavesEnd_ofReader fun _ => leavesEnd_run?, leavesEnd_ofReader fun _ => leavesEnd_run?,
    leavesEnd_ofReader fun _ => Spawner.leavesEnd_read?,
    leavesEnd_ofReader fun _ => leavesEnd_word?,
    leavesEnd_ofReader fun _ => Condition.leavesEnd_read?,
    leavesEnd_ofReader fun _ => ConditionItem.leavesEnd_read?,
    leavesEnd_ofReader fun _ => Comparison.leavesEnd_read?, named _,
    leavesEnd_ofReader fun _ => leavesEnd_word?,
    leavesEnd_ofReader fun _ => Comparison.leavesEnd_readRight?,
    fun _ => ConditionItem.leavesEnd_readConnective?, named _,
    leavesEnd_ofReader fun _ => leavesEnd_decimal?,
    leavesEnd_ofReader fun _ => leavesEnd_run?, leavesEnd_ofRun,
    fun _ => leavesEnd_skipSomeIndent?, leavesEnd_ofRun⟩

end Rule

end MissionLint
