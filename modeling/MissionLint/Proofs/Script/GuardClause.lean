import Mathlib.Data.List.Sort
import MissionLint.Proofs.Script.ClauseLine
import MissionLint.Proofs.Script.Leftmost

namespace MissionLint

/-!
# Guards are clauses

A trigger introduced by `when` is looked for with its target, and a clause without one.
The two searches end their finds at different places, so each may pass over what the other
finds.  Still no guard is passed over by the search for clauses: a condition that is read
from inside another one ends where that one ends.  So a clause that covers the start of a
guard would itself be a guard, and a guard that covers the start of a clause covers all
of it.
-/

namespace Text

/-- An end of a text that starts with a character missing from the first part lies in the
second part. -/
theorem suffix_of_suffix_append
    {passed onward inner : Text}
    {first : CodePoint}
    (isEnd : inner <:+ passed ++ onward)
    (starts : inner.head? = some first)
    (absent : first ∉ passed) :
    inner <:+ onward := by
  induction passed with
  | nil =>
      exact isEnd
  | cons c rest inductionHypothesis =>
      simp only [List.mem_cons, not_or] at absent
      rcases List.suffix_cons_iff.mp isEnd with rfl | isLater
      · exact absurd (Option.some.inj starts).symm absent.1
      · exact inductionHypothesis isLater absent.2

/-- A start that has no mark lies before the mark as a whole, if it lies there at all. -/
theorem exists_of_suffix_before
    {opening onward before rest : Text}
    {mark : CodePoint}
    (isEnd : opening ++ onward <:+ before ++ mark :: rest)
    (absent : mark ∉ opening)
    (reaches : ¬opening ++ onward <:+ mark :: rest) :
    ∃ passed more, before = passed ++ more ∧ onward = more ++ mark :: rest := by
  obtain ⟨first, isText⟩ := isEnd
  rcases List.append_eq_append_iff.mp isText with ⟨between, isBefore, isInner⟩ | ⟨beyond, _, isRest⟩
  · rcases List.append_eq_append_iff.mp isInner with
      ⟨more, isBetween, isOnward⟩ | ⟨more, isOpening, isRest⟩
    · refine ⟨first ++ opening, more, ?_, isOnward⟩
      rw [isBefore, isBetween, List.append_assoc]
    · cases more with
      | nil =>
          exact ⟨before, [], by simp, isRest.symm⟩
      | cons c others =>
          refine absurd ?_ absent
          rw [isOpening, (List.cons.inj isRest).1]
          exact List.mem_append_right _ List.mem_cons_self
  · exact absurd ⟨beyond, isRest.symm⟩ reaches

/-- An indent has nothing but indentation. -/
theorem not_mem_of_isIndent
    {indent : Text}
    (indented : ∀ c ∈ indent, isIndent c = true)
    {c : CodePoint}
    (other : isIndent c = false) :
    c ∉ indent := by
  intro member
  simp [indented c member] at other

end Text

namespace Trigger

/-- A condition that is read from inside another one ends where that one ends. -/
theorem readCondition_inside
    {text passed more rest : Text}
    (reads : readCondition text = (passed ++ more, rest)) :
    readCondition (more ++ rest) = (more, rest) := by
  induction passed generalizing text with
  | nil =>
      have parts := readCondition_parts text
      rw [reads] at parts
      dsimp only at parts
      rw [← List.nil_append more, parts, reads]
  | cons c others inductionHypothesis =>
      cases text with
      | nil =>
          cases reads
      | cons d onward =>
          rw [readCondition] at reads
          split at reads
          case isTrue =>
            cases reads
          case isFalse =>
            obtain ⟨isCondition, isRest⟩ := Prod.mk.inj reads
            exact inductionHypothesis (Prod.ext (List.cons.inj isCondition).2 isRest)

/-- What a trigger has after its condition: its target in brackets. -/
def readTarget? : Reader Text := fun text => do
  let rest ← Reader.literal? "[" (Reader.skipIndent text)
  let (target, rest) ← Reader.name? (Reader.skipIndent rest)
  let rest ← Reader.literal? "]" (Reader.skipIndent rest)
  return (target, rest)

/-- A trigger is its word, an indent, a condition in parentheses and a target. -/
theorem read?_eq_some_iff
    {text left : Text}
    {trigger : Trigger} :
    read? text = some (trigger, left) ↔
      ∃ indent onward after : Text,
        (∀ c ∈ indent, Text.isIndent c = true) ∧
          text = trigger.word.spelling ++ (indent ++ ("(" ++ onward)) ∧
          readCondition onward = (trigger.condition, ")" ++ after) ∧
          readTarget? after = some (trigger.target, left) := by
  constructor
  · intro reads
    simp only [read?, Option.bind_eq_bind, Option.bind_eq_some_iff, Prod.exists] at reads
    obtain ⟨word, afterWord, readsWord, onward, readsParenthesis, after, readsEnd, afterBracket,
      readsBracket, target, afterTarget, readsTarget, _, readsClose, isFound⟩ := reads
    cases isFound
    obtain ⟨indent, indented, isAfterWord⟩ := Reader.exists_of_literal?_skipIndent readsParenthesis
    refine ⟨indent, onward, after, indented, ?_, ?_, ?_⟩
    · rw [TriggerWord.eq_append_of_read? readsWord, isAfterWord]
    · rw [← Reader.eq_append_of_literal? readsEnd]
    · simp [readTarget?, readsBracket, readsTarget, readsClose]
  · rintro ⟨indent, onward, after, indented, rfl, readsCondition, readsTarget⟩
    obtain ⟨word, condition, target⟩ := trigger
    have afterWord (rest : Text) :
        TriggerWord.read? (word.spelling ++ (indent ++ ("(" ++ rest))) =
          some (word, indent ++ ("(" ++ rest)) := by
      cases word <;>
        rfl
    have skips : Reader.skipIndent (indent ++ ("(" ++ onward)) = "(" ++ onward :=
      Reader.skipIndent_append indented (Text.ends_before_mark rfl rfl onward)
    simp only [readTarget?, Option.bind_eq_bind, Option.bind_eq_some_iff,
      Prod.exists] at readsTarget
    obtain ⟨afterBracket, readsBracket, _, afterTarget, readsName, _, readsClose, isTarget⟩ :=
      readsTarget
    cases isTarget
    simp only [read?, afterWord, skips, Reader.literal?_append, readsCondition, readsBracket,
      readsName, readsClose, Option.bind_eq_bind, Option.bind_some]
    rfl

/-- A target is a name in brackets, with or without indents around it. -/
theorem exists_parts_of_readTarget?
    {text target left : Text}
    (reads : readTarget? text = some (target, left)) :
    ∃ indent afterBracket beforeEnd : Text,
      (∀ c ∈ indent ++ afterBracket ++ beforeEnd, Text.isIndent c = true) ∧
        Text.isName target = true ∧
        text = (indent ++ ("[" ++ afterBracket)) ++ (target ++ (beforeEnd ++ ("]" ++ left))) := by
  simp only [readTarget?, Option.bind_eq_bind, Option.bind_eq_some_iff, Prod.exists] at reads
  obtain ⟨onward, readsBracket, _, afterTarget, readsName, _, readsClose, isTarget⟩ := reads
  cases isTarget
  obtain ⟨indent, indented, isText⟩ := Reader.exists_of_literal?_skipIndent readsBracket
  obtain ⟨afterBracket, bracketIndented, isOnward⟩ := Reader.exists_indent onward
  obtain ⟨beforeEnd, endIndented, isAfterTarget⟩ :=
    Reader.exists_of_literal?_skipIndent readsClose
  obtain ⟨isName, named⟩ := Reader.eq_append_of_name? readsName
  refine ⟨indent, afterBracket, beforeEnd, ?_, named, ?_⟩
  · simp only [List.forall_mem_append]
    exact ⟨⟨indented, bracketIndented⟩, endIndented⟩
  · rw [isText, isOnward, isName, isAfterTarget]
    simp

/-- A target leaves an end of the text. -/
theorem suffix_of_readTarget?
    {text target left : Text}
    (reads : readTarget? text = some (target, left)) :
    left <:+ text := by
  obtain ⟨_, _, _, _, _, rfl⟩ := exists_parts_of_readTarget? reads
  exact (List.suffix_append _ _).trans <| (List.suffix_append _ _).trans <|
    (List.suffix_append _ _).trans (List.suffix_append _ _)

end Trigger

/-! ## A guard and a clause of which one covers the start of the other -/

section Inside

variable {text inner left leftInner body : Text}
  {trigger : Trigger}

/-- What starts with the word of a clause, after the start of a text that a trigger or a
clause introduces, comes after the parenthesis. -/
theorem suffix_of_suffix_opening
    {word : TriggerWord}
    {indent onward : Text}
    (indented : ∀ c ∈ indent, Text.isIndent c = true)
    (isEnd : inner <:+ word.spelling ++ (indent ++ ("(" ++ onward)))
    (isLater : inner ≠ word.spelling ++ (indent ++ ("(" ++ onward)))
    (starts : inner.head? = some ('w' : CodePoint)) :
    inner <:+ onward := by
  have noIndent : ('w' : CodePoint) ∉ indent :=
    Text.not_mem_of_isIndent indented (by decide)
  have afterWord : inner <:+ word.spelling.tail ++ (indent ++ ("(" ++ onward)) := by
    cases word <;>
      exact (List.suffix_cons_iff.mp isEnd).resolve_left isLater
  have noSpelling : ('w' : CodePoint) ∉ word.spelling.tail := by
    cases word <;>
      decide
  have afterSpelling := Text.suffix_of_suffix_append afterWord starts noSpelling
  have afterIndent := Text.suffix_of_suffix_append afterSpelling starts noIndent
  exact Text.suffix_of_suffix_append afterIndent starts (by decide)

/-- No clause starts in the target of a trigger. -/
theorem WhenClause.read?_eq_none_of_target
    {target : Text}
    (reads : Trigger.readTarget? text = some (target, left))
    (isEnd : inner <:+ text)
    (starts : inner.head? = some ('w' : CodePoint))
    (reaches : ¬inner <:+ left) :
    read? inner = none := by
  obtain ⟨indent, afterBracket, beforeEnd, indented, named, rfl⟩ :=
    Trigger.exists_parts_of_readTarget? reads
  simp only [List.forall_mem_append] at indented
  have noIndent {indent : Text} (indented : ∀ c ∈ indent, Text.isIndent c = true) :
      ('w' : CodePoint) ∉ indent :=
    Text.not_mem_of_isIndent indented (by decide)
  have noBracket : ('w' : CodePoint) ∉ indent ++ ("[" ++ afterBracket) := by
    simp only [List.mem_append, not_or]
    exact ⟨noIndent indented.1.1, by decide, noIndent indented.1.2⟩
  obtain ⟨passed, isText⟩ := Text.suffix_of_suffix_append isEnd starts noBracket
  rcases List.append_eq_append_iff.mp isText with ⟨name, isTarget, isInner⟩ | ⟨beyond, _, isRest⟩
  · rw [isInner]
    refine read?_eq_none_of_bracket (fun c member => ?_) indented.2
    refine Text.isNameChar_of_isName named ?_
    rw [isTarget]
    exact List.mem_append_right _ member
  · have afterIndent :=
      Text.suffix_of_suffix_append ⟨beyond, isRest.symm⟩ starts (noIndent indented.2)
    exact absurd (Text.suffix_of_suffix_append afterIndent starts (by decide)) reaches

/-- A clause starts with the first letter of its word. -/
theorem WhenClause.head?_of_read?
    (reads : read? inner = some (body, leftInner)) :
    inner.head? = some ('w' : CodePoint) := by
  obtain ⟨_, _, _, rfl, _⟩ := read?_eq_some_iff.mp reads
  rfl

/-- What is read up to a parenthesis is the whole body of a clause.  The parenthesis comes after
it, so nothing is given back of it. -/
theorem WhenClause.readBody?_of_readCondition
    {condition after : Text}
    (reads : Trigger.readCondition text = (condition, ")" ++ after)) :
    readBody? text = some (condition, ")" ++ after) := by
  unfold readBody?
  rw [reads]
  rfl

/-- A guard is a clause with the same condition. -/
theorem Trigger.exists_clause
    (reads : read? text = some (trigger, left))
    (isGuard : trigger.isGuard = true) :
    ∃ after, WhenClause.read? text = some (trigger.condition, after) := by
  obtain ⟨indent, onward, after, indented, isText, readsCondition, _⟩ :=
    read?_eq_some_iff.mp reads
  have isWhen : trigger.word = .onWhen :=
    eq_of_beq isGuard
  rw [isWhen] at isText
  exact ⟨after, WhenClause.read?_eq_some_iff.mpr ⟨indent, onward, indented, isText,
    WhenClause.readBody?_of_readCondition readsCondition⟩⟩

/-- What is read of the condition of a clause: a part of what a trigger would have, which is
all of it if a parenthesis comes after that. -/
theorem WhenClause.exists_of_readBody?
    {rest : Text}
    (reads : readBody? text = some (body, rest)) :
    ∃ taken left,
      Trigger.readCondition text = (body ++ taken, left) ∧
        taken ++ left = rest ∧
        (left.head? = some (')' : CodePoint) → taken = []) := by
  unfold readBody? at reads
  split at reads
  case h_1 condition left readsCondition =>
    split at reads
    case isTrue =>
      cases reads
      refine ⟨[], rest, ?_, rfl, fun _ => rfl⟩
      rw [readsCondition, List.append_nil]
    case isFalse noParenthesis =>
      obtain ⟨⟨before, taken⟩, splits, isRead⟩ := Option.map_eq_some_iff.mp reads
      cases isRead
      refine ⟨taken, left, ?_, rfl, fun isParenthesis => absurd ?_ noParenthesis⟩
      · rw [readsCondition, eq_append_of_splitAtLast? splits]
      · exact beq_iff_eq.mpr isParenthesis

/-- The condition of a clause that starts inside another condition ends where that one
ends. -/
theorem Trigger.exists_readCondition_inside
    {onward taken rest indent innerOnward : Text}
    (reads : readCondition onward = (body ++ taken, rest))
    (closes : taken ++ rest = ")" ++ left)
    (indented : ∀ c ∈ indent, Text.isIndent c = true)
    (isInner : inner = "when" ++ (indent ++ ("(" ++ innerOnward)))
    (isEnd : inner <:+ onward)
    (reaches : ¬inner <:+ ")" ++ left) :
    ∃ more, readCondition innerOnward = (more ++ taken, rest) := by
  have isOnward : body ++ (")" ++ left) = onward := by
    have parts := readCondition_parts onward
    rwa [reads, List.append_assoc, closes] at parts
  have isOpening : inner = ("when" ++ (indent ++ "(")) ++ innerOnward := by
    simp only [isInner, List.append_assoc]
  have unclosed : (')' : CodePoint) ∉ ("when" ++ (indent ++ "(") : Text) := by
    simp only [List.mem_append, not_or]
    exact ⟨by decide, Text.not_mem_of_isIndent indented (by decide), by decide⟩
  rw [isOpening] at reaches
  rw [isOpening, ← isOnward] at isEnd
  obtain ⟨passed, more, isBody, isInnerOnward⟩ :=
    Text.exists_of_suffix_before isEnd unclosed reaches
  have isMore : innerOnward = (more ++ taken) ++ rest := by
    rw [isInnerOnward, List.append_assoc, closes]
    rfl
  rw [isBody, List.append_assoc] at reads
  exact ⟨more, by rw [isMore, readCondition_inside reads]⟩

/-- A clause that starts inside a trigger ends inside it. -/
theorem Trigger.suffix_of_clause_inside
    (reads : read? text = some (trigger, left))
    (readsInner : WhenClause.read? inner = some (body, leftInner))
    (isEnd : inner <:+ text)
    (isLater : inner ≠ text)
    (reaches : ¬inner <:+ left) :
    left <:+ leftInner := by
  have starts := WhenClause.head?_of_read? readsInner
  obtain ⟨indent, onward, after, indented, rfl, readsCondition, readsTarget⟩ :=
    read?_eq_some_iff.mp reads
  have inOnward : inner <:+ onward :=
    suffix_of_suffix_opening indented isEnd isLater starts
  have inCondition : ¬inner <:+ ")" ++ after := by
    intro isAfter
    have inTarget : inner <:+ after :=
      Text.suffix_of_suffix_append isAfter starts (by decide)
    rw [WhenClause.read?_eq_none_of_target readsTarget inTarget starts reaches] at readsInner
    cases readsInner
  obtain ⟨innerIndent, innerOnward, innerIndented, isInner, readsBody⟩ :=
    WhenClause.read?_eq_some_iff.mp readsInner
  rw [← List.append_nil trigger.condition] at readsCondition
  obtain ⟨more, readsInside⟩ :=
    exists_readCondition_inside readsCondition rfl innerIndented isInner inOnward inCondition
  have isAfter : leftInner = after := by
    rw [WhenClause.readBody?_of_readCondition readsInside] at readsBody
    cases readsBody
    rfl
  rw [isAfter]
  exact suffix_of_readTarget? readsTarget

/-- A guard that starts inside a clause makes a trigger of the clause, which ends with it.  A
parenthesis comes after what is read of the condition, so nothing is given back of it. -/
theorem WhenClause.exists_trigger_around
    (reads : read? text = some (body, left))
    (readsInner : Trigger.read? inner = some (trigger, leftInner))
    (isGuard : trigger.isGuard = true)
    (isEnd : inner <:+ text)
    (isLater : inner ≠ text)
    (reaches : ¬inner <:+ left) :
    leftInner <:+ left ∧ ∃ around, Trigger.read? text = some (around, leftInner) := by
  have starts : inner.head? = some ('w' : CodePoint) := by
    obtain ⟨_, readsClause⟩ := Trigger.exists_clause readsInner isGuard
    exact head?_of_read? readsClause
  obtain ⟨indent, onward, indented, isText, readsBody⟩ := read?_eq_some_iff.mp reads
  have isSpelled : text = TriggerWord.onWhen.spelling ++ (indent ++ ("(" ++ onward)) :=
    isText
  have inOnward : inner <:+ onward := by
    rw [isSpelled] at isEnd isLater
    exact suffix_of_suffix_opening indented isEnd isLater starts
  have inBody : ¬inner <:+ ")" ++ left := by
    intro isAfter
    exact reaches (Text.suffix_of_suffix_append isAfter starts (by decide))
  obtain ⟨taken, rest, readsCondition, closes, whole⟩ := exists_of_readBody? readsBody
  obtain ⟨innerIndent, innerOnward, after, innerIndented, isInner, readsInside, readsTarget⟩ :=
    Trigger.read?_eq_some_iff.mp readsInner
  have isWhen : trigger.word = .onWhen :=
    eq_of_beq isGuard
  rw [isWhen] at isInner
  obtain ⟨more, readsMore⟩ :=
    Trigger.exists_readCondition_inside readsCondition closes innerIndented isInner inOnward inBody
  rw [readsMore] at readsInside
  obtain ⟨_, rfl⟩ := Prod.mk.inj readsInside
  obtain rfl := whole rfl
  obtain rfl : after = left :=
    List.append_cancel_left closes
  rw [List.append_nil] at readsCondition
  exact ⟨Trigger.suffix_of_readTarget? readsTarget, ⟨.onWhen, body, trigger.target⟩,
    Trigger.read?_eq_some_iff.mpr
      ⟨indent, onward, after, indented, isSpelled, readsCondition, readsTarget⟩⟩

end Inside

/-! ## The guards and the clauses of a line -/

namespace Occurrence

/-- A search finds the leftmost occurrences. -/
theorem leftmostFrom_search
    {read? : Reader Value}
    (leaves : ∀ text, Reader.LeavesEnd Prod.snd text (read? text))
    (text : Text) :
    LeftmostFrom read? text 0 (search read? text) :=
  (leftmostFrom_iff leaves rfl rfl).mpr rfl

namespace LeftmostFrom

variable {read? : Reader Value}
  {text : Text}
  {position : Nat}
  {found : List (Occurrence Value)}

/-- Of two occurrences the one that starts first ends before the other starts. -/
theorem stop_le_start
    (leftmost : LeftmostFrom read? text position found)
    {first second : Occurrence Value}
    (isFirst : first ∈ found)
    (isSecond : second ∈ found)
    (isBefore : first.start < second.start) :
    first.stop ≤ second.start := by
  let ordered (earlier later : Occurrence Value) : Prop :=
    earlier.start < later.start → earlier.stop ≤ later.start
  have inOrder : found.Pairwise ordered := by
    refine leftmost.apart.imp ?_
    intro _ _ apart _
    exact apart
  have inReverse : found.Pairwise (flip ordered) := by
    refine leftmost.increasing.imp ?_
    intro _ _ isLater isEarlier
    exact absurd isEarlier (Nat.lt_asymm isLater)
  have withItself : ∀ occurrence ∈ found, ordered occurrence occurrence :=
    fun _ _ isBeforeItself => absurd isBeforeItself (Nat.lt_irrefl _)
  exact List.Pairwise.forall_of_forall_of_flip withItself inOrder inReverse isFirst isSecond
    isBefore

end LeftmostFrom

/-- An end of an end of a text starts no earlier. -/
theorem le_of_drop_suffix_drop
    {text : Text}
    {first second : Nat}
    (isEnd : text.drop second <:+ text.drop first)
    (inText : first ≤ text.length) :
    first ≤ second := by
  have lengths := isEnd.length_le
  simp only [List.length_drop] at lengths
  omega

/-- What is left further on is a proper end of what is left before. -/
theorem drop_suffix_drop_of_lt
    (text : Text)
    {first second : Nat}
    (isLater : first < second)
    (inText : second ≤ text.length) :
    text.drop second <:+ text.drop first ∧ text.drop second ≠ text.drop first := by
  refine ⟨List.drop_suffix_drop_left text (Nat.le_of_lt isLater), fun same => ?_⟩
  have noLater : second ≤ first :=
    le_of_drop_suffix_drop ⟨[], same.symm⟩ inText
  omega

end Occurrence

/-- Where a guard is found, a clause with the same condition is found.  A clause that covered the
start of the guard would be a trigger itself, so the search for triggers would take it, or one
before it that covers it, and pass over the guard. -/
theorem Trigger.exists_clause_at
    {code : Text}
    {found : Occurrence Trigger}
    (isFound : found ∈ Occurrence.search read? code)
    (isGuard : found.value.isGuard = true) :
    ∃ clause ∈ Occurrence.search WhenClause.read? code,
      clause.start = found.start ∧ clause.value = found.value.condition := by
  have triggers := Occurrence.leftmostFrom_search (fun _ => leavesEnd_read?) code
  have clauses := Occurrence.leftmostFrom_search (fun _ => WhenClause.leavesEnd_read?) code
  have reads := triggers.reads found isFound
  obtain ⟨after, readsClause⟩ := exists_clause reads isGuard
  obtain ⟨clause, isClause, isHere | ⟨isBefore, isInside⟩⟩ :=
    clauses.complete found.start (Nat.zero_le _) (triggers.onBoundaries found isFound)
      (by rw [readsClause]; rfl)
  · have readsHere := clauses.reads clause isClause
    rw [isHere, readsClause] at readsHere
    exact ⟨clause, isClause, isHere, (Prod.mk.inj (Option.some.inj readsHere)).1.symm⟩
  · exfalso
    have clauseFits := clauses.inText clause isClause
    have readsCovering := clauses.reads clause isClause
    obtain ⟨isEnd, isLater⟩ := Occurrence.drop_suffix_drop_of_lt code isBefore (by omega)
    have reaches : ¬code.drop found.start <:+ code.drop clause.stop := fun isAfter =>
      absurd (Occurrence.le_of_drop_suffix_drop isAfter clauseFits) (Nat.not_le_of_lt isInside)
    obtain ⟨endsAfter, around, readsAround⟩ :=
      WhenClause.exists_trigger_around readsCovering reads isGuard isEnd isLater reaches
    obtain ⟨other, isOther, covers⟩ :=
      triggers.complete clause.start (Nat.zero_le _) (clauses.onBoundaries clause isClause)
        (by rw [readsAround]; rfl)
    have otherFits := triggers.inText other isOther
    have readsOther := triggers.reads other isOther
    have stopsBefore : other.stop ≤ found.start :=
      triggers.stop_le_start isOther isFound (by omega)
    have stopsAfter : clause.stop ≤ other.stop := by
      refine Occurrence.le_of_drop_suffix_drop ?_ clauseFits
      rcases covers with same | ⟨startsBefore, covered⟩
      · rw [same, readsAround] at readsOther
        rwa [(Prod.mk.inj (Option.some.inj readsOther)).2] at endsAfter
      · obtain ⟨isEnd, isLater⟩ := Occurrence.drop_suffix_drop_of_lt code startsBefore (by omega)
        refine suffix_of_clause_inside readsOther readsCovering isEnd isLater fun isAfter => ?_
        have noEarlier := Occurrence.le_of_drop_suffix_drop isAfter otherFits
        omega
    omega

/-- What stands in order at some of the places of another list, and is found there, is part
of that list in its order. -/
theorem Occurrence.sublist_of_subset
    {Placed : Type}
    {place : Placed → Nat}
    {part whole : List Placed}
    (partInOrder : part.Pairwise fun earlier later => place earlier < place later)
    (wholeInOrder : whole.Pairwise fun earlier later => place earlier < place later)
    (isPart : part ⊆ whole) :
    part.Sublist whole := by
  have antisymmetric : Std.Antisymm fun earlier later : Placed => place earlier < place later :=
    ⟨fun _ _ isBefore isAfter => absurd isBefore (Nat.lt_asymm isAfter)⟩
  have distinct : part.Nodup := by
    refine partInOrder.imp ?_
    rintro earlier _ isBefore rfl
    exact Nat.lt_irrefl _ isBefore
  exact List.sublist_of_subperm_of_pairwise (List.subperm_of_subset distinct isPart) partInOrder
    wholeInOrder

/-- The conditions of the guards of a line are among those of its clauses, in their order. -/
theorem Trigger.conditions_sublist
    (code : Text) :
    (((inCode code).filter isGuard).map condition).Sublist (WhenClause.inCode code) := by
  let guards := (Occurrence.search read? code).filter fun found => found.value.isGuard
  let clauses := Occurrence.search WhenClause.read? code
  have guardsInOrder :
      (guards.map fun found => (found.start, found.value.condition)).Pairwise
        fun earlier later => earlier.1 < later.1 :=
    List.pairwise_map.mpr
      ((Occurrence.leftmostFrom_search (fun _ => leavesEnd_read?) code).increasing.filter _)
  have clausesInOrder :
      (clauses.map fun clause => (clause.start, clause.value)).Pairwise
        fun earlier later => earlier.1 < later.1 :=
    List.pairwise_map.mpr
      (Occurrence.leftmostFrom_search (fun _ => WhenClause.leavesEnd_read?) code).increasing
  have isPart :
      (guards.map fun found => (found.start, found.value.condition)) ⊆
        clauses.map fun clause => (clause.start, clause.value) := by
    intro placed member
    obtain ⟨found, isGuard, rfl⟩ := List.mem_map.mp member
    obtain ⟨isFound, guards⟩ := List.mem_filter.mp isGuard
    obtain ⟨clause, isClause, sameStart, sameCondition⟩ := exists_clause_at isFound guards
    refine List.mem_map.mpr ⟨clause, isClause, ?_⟩
    rw [sameStart, sameCondition]
  have conditions :=
    (Occurrence.sublist_of_subset guardsInOrder clausesInOrder isPart).map Prod.snd
  have areConditions :
      (guards.map fun found => (found.start, found.value.condition)).map Prod.snd =
        ((inCode code).filter isGuard).map condition := by
    simp only [guards, inCode, Occurrence.values, List.filter_map, List.map_map]
    rfl
  have areClauses :
      (clauses.map fun clause => (clause.start, clause.value)).map Prod.snd =
        WhenClause.inCode code := by
    simp only [clauses, WhenClause.inCode, Occurrence.values, List.map_map]
    rfl
  rwa [areConditions, areClauses] at conditions

end MissionLint
