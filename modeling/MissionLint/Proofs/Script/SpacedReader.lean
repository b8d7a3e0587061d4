import Mathlib.Data.List.Induction
import MissionLint.Script.Outline
import MissionLint.Script.Condition
import MissionLint.Proofs.Script.CarriageReturn
import MissionLint.Proofs.Script.Collection

namespace MissionLint

/-!
# Reading with a space at the end

Two runs of a reader, of which the second has one more space at the end of its text.  A
reader either leaves that space unread or takes it together with what it reads, and then
it takes everything.
-/

namespace Reader

/-- A text, and the same text with a space after it.  Where all is read, the space may
be read too. -/
inductive Extends : Text → Text → Prop where
  | space (text : Text) : Extends text (text ++ [(' ' : CodePoint)])
  | ended : Extends [] []

/-- A text, and the same text with a space after it, which is read where all is read. -/
inductive Absorbs : Text → Text → Prop where
  | space (first : CodePoint) (rest : Text) :
      Absorbs (first :: rest) (first :: rest ++ [(' ' : CodePoint)])
  | ended : Absorbs [] []

/-- Both readings fail, or both give the same value and leave related rests. -/
def Agree
    (related : Text → Text → Prop)
    (left right : Option (Value × Text)) :
    Prop :=
  Option.Rel (fun left right => left.1 = right.1 ∧ related left.2 right.2) left right

/-- Related readings that go on alike are related. -/
theorem rel_bind
    {first : α → β → Prop}
    {last : γ → δ → Prop}
    {left : Option α}
    {right : Option β}
    {leftNext : α → Option γ}
    {rightNext : β → Option δ}
    (related : Option.Rel first left right)
    (next : ∀ a b, first a b → Option.Rel last (leftNext a) (rightNext b)) :
    Option.Rel last (left >>= leftNext) (right >>= rightNext) := by
  cases related with
  | none =>
      exact .none
  | some isFirst =>
      exact next _ _ isFirst

/-- Related readings both fail, or both succeed. -/
theorem rel_cases
    {related : α → β → Prop}
    {left : Option α}
    {right : Option β}
    (both : Option.Rel related left right) :
    left = none ∧ right = none ∨ ∃ a b, left = some a ∧ right = some b ∧ related a b := by
  cases both with
  | none =>
      exact .inl ⟨rfl, rfl⟩
  | some isRelated =>
      exact .inr ⟨_, _, rfl, rfl, isRelated⟩

/-- Where one reading gives a value, the other gives the same. -/
theorem Agree.exists_of_some
    {related : Text → Text → Prop}
    {value : Value}
    {rest : Text}
    {right : Option (Value × Text)}
    (agree : Agree related (some (value, rest)) right) :
    ∃ other, right = some (value, other) ∧ related rest other := by
  cases agree with
  | some both =>
      obtain ⟨rfl, isRest⟩ := both
      exact ⟨_, rfl, isRest⟩

/-- Where one reading fails, the other does. -/
theorem Agree.eq_none
    {related : Text → Text → Prop}
    {right : Option (Value × Text)}
    (agree : Agree related none right) :
    right = none := by
  cases agree
  rfl

/-- Readings that agree cover the same texts. -/
theorem whole?_of_agree
    {read? : Reader Value}
    {text spaced : Text}
    (agree : Agree Absorbs (read? text) (read? spaced)) :
    whole? read? spaced = whole? read? text := by
  unfold whole?
  rcases rel_cases agree with
    ⟨fails, failsSpaced⟩ | ⟨⟨value, rest⟩, ⟨_, remaining⟩, found, foundSpaced, rfl, absorbs⟩
  · rw [fails, failsSpaced]
  · rw [found, foundSpaced]
    cases absorbs <;>
      rfl

section Classes

variable {text spaced : Text} {belongs : CodePoint → Bool}

/-- A space that is absorbed is a space after the text. -/
theorem Absorbs.toExtends
    (absorbs : Absorbs text spaced) :
    Extends text spaced := by
  cases absorbs with
  | space first rest =>
      exact .space (first :: rest)
  | ended =>
      exact .ended

/-- Either all is read, or a space is left after the text. -/
theorem Extends.eq_or
    (isSpaced : Extends text spaced) :
    (text = [] ∧ spaced = []) ∨ spaced = text ++ [(' ' : CodePoint)] := by
  cases isSpaced with
  | ended =>
      exact .inl ⟨rfl, rfl⟩
  | space =>
      exact .inr rfl

/-- Where spaces are dropped, the space at the end is too. -/
theorem Extends.dropWhile_space
    (isSpaced : Extends text spaced)
    (space : belongs ' ' = true) :
    Absorbs (text.dropWhile belongs) (spaced.dropWhile belongs) := by
  cases isSpaced with
  | ended =>
      exact .ended
  | space =>
      rw [List.dropWhile_append]
      cases left : text.dropWhile belongs with
      | nil =>
          simpa [space] using Absorbs.ended
      | cons first rest =>
          exact .space first rest

/-- A space at the end is skipped with an indent. -/
theorem Extends.skipIndent
    (isSpaced : Extends text spaced) :
    Absorbs (Reader.skipIndent text) (Reader.skipIndent spaced) :=
  isSpaced.dropWhile_space (by decide)

/-- A space at the end is skipped with white space. -/
theorem Extends.skipSpacing
    (isSpaced : Extends text spaced) :
    Absorbs (Reader.skipSpacing text) (Reader.skipSpacing spaced) :=
  isSpaced.dropWhile_space (by decide)

/-- What stops at a space is the same with one at the end. -/
theorem Extends.takeWhile_eq
    (isSpaced : Extends text spaced)
    (stops : belongs ' ' = false) :
    spaced.takeWhile belongs = text.takeWhile belongs := by
  cases isSpaced with
  | ended =>
      rfl
  | space =>
      induction text with
      | nil =>
          simp [stops]
      | cons c rest inductionHypothesis =>
          rw [List.cons_append, List.takeWhile_cons, List.takeWhile_cons, inductionHypothesis]

/-- What stops at a space leaves the one at the end. -/
theorem Extends.dropWhile
    (isSpaced : Extends text spaced)
    (stops : belongs ' ' = false) :
    Extends (text.dropWhile belongs) (spaced.dropWhile belongs) := by
  cases isSpaced with
  | ended =>
      exact .ended
  | space =>
      rw [List.dropWhile_append]
      cases left : text.dropWhile belongs with
      | nil =>
          simpa [stops] using Extends.space []
      | cons first rest =>
          exact .space (first :: rest)

/-- A character that a text lacks does not make it a front. -/
theorem isPrefixOf_concat
    {expected : Text}
    {c : CodePoint}
    (absent : c ∉ expected)
    (text : Text) :
    expected.isPrefixOf (text ++ [c]) = expected.isPrefixOf text := by
  rw [Bool.eq_iff_iff, List.isPrefixOf_iff_prefix, List.isPrefixOf_iff_prefix,
    List.prefix_concat_iff]
  refine ⟨?_, Or.inr⟩
  rintro (rfl | starts)
  · exact absurd (List.mem_append_right text (List.mem_singleton_self c)) absent
  · exact starts

/-- A literal without a space is read alike. -/
theorem Extends.literal?
    (isSpaced : Extends text spaced)
    {expected : Text}
    (absent : (' ' : CodePoint) ∉ expected) :
    Option.Rel Extends (Reader.literal? expected text) (Reader.literal? expected spaced) := by
  unfold Reader.literal?
  cases isSpaced with
  | ended =>
      split
      · rw [List.drop_nil]
        exact .some .ended
      · exact .none
  | space =>
      rw [isPrefixOf_concat absent]
      split
      case isTrue starts =>
        have inText := (List.isPrefixOf_iff_prefix.mp starts).length_le
        rw [List.drop_append_of_le_length inText]
        exact .some (.space _)
      case isFalse =>
        exact .none

/-- Words without spaces are read alike. -/
theorem Extends.word?
    (isSpaced : Extends text spaced)
    {words : List (Text × Value)}
    (absent : ∀ word ∈ words, (' ' : CodePoint) ∉ word.1) :
    Agree Extends (Reader.word? words text) (Reader.word? words spaced) := by
  unfold Reader.word?
  induction words with
  | nil =>
      exact .none
  | cons word others inductionHypothesis =>
      have goesOn := inductionHypothesis fun other isLater =>
        absent other (List.mem_cons_of_mem word isLater)
      have reads := isSpaced.literal? (absent word List.mem_cons_self)
      simp only [List.findSome?_cons]
      rcases rel_cases reads with ⟨fails, failsSpaced⟩ | ⟨_, _, found, foundSpaced, isRest⟩
      · rw [fails, failsSpaced]
        exact goesOn
      · rw [found, foundSpaced]
        exact .some ⟨rfl, isRest⟩

/-- A run that stops at a space is read alike. -/
theorem Extends.run?
    (isSpaced : Extends text spaced)
    (stops : belongs ' ' = false) :
    Agree Extends (Reader.run? belongs text) (Reader.run? belongs spaced) := by
  have taken := isSpaced.takeWhile_eq stops
  have left := isSpaced.dropWhile stops
  cases isSpaced with
  | ended =>
      exact .none
  | space =>
      cases text with
      | nil =>
          simp only [Reader.run?, List.nil_append, stops]
          exact .none
      | cons first rest =>
          simp only [Reader.run?, List.cons_append]
          split
          · exact .some ⟨taken.symm, left⟩
          · exact .none

/-- A name is read alike. -/
theorem Extends.name?
    (isSpaced : Extends text spaced) :
    Agree Extends (Reader.name? text) (Reader.name? spaced) := by
  cases isSpaced with
  | ended =>
      exact .none
  | space =>
      cases text with
      | nil =>
          exact .none
      | cons first rest =>
          have inside : Extends rest (rest ++ [(' ' : CodePoint)]) := .space rest
          simp only [Reader.name?, List.cons_append]
          split
          · exact .some ⟨by rw [inside.takeWhile_eq (by decide)], inside.dropWhile (by decide)⟩
          · exact .none

/-- Digits are read alike. -/
theorem Extends.digits?
    (isSpaced : Extends text spaced) :
    Agree Extends (Reader.digits? text) (Reader.digits? spaced) :=
  isSpaced.run? (by decide)

/-- Both texts start with a mark that is not a space, or neither does. -/
theorem Extends.head_cases
    (isSpaced : Extends text spaced)
    {mark : CodePoint}
    (other : mark ≠ ' ') :
    (∃ rest, text = mark :: rest ∧ spaced = mark :: (rest ++ [(' ' : CodePoint)])) ∨
      text.head? ≠ some mark ∧ spaced.head? ≠ some mark := by
  cases isSpaced with
  | ended =>
      exact .inr ⟨nofun, nofun⟩
  | space =>
      cases text with
      | nil =>
          exact .inr ⟨nofun, fun same => other (Option.some.inj same).symm⟩
      | cons first rest =>
          by_cases isMark : first = mark
          · exact .inl ⟨rest, by rw [isMark], by rw [isMark, List.cons_append]⟩
          · have notMark : (first :: rest).head? ≠ some mark :=
              fun same => isMark (Option.some.inj same)
            exact .inr ⟨notMark, notMark⟩

/-- A decimal is read alike. -/
theorem Extends.decimal?
    (isSpaced : Extends text spaced) :
    Agree Extends (Reader.decimal? text) (Reader.decimal? spaced) := by
  refine rel_bind isSpaced.digits? ?_
  rintro ⟨whole, rest⟩ ⟨_, remaining⟩ ⟨rfl, afterWhole⟩
  rcases afterWhole.head_cases (by decide : ('.' : CodePoint) ≠ ' ') with
    ⟨afterPoint, rfl, rfl⟩ | ⟨noPoint, noPointSpaced⟩
  · have fraction := (Extends.space afterPoint).digits?
    rcases rel_cases fraction with
      ⟨fails, failsSpaced⟩ | ⟨_, _, found, foundSpaced, sameFraction, afterFraction⟩
    · simp only [fails, failsSpaced]
      exact .some ⟨rfl, .space (_ :: afterPoint)⟩
    · simp only [found, foundSpaced, sameFraction]
      exact .some ⟨rfl, afterFraction⟩
  · dsimp only
    split
    · exact absurd rfl noPoint
    · split
      · exact absurd rfl noPointSpaced
      · exact .some ⟨rfl, afterWhole⟩

/-- What is read alike is read alike after a sign. -/
theorem Extends.signed?
    (isSpaced : Extends text spaced)
    {read? : Reader Text}
    (agree : ∀ {text spaced : Text},
      Extends text spaced → Agree Extends (read? text) (read? spaced)) :
    Agree Extends (Reader.signed? read? text) (Reader.signed? read? spaced) := by
  rcases isSpaced.head_cases (by decide : ('-' : CodePoint) ≠ ' ') with
    ⟨rest, rfl, rfl⟩ | ⟨noMinus, noMinusSpaced⟩
  · have reading := agree (.space rest)
    simp only [Reader.signed?]
    rcases rel_cases reading with
      ⟨fails, failsSpaced⟩ | ⟨_, _, found, foundSpaced, sameDigits, afterDigits⟩
    · rw [fails, failsSpaced]
      exact .none
    · rw [found, foundSpaced]
      exact .some ⟨congrArg (('-' : CodePoint) :: ·) sameDigits, afterDigits⟩
  · unfold Reader.signed?
    split
    · exact absurd rfl noMinus
    · split
      · exact absurd rfl noMinusSpaced
      · exact agree isSpaced

/-- A character that is not doubled is read alike. -/
theorem Extends.notDoubled?
    (isSpaced : Extends text spaced)
    {expected : CodePoint}
    (other : expected ≠ ' ') :
    Option.Rel Extends
      (Reader.notDoubled? expected text) (Reader.notDoubled? expected spaced) := by
  have noSpace : ((' ' : CodePoint) == expected) = false :=
    beq_eq_false_iff_ne.mpr (Ne.symm other)
  rcases isSpaced.eq_or with ⟨rfl, rfl⟩ | rfl
  · exact .none
  cases text with
  | nil =>
      simp only [List.nil_append, Reader.notDoubled?, noSpace]
      exact .none
  | cons first rest =>
      have sameNext :
          ((rest ++ [(' ' : CodePoint)]).head? != some expected) =
            (rest.head? != some expected) := by
        cases rest with
        | nil =>
            exact bne_iff_ne.mpr fun same => other (Option.some.inj same).symm
        | cons c others =>
            rfl
      simp only [List.cons_append, Reader.notDoubled?, sameNext]
      split
      · exact .some (.space rest)
      · exact .none

/-- A semicolon is skipped alike. -/
theorem Extends.skipSemicolon
    (isSpaced : Extends text spaced) :
    Extends (Reader.skipSemicolon text) (Reader.skipSemicolon spaced) := by
  rcases isSpaced.head_cases (by decide : (';' : CodePoint) ≠ ' ') with
    ⟨rest, rfl, rfl⟩ | ⟨noSemicolon, noSemicolonSpaced⟩
  · exact .space rest
  · unfold Reader.skipSemicolon
    split
    · exact absurd rfl noSemicolon
    · split
      · exact absurd rfl noSemicolonSpaced
      · exact isSpaced

end Classes

/-! ## Readings up to a mark -/

/-- A text split in two, and the same text with a space split alike: the space belongs to
the second part, or to the first one where nothing is left for the second. -/
inductive Splits : Text × Text → Text × Text → Prop where
  | after (first rest : Text) : Splits (first, rest) (first, rest ++ [(' ' : CodePoint)])
  | within (first : Text) : Splits (first, []) (first ++ [(' ' : CodePoint)], [])
  | ended : Splits ([], []) ([], [])

end Reader

/-- A space at the end is stripped. -/
theorem Text.strip_concat_space
    (text : Text) :
    strip (text ++ [(' ' : CodePoint)]) = strip text :=
  strip_append (by decide) text

namespace Reader

section Marks

variable {text spaced : Text} {left right : Text × Text}

/-- The second parts of a split are the same up to a space at the end. -/
theorem Splits.toExtends
    (splits : Splits left right) :
    Extends left.2 right.2 := by
  cases splits with
  | after first rest =>
      exact .space rest
  | within first =>
      exact .ended
  | ended =>
      exact .ended

/-- The first parts are the same, or nothing is left in either split. -/
theorem Splits.eq_or
    (splits : Splits left right) :
    (left.1 = right.1 ∧ Extends left.2 right.2) ∨ (left.2 = [] ∧ right.2 = []) := by
  cases splits with
  | after first rest =>
      exact .inl ⟨rfl, .space rest⟩
  | within first =>
      exact .inr ⟨rfl, rfl⟩
  | ended =>
      exact .inr ⟨rfl, rfl⟩

/-- The first parts are the same when they are stripped. -/
theorem Splits.strip_eq
    (splits : Splits left right) :
    Text.strip right.1 = Text.strip left.1 := by
  cases splits with
  | after first rest =>
      rfl
  | within first =>
      exact Text.strip_concat_space first
  | ended =>
      rfl

/-- A character in front belongs to both first parts. -/
theorem Splits.cons
    (splits : Splits left right)
    (goesOn : right.1 ++ right.2 ≠ [])
    (c : CodePoint) :
    Splits (c :: left.1, left.2) (c :: right.1, right.2) := by
  cases splits with
  | after first rest =>
      exact .after (c :: first) rest
  | within first =>
      exact .within (c :: first)
  | ended =>
      exact absurd rfl goesOn

/-- A reading up to the first character outside a class, or to the end. -/
theorem splits_run
    {belongs : CodePoint → Bool}
    (space : belongs ' ' = true)
    (isSpaced : Extends text spaced) :
    Splits (run belongs text) (run belongs spaced) := by
  rcases isSpaced.eq_or with ⟨rfl, rfl⟩ | rfl
  · exact .ended
  induction text with
  | nil =>
      simpa [run, space] using Splits.within []
  | cons c rest inductionHypothesis =>
      cases inClass : belongs c with
      | false =>
          simpa [run, inClass] using Splits.after [] (c :: rest)
      | true =>
          have goesOn := inductionHypothesis (.space rest)
          have parts (text : Text) :
              run belongs (c :: text) = (c :: (run belongs text).1, (run belongs text).2) := by
            simp [run, inClass]
          rw [List.cons_append, parts, parts]
          exact goesOn.cons (by simp [run]) c

/-- A statement is split off alike. -/
theorem Extends.statement
    (isSpaced : Extends text spaced) :
    Splits (Reader.statement text) (Reader.statement spaced) :=
  splits_run (by decide) isSpaced

end Marks

end Reader

end MissionLint
