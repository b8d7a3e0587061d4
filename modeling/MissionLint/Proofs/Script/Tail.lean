import MissionLint.Script.Condition
import MissionLint.Proofs.Script.Shape

namespace MissionLint

/-!
# Reading before a tail

What a reader makes of a text does not depend on a tail that follows, when the tail
starts with a character that cannot continue what is read.
-/

namespace Reader

/-- A reader that reads the same when a tail follows. -/
def Ignores (tail : Text) (read? : Reader Value) : Prop :=
  ∀ text, read? (text ++ tail) = (read? text).map fun (value, rest) => (value, rest ++ tail)

section Tail

variable {tail : Text}

/-- What stops at the tail leaves it. -/
theorem dropWhile_append_tail
    {belongs : CodePoint → Bool}
    (stops : ∀ c ∈ tail.head?, belongs c = false)
    (text : Text) :
    (text ++ tail).dropWhile belongs = text.dropWhile belongs ++ tail := by
  have stays : tail.dropWhile belongs = tail := by
    cases tail with
    | nil =>
        rfl
    | cons c rest =>
        simp [stops c rfl]
  rw [List.dropWhile_append, stays]
  cases text.dropWhile belongs <;>
    rfl

/-- What stops at the tail takes nothing of it. -/
theorem takeWhile_append_tail
    {belongs : CodePoint → Bool}
    (stops : ∀ c ∈ tail.head?, belongs c = false)
    (text : Text) :
    (text ++ tail).takeWhile belongs = text.takeWhile belongs := by
  induction text with
  | nil =>
      cases tail with
      | nil =>
          rfl
      | cons c rest =>
          simp [stops c rfl]
  | cons c rest inductionHypothesis =>
      simp only [List.cons_append, List.takeWhile_cons, inductionHypothesis]

/-- A text that lacks the first character of the tail does not reach into it. -/
theorem isPrefixOf_append_tail
    {expected : Text}
    (absent : ∀ c ∈ tail.head?, c ∉ expected)
    (text : Text) :
    expected.isPrefixOf (text ++ tail) = expected.isPrefixOf text := by
  induction expected generalizing text with
  | nil =>
      rfl
  | cons first others inductionHypothesis =>
      have othersAbsent : ∀ c ∈ tail.head?, c ∉ others := by
        intro c isHead member
        exact absent c isHead (List.mem_cons_of_mem first member)
      cases text with
      | nil =>
          cases tail with
          | nil =>
              rfl
          | cons c rest =>
              have other : (first == c) = false := by
                refine beq_eq_false_iff_ne.mpr ?_
                rintro rfl
                exact absent first rfl List.mem_cons_self
              simp [List.isPrefixOf, other]
      | cons c rest =>
          simp only [List.cons_append, List.isPrefixOf, inductionHypothesis othersAbsent]

/-- A literal that lacks the first character of the tail leaves it. -/
theorem literal?_append_tail
    {expected : Text}
    (absent : ∀ c ∈ tail.head?, c ∉ expected)
    (text : Text) :
    literal? expected (text ++ tail) = (literal? expected text).map (· ++ tail) := by
  unfold literal?
  rw [isPrefixOf_append_tail absent]
  split
  case isTrue starts =>
    have inText := (List.isPrefixOf_iff_prefix.mp starts).length_le
    rw [List.drop_append_of_le_length inText]
    rfl
  case isFalse =>
    rfl

/-- A character other than the first of the tail is not doubled by it. -/
theorem notDoubled?_append_tail
    {expected : CodePoint}
    (other : ∀ c ∈ tail.head?, c ≠ expected)
    (text : Text) :
    notDoubled? expected (text ++ tail) = (notDoubled? expected text).map (· ++ tail) := by
  cases text with
  | nil =>
      cases tail with
      | nil =>
          rfl
      | cons c others =>
          simp [notDoubled?, other c rfl]
  | cons first rest =>
      have sameHead :
          ((rest ++ tail).head? != some expected) = (rest.head? != some expected) := by
        cases rest with
        | nil =>
            exact bne_iff_ne.mpr fun isHead => other expected isHead rfl
        | cons second others =>
            rfl
      simp only [List.cons_append, notDoubled?, sameHead]
      split <;>
        rfl

/-- A statement ends before a tail that starts with a semicolon. -/
theorem statement_append_tail
    (atSemicolon : ∀ c ∈ tail.head?, c = ';')
    (text : Text) :
    statement (text ++ tail) = ((statement text).1, (statement text).2 ++ tail) := by
  have stops : ∀ c ∈ tail.head?, (c != ';') = false := by
    intro c isHead
    rw [atSemicolon c isHead]
    rfl
  simp only [statement, run, takeWhile_append_tail stops, dropWhile_append_tail stops]

/-- Words that lack the first character of the tail are read alike. -/
theorem ignores_word?
    {words : List (Text × Value)}
    (absent : ∀ c ∈ tail.head?, ∀ word ∈ words, c ∉ word.1) :
    Ignores tail (word? words) := by
  intro text
  induction words with
  | nil =>
      rfl
  | cons entry others inductionHypothesis =>
      have readsOthers := inductionHypothesis fun c isHead word member =>
        absent c isHead word (List.mem_cons_of_mem entry member)
      obtain ⟨word, value⟩ := entry
      have reads : literal? word (text ++ tail) = (literal? word text).map (· ++ tail) :=
        literal?_append_tail (fun c isHead => absent c isHead _ List.mem_cons_self) text
      unfold word? at readsOthers ⊢
      simp only [List.findSome?_cons, reads]
      cases literal? word text with
      | none =>
          exact readsOthers
      | some rest =>
          rfl

/-- A run that stops at the tail is read alike. -/
theorem ignores_run?
    {belongs : CodePoint → Bool}
    (stops : ∀ c ∈ tail.head?, belongs c = false) :
    Ignores tail (run? belongs) := by
  intro text
  cases text with
  | nil =>
      cases tail with
      | nil =>
          rfl
      | cons c rest =>
          simp [run?, stops c rfl]
  | cons first rest =>
      have taken := takeWhile_append_tail stops (first :: rest)
      have left := dropWhile_append_tail stops (first :: rest)
      rw [List.cons_append] at taken left ⊢
      simp only [run?, run, taken, left]
      split <;>
        rfl

/-- A name that ends at the tail is read alike. -/
theorem ignores_name?
    (ends : ∀ c ∈ tail.head?, Text.isNameChar c = false) :
    Ignores tail name? := by
  intro text
  cases text with
  | nil =>
      cases tail with
      | nil =>
          rfl
      | cons c rest =>
          have noStart : Text.isNameStart c = false := by
            refine Bool.eq_false_iff.mpr fun starts => ?_
            simp [Text.isNameChar_of_isNameStart starts] at ends
          simp [name?, noStart]
  | cons first rest =>
      simp only [List.cons_append, name?, takeWhile_append_tail ends, dropWhile_append_tail ends]
      split <;>
        rfl

/-- A decimal that ends at the tail is read alike.  A point after the digits stands in the text
itself, as the tail does not start with one. -/
theorem ignores_decimal?
    (noDigit : ∀ c ∈ tail.head?, Text.isAnyDigit c = false)
    (noPoint : ∀ c ∈ tail.head?, c ≠ '.') :
    Ignores tail decimal? := by
  intro text
  have ignoresDigits := ignores_run? noDigit
  simp only [decimal?, digits?, ignoresDigits text]
  rcases run? Text.isAnyDigit text with _ | ⟨whole, rest⟩
  · rfl
  simp only [Option.map_some, Option.bind_eq_bind, Option.bind_some]
  rcases rest with _ | ⟨c, others⟩
  · rw [List.nil_append]
    split
    case h_1 =>
      exact absurd rfl (noPoint '.' rfl)
    case h_2 =>
      rfl
  · by_cases isPoint : c = '.'
    · subst isPoint
      simp only [List.cons_append, ignoresDigits others]
      cases run? Text.isAnyDigit others <;>
        rfl
    · rw [List.cons_append]
      split
      case h_1 same =>
        exact absurd (List.cons.inj same).1 isPoint
      case h_2 =>
        split
        case h_1 same =>
          exact absurd (List.cons.inj same).1 isPoint
        case h_2 =>
          rfl

/-- What is read alike is read alike after a sign. -/
theorem ignores_signed?
    {read? : Reader Text}
    (noHyphen : ∀ c ∈ tail.head?, c ≠ '-')
    (ignores : Ignores tail read?) :
    Ignores tail (signed? read?) := by
  intro text
  rcases text with _ | ⟨c, others⟩
  · have unsigned : signed? read? tail = read? tail := by
      unfold signed?
      split
      case h_1 =>
        exact absurd rfl (noHyphen '-' rfl)
      case h_2 =>
        rfl
    rw [List.nil_append, unsigned]
    exact ignores []
  · by_cases isHyphen : c = '-'
    · subst isHyphen
      simp only [List.cons_append, signed?, ignores others]
      cases read? others <;>
        rfl
    · have unsigned (rest : Text) : signed? read? (c :: rest) = read? (c :: rest) := by
        unfold signed?
        split
        case h_1 same =>
          exact absurd (List.cons.inj same).1 isHyphen
        case h_2 =>
          rfl
      rw [List.cons_append, unsigned, unsigned]
      exact ignores (c :: others)

end Tail

end Reader

namespace Occurrence

/-- The character before the end, when one may stand before the text. -/
theorem getLast?_cons_or
    (c : CodePoint)
    (rest : Text)
    (before : Option CodePoint) :
    (c :: rest).getLast?.or before = rest.getLast?.or (some c) := by
  rw [List.getLast?_cons]
  cases rest.getLast? <;>
    rfl

/-- What occurs in a text occurs in it before a tail that the reader ignores, and the search
goes on in the tail. -/
theorem searchFrom_append
    {read? : Reader Value}
    {tail : Text}
    (ignores : Reader.Ignores tail read?)
    (before : Option CodePoint)
    (position : Nat)
    (text : Text) :
    searchFrom read? before position (text ++ tail) =
      searchFrom read? before position text ++
        searchFrom read? (text.getLast?.or before) (position + text.length) tail := by
  fun_induction searchFrom read? before position text with
  | case1 =>
      rfl
  | case2 before position c rest isBoundary value remaining reads width step inductionHypothesis =>
      have readsMore : read? (c :: (rest ++ tail)) = some (value, remaining ++ tail) := by
        have both := ignores (c :: rest)
        rw [reads] at both
        exact both
      have sameWidth : (c :: (rest ++ tail)).length - (remaining ++ tail).length = width := by
        simp only [width, List.length_append, List.length_cons]
        omega
      have inText : step ≤ rest.length := by
        simp only [step, width, List.length_cons]
        omega
      have sameBefore : (c :: (rest ++ tail))[step]? = (c :: rest)[step]? := by
        rw [← List.cons_append]
        exact List.getElem?_append_left (Nat.lt_succ_of_le inText)
      have sameLast :
          (rest.drop step).getLast?.or (c :: rest)[step]? = (c :: rest).getLast?.or before := by
        have inWhole : step < (c :: rest).length :=
          Nat.lt_succ_of_le inText
        have lastOfDrop : ((c :: rest).drop step).getLast? = (c :: rest).getLast? := by
          rw [List.getLast?_drop, if_neg (Nat.not_le_of_lt inWhole)]
        rw [← lastOfDrop, List.drop_eq_getElem_cons inWhole, List.drop_succ_cons,
          List.getElem?_eq_getElem inWhole, getLast?_cons_or]
      have sameEnd :
          position + step + 1 + (rest.drop step).length = position + (c :: rest).length := by
        simp only [List.length_drop, List.length_cons]
        omega
      rw [List.cons_append, searchFrom, if_pos isBoundary, readsMore]
      simp only [sameWidth]
      rw [sameBefore, List.drop_append_of_le_length inText, inductionHypothesis, sameLast, sameEnd]
      rfl
  | case3 before position c rest isBoundary unread inductionHypothesis =>
      have readsNoMore : read? (c :: (rest ++ tail)) = none := by
        have both := ignores (c :: rest)
        rw [unread] at both
        exact both
      rw [List.cons_append, searchFrom, if_pos isBoundary, readsNoMore, getLast?_cons_or]
      dsimp only
      rw [inductionHypothesis, List.length_cons, Nat.add_right_comm, Nat.add_assoc]
  | case4 before position c rest noBoundary inductionHypothesis =>
      rw [List.cons_append, searchFrom, if_neg noBoundary, inductionHypothesis, getLast?_cons_or,
        List.length_cons, Nat.add_right_comm, Nat.add_assoc]

end Occurrence

end MissionLint
