import MissionLint.Proofs.Script.Literal
import MissionLint.Proofs.Script.Remainder

namespace MissionLint

/-!
# Identifiers of a condition

The identifiers of a text are its longest runs of name characters, from left to right.
The comparisons in it are found at identifiers, and the identifiers inside a comparison
are its sides.  An identifier is a connective when it is `and` or `or` in any case, no
comparison has it as a side, and no word character follows it.
-/

namespace Occurrence

/-- The occurrences in the rest of a text, which starts at a position, when only names are
looked at.  Where a name starts, what can be read there is taken; else the name is passed
over as far as it goes. -/
def scanFrom
    (read? : Reader Value)
    (position : Nat)
    (text : Text) :
    List (Occurrence Value) :=
  match text with
  | [] => []
  | c :: rest =>
      if Text.isNameStart c then
        match read? (c :: rest) with
        | some (value, remaining) =>
            let width := (c :: rest).length - remaining.length
            let step := width - 1
            ⟨position, width, value⟩ ::
              scanFrom read? (position + step + 1) (rest.drop step)
        | none =>
            let step := (rest.takeWhile Text.isNameChar).length
            scanFrom read? (position + step + 1) (rest.drop step)
      else
        scanFrom read? (position + 1) rest
termination_by text.length
decreasing_by
  all_goals simp only [List.length_drop, List.length_cons]
  all_goals omega

/-- What a reader finds in a text, with no regard to word boundaries. -/
def scan (read? : Reader Value) (text : Text) : List (Occurrence Value) :=
  scanFrom read? 0 text

end Occurrence

/-- An identifier: its name and the character after it. -/
structure Identifier where
  name : Text
  next : Option CodePoint
  deriving Repr, DecidableEq

namespace Identifier

/-- Read an identifier as far as its name goes. -/
def read? : Reader Identifier := fun text =>
  (Reader.name? text).map fun (name, rest) => (⟨name, rest.head?⟩, rest)

/-- Whether an identifier is the word `and` or `or`, in any case, and no word character
follows it. -/
def isLogic (identifier : Identifier) : Bool :=
  (Text.lower identifier.name == "and" || Text.lower identifier.name == "or") &&
    !identifier.next.any Text.isWordCharacter

/-- Whether an identifier is a side of one of some comparisons, inside which it then
lies. -/
def isSide
    (comparisons : List (Occurrence Comparison))
    (identifier : Occurrence Identifier) :
    Bool :=
  comparisons.any fun comparison =>
    comparison.start ≤ identifier.start && identifier.start < comparison.stop

/-- Whether an identifier is a connective beside some comparisons. -/
def isConnective
    (comparisons : List (Occurrence Comparison))
    (identifier : Occurrence Identifier) :
    Bool :=
  identifier.value.isLogic && !isSide comparisons identifier

end Identifier

/-! ## Characters -/

namespace Text

/-- The code points with which a name can start. -/
theorem between_of_isNameStart
    {c : CodePoint}
    (starts : isNameStart c = true) :
    0x41 ≤ c.toNat ∧ c.toNat ≤ 0x5a ∨ 0x5f ≤ c.toNat ∧ c.toNat ≤ 0x5f ∨
      0x61 ≤ c.toNat ∧ c.toNat ≤ 0x7a := by
  simp only [isNameStart, Bool.or_eq_true, beq_iff_eq] at starts
  rcases starts with letter | rfl
  · cases c with
    | surrogate half =>
        cases letter
    | character c =>
        have isLetter : (c.isUpper || c.isLower) = true := letter
        rw [Bool.or_eq_true] at isLetter
        rcases isLetter with upper | lower
        · have isUpper : 'A'.val ≤ c.val ∧ c.val ≤ 'Z'.val :=
            of_decide_eq_true upper
          simp only [UInt32.le_iff_toNat_le] at isUpper
          exact .inl isUpper
        · have isLower : (decide ('a'.val ≤ c.val) && decide (c.val ≤ 'z'.val)) = true := lower
          simp only [Bool.and_eq_true, decide_eq_true_eq, UInt32.le_iff_toNat_le] at isLower
          exact .inr (.inr isLower)
  · exact .inr (.inl ⟨le_rfl, le_rfl⟩)

/-- No name starts with a digit. -/
theorem isNameStart_of_isAnyDigit
    {c : CodePoint}
    (digit : isAnyDigit c = true) :
    isNameStart c = false := by
  have apart (low high : Nat)
      (noRun : ∀ start ∈ decimalZeros ++ valuelessZeros, high < start ∨ start + 9 < low) :=
    not_between_of_isAnyDigit digit noRun
  have noUpper := apart 0x41 0x5a (by decide)
  have noUnderscore := apart 0x5f 0x5f (by decide)
  have noLower := apart 0x61 0x7a (by decide)
  refine Bool.eq_false_iff.mpr fun starts => ?_
  have := between_of_isNameStart starts
  omega

/-- No name starts with white space. -/
theorem isNameStart_of_isSpacing
    {c : CodePoint}
    (spacing : isSpacing c = true) :
    isNameStart c = false := by
  obtain ⟨range, member, inRange⟩ := List.any_eq_true.mp spacing
  have apart : ∀ range ∈ spacingRanges, range.2 < 0x41 ∨ 0x7a < range.1 := by
    decide
  have := apart range member
  simp only [Bool.and_eq_true, decide_eq_true_eq] at inRange
  refine Bool.eq_false_iff.mpr fun starts => ?_
  have := between_of_isNameStart starts
  omega

/-- A character of a name can start one or is an ASCII digit. -/
theorem isNameStart_or_isDigit_of_isNameChar
    {c : CodePoint}
    (named : isNameChar c = true) :
    isNameStart c = true ∨ 0x30 ≤ c.toNat ∧ c.toNat ≤ 0x39 := by
  simp only [isNameChar, Bool.or_eq_true] at named
  rcases named with alphanumeric | underscore
  · cases c with
    | surrogate half =>
        cases alphanumeric
    | character c =>
        have letterOrDigit : c.isAlphanum = true := alphanumeric
        simp only [Char.isAlphanum, Bool.or_eq_true] at letterOrDigit
        rcases letterOrDigit with letter | digit
        · refine .inl ?_
          simp only [isNameStart, CodePoint.isAlpha, CodePoint.satisfies, letter, Bool.true_or]
        · simp only [Char.isDigit, Bool.and_eq_true, decide_eq_true_eq,
            UInt32.le_iff_toNat_le] at digit
          exact .inr digit
  · refine .inl ?_
    simp only [isNameStart, underscore, Bool.or_true]

/-- A character of a name that cannot start one is a digit. -/
theorem isAnyDigit_of_isNameChar
    {c : CodePoint}
    (named : isNameChar c = true)
    (noStart : isNameStart c = false) :
    isAnyDigit c = true := by
  rcases isNameStart_or_isDigit_of_isNameChar named with starts | digit
  · simp [starts] at noStart
  · simp [isAnyDigit, isDecimalDigit, digitValue?, zeroOf?, decimalZeros, digit.1,
      Nat.lt_succ_of_le digit.2]

/-- The characters of names are ASCII. -/
theorem isAscii_of_isNameChar
    {c : CodePoint}
    (named : isNameChar c = true) :
    c.toNat < 0x80 := by
  rcases isNameStart_or_isDigit_of_isNameChar named with starts | digit
  · have := between_of_isNameStart starts
    omega
  · omega

/-- The characters of names are word characters. -/
theorem isWordCharacter_of_isNameChar
    {c : CodePoint}
    (named : isNameChar c = true) :
    isWordCharacter c = true := by
  rw [isWordCharacter, if_pos (isAscii_of_isNameChar named)]
  exact named

/-- A character starts a name when it does in lower case. -/
theorem isNameStart_of_toLower
    {c : CodePoint}
    (starts : isNameStart c.toLower = true) :
    isNameStart c = true := by
  cases c with
  | surrogate half =>
      exact starts
  | character c =>
      by_cases upper : c.val ≥ 'A'.val ∧ c.val ≤ 'Z'.val
      · have isUpper : c.isUpper = true :=
          decide_eq_true upper
        have isLetter : (c.isUpper || c.isLower) = true := by
          rw [isUpper, Bool.true_or]
        exact (Bool.or_eq_true _ _).mpr (.inl isLetter)
      · have same : c.toLower = c :=
          dif_neg upper
        rwa [CodePoint.toLower, same] at starts

/-- A name is not empty. -/
theorem length_pos_of_isName
    {name : Text}
    (named : isName name = true) :
    0 < name.length := by
  cases name with
  | nil =>
      cases named
  | cons first others =>
      exact Nat.succ_pos _

end Text

/-! ## Scanning over parts of a text -/

namespace Occurrence

variable {read? : Reader Value}

/-- A scan passes over characters with which no name starts. -/
theorem scanFrom_skip
    {skipped : Text}
    (noStart : ∀ c ∈ skipped, Text.isNameStart c = false)
    (position : Nat)
    (rest : Text) :
    scanFrom read? position (skipped ++ rest) =
      scanFrom read? (position + skipped.length) rest := by
  induction skipped generalizing position with
  | nil =>
      rfl
  | cons c others inductionHypothesis =>
      have passes := inductionHypothesis
        (fun later member => noStart later (List.mem_cons_of_mem c member)) (position + 1)
      have sameEnd : position + 1 + others.length = position + (c :: others).length := by
        simp only [List.length_cons]
        omega
      rw [List.cons_append, scanFrom, noStart c List.mem_cons_self, ← sameEnd]
      exact passes

/-- What can be read where a name starts is taken. -/
theorem scanFrom_take
    {c : CodePoint}
    {others rest : Text}
    {value : Value}
    (starts : Text.isNameStart c = true)
    (reads : read? (c :: (others ++ rest)) = some (value, rest))
    (position : Nat) :
    scanFrom read? position (c :: (others ++ rest)) =
      ⟨position, others.length + 1, value⟩ ::
        scanFrom read? (position + (others.length + 1)) rest := by
  have isWidth : (c :: (others ++ rest)).length - rest.length = others.length + 1 := by
    simp only [List.length_cons, List.length_append]
    omega
  rw [scanFrom, if_pos starts, reads]
  simp only [isWidth, Nat.add_sub_cancel, List.drop_left, Nat.add_assoc]

/-- A name from which nothing can be read is passed over. -/
theorem scanFrom_pass
    {text name rest : Text}
    (readsName : Reader.name? text = some (name, rest))
    (unread : read? text = none)
    (position : Nat) :
    scanFrom read? position text = scanFrom read? (position + name.length) rest := by
  unfold Reader.name? at readsName
  split at readsName
  · cases readsName
  case h_2 first others =>
    split at readsName
    case isTrue starts =>
      cases readsName
      have isRest :
          (others.takeWhile Text.isNameChar ++ others.dropWhile Text.isNameChar).drop
              (others.takeWhile Text.isNameChar).length =
            others.dropWhile Text.isNameChar :=
        List.drop_left
      rw [List.takeWhile_append_dropWhile] at isRest
      rw [scanFrom, if_pos starts, unread]
      simp only [isRest, List.length_cons, Nat.add_assoc]
    case isFalse =>
      cases readsName

/-- What a scan finds lies in the text that it scans. -/
theorem bounds_of_mem_scanFrom
    {position : Nat}
    {text : Text} :
    ∀ occurrence ∈ scanFrom read? position text,
      position ≤ occurrence.start ∧ occurrence.start < position + text.length ∧
        occurrence.stop ≤ position + text.length := by
  fun_induction scanFrom read? position text with
  | case1 =>
      simp
  | case2 position c rest starts value remaining reads width step inductionHypothesis =>
      intro occurrence member
      have inText : step ≤ rest.length ∧ width ≤ rest.length + 1 := by
        simp only [step, width, List.length_cons]
        omega
      rcases List.mem_cons.mp member with rfl | isLater
      · simp only [stop, List.length_cons]
        omega
      · have := inductionHypothesis occurrence isLater
        simp only [List.length_drop, List.length_cons] at this ⊢
        omega
  | case3 position c rest starts unread step inductionHypothesis =>
      intro occurrence member
      have inText : step ≤ rest.length :=
        (List.takeWhile_prefix _).length_le
      have := inductionHypothesis occurrence member
      simp only [List.length_drop, List.length_cons] at this ⊢
      omega
  | case4 position c rest noStart inductionHypothesis =>
      intro occurrence member
      have := inductionHypothesis occurrence member
      simp only [List.length_cons] at this ⊢
      omega

end Occurrence

namespace Identifier

/-- A scan finds a name in front with the character after it, and goes on behind it. -/
theorem scanFrom_name
    {text name rest : Text}
    (reads : Reader.name? text = some (name, rest))
    (position : Nat) :
    Occurrence.scanFrom read? position text =
      ⟨position, name.length, ⟨name, rest.head?⟩⟩ ::
        Occurrence.scanFrom read? (position + name.length) rest := by
  obtain ⟨isText, named⟩ := Reader.eq_append_of_name? reads
  have isRead : read? text = some (⟨name, rest.head?⟩, rest) := by
    rw [read?, reads]
    rfl
  cases name with
  | nil =>
      cases named
  | cons first others =>
      simp only [Text.isName, Bool.and_eq_true] at named
      rw [isText] at isRead ⊢
      exact Occurrence.scanFrom_take named.1 isRead position

end Identifier

/-! ## The parts of a comparison -/

namespace Reader

/-- A run is the front of its text, is not empty and has characters that belong to it only. -/
theorem eq_append_of_run?
    {belongs : CodePoint → Bool}
    {text taken rest : Text}
    (reads : run? belongs text = some (taken, rest)) :
    text = taken ++ rest ∧ taken ≠ [] ∧ ∀ c ∈ taken, belongs c = true := by
  unfold run? at reads
  split at reads
  · cases reads
  case h_2 first others =>
    split at reads
    case isTrue belongsFirst =>
      cases reads
      refine ⟨List.takeWhile_append_dropWhile.symm, ?_, fun c => List.mem_takeWhile_imp⟩
      simp [belongsFirst]
    case isFalse =>
      cases reads

/-- A decimal is the front of its text. -/
theorem eq_append_of_decimal?
    {text number rest : Text}
    (reads : decimal? text = some (number, rest)) :
    text = number ++ rest := by
  simp only [decimal?, Option.bind_eq_bind, Option.bind_eq_some_iff, Prod.exists] at reads
  obtain ⟨whole, afterWhole, readsWhole, goesOn⟩ := reads
  have isWhole := (eq_append_of_run? readsWhole).1
  split at goesOn
  case h_1 afterPoint =>
    split at goesOn
    case h_1 fraction afterFraction readsFraction =>
      cases goesOn
      rw [isWhole, (eq_append_of_run? readsFraction).1]
      simp [Text.ofString, Text.ofCharacters]
    case h_2 =>
      cases goesOn
      exact isWhole
  case h_2 =>
    cases goesOn
    exact isWhole

end Reader

/-- No name starts within a decimal. -/
theorem Numeral.IsDecimal.isNameStart_of_mem
    {number : Text}
    (isDecimal : IsDecimal number)
    {c : CodePoint}
    (member : c ∈ number) :
    Text.isNameStart c = false := by
  cases isDecimal with
  | whole isDigits =>
      exact Text.isNameStart_of_isAnyDigit (isDigits.digit c member)
  | point isWhole isFraction =>
      rcases List.mem_append.mp member with inWhole | inRest
      · exact Text.isNameStart_of_isAnyDigit (isWhole.digit c inWhole)
      · rcases List.mem_cons.mp inRest with rfl | inFraction
        · decide
        · exact Text.isNameStart_of_isAnyDigit (isFraction.digit c inFraction)

namespace Comparison

/-- The right side of a comparison is a name, or no name starts in it. -/
theorem readRight?_cases
    {text right rest : Text}
    (reads : readRight? text = some (right, rest)) :
    Reader.name? text = some (right, rest) ∨
      text = right ++ rest ∧ right ≠ [] ∧ ∀ c ∈ right, Text.isNameStart c = false := by
  unfold readRight? at reads
  split at reads
  case h_2 =>
    exact .inl reads
  case h_1 found readsNumber =>
    cases reads
    refine .inr ?_
    unfold Reader.signed? at readsNumber
    split at readsNumber
    case h_1 afterHyphen =>
      obtain ⟨⟨number, _⟩, isNumber, isSigned⟩ := Option.map_eq_some_iff.mp readsNumber
      cases isSigned
      have isDecimal := Reader.isDecimal_of_decimal? isNumber
      refine ⟨?_, by simp, List.forall_mem_cons.mpr ⟨by decide, ?_⟩⟩
      · rw [Reader.eq_append_of_decimal? isNumber]
        rfl
      · exact fun c => isDecimal.isNameStart_of_mem
    case h_2 =>
      have isDecimal := Reader.isDecimal_of_decimal? readsNumber
      refine ⟨Reader.eq_append_of_decimal? readsNumber, ?_, fun c => isDecimal.isNameStart_of_mem⟩
      rintro rfl
      obtain ⟨c, isHead, _⟩ := isDecimal.exists_head?
      cases isHead

/-- No name starts between the sides of a comparison. -/
theorem exists_parts
    {text rest : Text}
    {comparison : Comparison}
    (reads : read? text = some (comparison, rest)) :
    ∃ between onward,
      Reader.name? text = some (comparison.left, between ++ onward) ∧
        (∀ c ∈ between, Text.isNameStart c = false) ∧
        readRight? onward = some (comparison.right, rest) := by
  simp only [read?, Option.bind_eq_bind, Option.bind_eq_some_iff, Prod.exists] at reads
  obtain ⟨left, afterLeft, readsLeft, operator, afterOperator, readsOperator, right, _, readsRight,
    isComparison⟩ := reads
  cases isComparison
  obtain ⟨word, isSpelling, isOnward⟩ := Reader.exists_of_word? readsOperator
  have noIndentStarts (text : Text) :
      ∀ c ∈ text.takeWhile Text.isIndent, Text.isNameStart c = false := by
    intro c member
    exact Text.isNameStart_of_isSpacing (Text.isSpacing_of_isIndent (List.mem_takeWhile_imp member))
  have noWordStarts :
      ∀ spelling ∈ Operator.spellings, ∀ c ∈ spelling.1, Text.isNameStart c = false := by
    decide
  refine ⟨afterLeft.takeWhile Text.isIndent ++ (word ++ afterOperator.takeWhile Text.isIndent),
    Reader.skipIndent afterOperator, ?_, ?_, readsRight⟩
  · have isAfterLeft :
        afterLeft = afterLeft.takeWhile Text.isIndent ++ (word ++ afterOperator) := by
      rw [← isOnward]
      exact List.takeWhile_append_dropWhile.symm
    rw [readsLeft, List.append_assoc, List.append_assoc, Reader.skipIndent,
      List.takeWhile_append_dropWhile, ← isAfterLeft]
  · intro c member
    simp only [List.mem_append] at member
    rcases member with isLeading | inWord | isTrailing
    · exact noIndentStarts _ c isLeading
    · exact noWordStarts _ isSpelling c inWord
    · exact noIndentStarts _ c isTrailing

/-- The right side of a comparison is an identifier exactly if it is a name. -/
theorem exists_right
    {text right rest : Text}
    (reads : readRight? text = some (right, rest))
    (position : Nat) :
    ∃ sides,
      text = right ++ rest ∧
        Occurrence.scanFrom Identifier.read? position text =
          sides ++ Occurrence.scanFrom Identifier.read? (position + right.length) rest ∧
        sides.map (fun side => side.value.name) = (if Text.isName right then [right] else []) ∧
        ∀ side ∈ sides, side.start = position ∧ 0 < right.length := by
  rcases readRight?_cases reads with readsName | ⟨isText, nonempty, noStart⟩
  · obtain ⟨isText, named⟩ := Reader.eq_append_of_name? readsName
    refine ⟨[⟨position, right.length, ⟨right, rest.head?⟩⟩], isText,
      Identifier.scanFrom_name readsName position, by simp [named], ?_⟩
    simp [Text.length_pos_of_isName named]
  · have notNamed : Text.isName right = false := by
      cases right with
      | nil =>
          exact absurd rfl nonempty
      | cons first others =>
          simp [Text.isName, noStart first List.mem_cons_self]
    refine ⟨[], isText, ?_, by simp [notNamed], by simp⟩
    rw [isText]
    exact Occurrence.scanFrom_skip noStart position rest

/-- A comparison is taken as a whole, and the identifiers in it are its sides. -/
theorem exists_sides
    {text rest : Text}
    {comparison : Comparison}
    (reads : read? text = some (comparison, rest))
    (position : Nat) :
    ∃ width sides,
      text.length = width + rest.length ∧ 0 < width ∧
        Occurrence.scanFrom read? position text =
          ⟨position, width, comparison⟩ :: Occurrence.scanFrom read? (position + width) rest ∧
        Occurrence.scanFrom Identifier.read? position text =
          sides ++ Occurrence.scanFrom Identifier.read? (position + width) rest ∧
        sides.map (fun side => side.value.name) = (ConditionItem.compares comparison).names ∧
        ∀ side ∈ sides, position ≤ side.start ∧ side.start < position + width := by
  obtain ⟨between, onward, readsLeft, noStart, readsRight⟩ := exists_parts reads
  obtain ⟨isText, named⟩ := Reader.eq_append_of_name? readsLeft
  obtain ⟨rightSides, isOnward, scansRight, isRight, rightStarts⟩ :=
    exists_right readsRight (position + comparison.left.length + between.length)
  have scansSides := Identifier.scanFrom_name readsLeft position
  rw [Occurrence.scanFrom_skip noStart, scansRight, Nat.add_assoc, Nat.add_assoc] at scansSides
  have leftNonempty := Text.length_pos_of_isName named
  refine ⟨comparison.left.length + (between.length + comparison.right.length),
    ⟨position, comparison.left.length, ⟨comparison.left, (between ++ onward).head?⟩⟩ :: rightSides,
    ?_, by omega, ?_, scansSides, ?_, ?_⟩
  · simp only [isText, isOnward, List.length_append]
    omega
  · cases isLeft : comparison.left with
    | nil =>
        simp [isLeft] at leftNonempty
    | cons first others =>
        rw [isLeft] at isText named
        have shape : text = first :: ((others ++ (between ++ comparison.right)) ++ rest) := by
          rw [isText, isOnward]
          simp
        simp only [Text.isName, Bool.and_eq_true] at named
        rw [shape] at reads ⊢
        rw [Occurrence.scanFrom_take named.1 reads]
        simp [Nat.add_right_comm]
  · simp [ConditionItem.names, isRight]
  · refine List.forall_mem_cons.mpr ⟨⟨le_rfl, by dsimp only; omega⟩, fun side member => ?_⟩
    have := rightStarts side member
    omega

end Comparison

end MissionLint
