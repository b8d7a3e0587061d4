import Mathlib.Algebra.Ring.Nat
import Mathlib.Data.List.Basic
import MissionLint.Script.Shape
import MissionLint.Proofs.Script.Collection

namespace MissionLint

/-!
# Which digits are numbers

A text of digits is a number when every digit has a value and, for an integer, when
there are no more digits than the limit allows.  Otherwise reading it fails.  So a
literal of a script either is converted to its value or stops the analysis that reads
it.
-/

namespace Text

/-- A digit of any script stands within ten characters from a zero. -/
theorem exists_zero_of_isAnyDigit
    {c : CodePoint}
    (digit : isAnyDigit c = true) :
    ∃ start ∈ decimalZeros ++ valuelessZeros, start ≤ c.toNat ∧ c.toNat < start + 10 := by
  have found {zeros : List Nat} (isRun : (zeroOf? zeros c).isSome = true) :
      ∃ start ∈ zeros, start ≤ c.toNat ∧ c.toNat < start + 10 := by
    obtain ⟨start, isStart⟩ := Option.isSome_iff_exists.mp isRun
    have inRun := List.find?_some isStart
    simp only [Bool.and_eq_true, decide_eq_true_eq] at inRun
    exact ⟨start, List.mem_of_find?_eq_some isStart, inRun⟩
  simp only [isAnyDigit, isDecimalDigit, digitValue?, Option.isSome_map, Bool.or_eq_true] at digit
  rcases digit with valued | valueless
  · obtain ⟨start, member, inRun⟩ := found valued
    exact ⟨start, List.mem_append_left _ member, inRun⟩
  · obtain ⟨start, member, inRun⟩ := found valueless
    exact ⟨start, List.mem_append_right _ member, inRun⟩

/-- No digit is in a range that is apart from all rows of digits. -/
theorem not_between_of_isAnyDigit
    {c : CodePoint}
    (digit : isAnyDigit c = true)
    {low high : Nat}
    (apart : ∀ start ∈ decimalZeros ++ valuelessZeros, high < start ∨ start + 9 < low) :
    ¬(low ≤ c.toNat ∧ c.toNat ≤ high) := by
  obtain ⟨start, member, inRun⟩ := exists_zero_of_isAnyDigit digit
  have := apart start member
  omega

/-- No digit is spacing. -/
theorem isSpacing_of_isAnyDigit
    {c : CodePoint}
    (digit : isAnyDigit c = true) :
    isSpacing c = false := by
  have apart :
      ∀ range ∈ spacingRanges, ∀ start ∈ decimalZeros ++ valuelessZeros,
        range.2 < start ∨ start + 9 < range.1 := by
    decide
  rw [isSpacing, List.any_eq_false]
  intro range member
  simpa using not_between_of_isAnyDigit digit (apart range member)

/-- No digit is white space. -/
theorem isBlank_of_isAnyDigit
    {c : CodePoint}
    (digit : isAnyDigit c = true) :
    isBlank c = false := by
  have noSeparator :=
    not_between_of_isAnyDigit digit
      (by decide : ∀ start ∈ decimalZeros ++ valuelessZeros, 0x1f < start ∨ start + 9 < 0x1c)
  simp only [isBlank, isSpacing_of_isAnyDigit digit, Bool.false_or]
  simpa using noSeparator

/-- No digit is an upper case letter. -/
theorem toLower_of_isAnyDigit
    {c : CodePoint}
    (digit : isAnyDigit c = true) :
    c.toLower = c := by
  cases c with
  | surrogate half =>
      rfl
  | character c =>
      have notUpper : ¬(c.val ≥ 'A'.val ∧ c.val ≤ 'Z'.val) :=
        not_between_of_isAnyDigit digit
          (by decide : ∀ start ∈ decimalZeros ++ valuelessZeros,
            'Z'.toNat < start ∨ start + 9 < 'A'.toNat)
      exact congrArg CodePoint.character (dif_neg notUpper)

/-- Nothing is dropped when the first character stays. -/
theorem dropWhile_eq_self
    {drops : CodePoint → Bool}
    {text : Text}
    (first : ∀ c, text.head? = some c → drops c = false) :
    text.dropWhile drops = text := by
  cases text with
  | nil =>
      rfl
  | cons c rest =>
      simp [first c rfl]

/-- Nothing is trimmed when the last character stays. -/
theorem trimEndWhile_eq_self
    {drops : CodePoint → Bool}
    {text : Text}
    (last : ∀ c, text.getLast? = some c → drops c = false) :
    trimEndWhile drops text = text := by
  rw [trimEndWhile, dropWhile_eq_self, List.reverse_reverse]
  intro c isLast
  rw [List.head?_reverse] at isLast
  exact last c isLast

/-- Nothing is trimmed when the first and the last character stay. -/
theorem trimWhile_eq_self
    {drops : CodePoint → Bool}
    {text : Text}
    (first : ∀ c, text.head? = some c → drops c = false)
    (last : ∀ c, text.getLast? = some c → drops c = false) :
    trimWhile drops text = text := by
  rw [trimWhile, dropWhile_eq_self first, trimEndWhile_eq_self last]

end Text

namespace Numeral

/-- Digits of any script, at least one. -/
structure IsDigits (digits : Text) : Prop where
  nonempty : digits ≠ []
  digit : ∀ c ∈ digits, Text.isAnyDigit c = true

namespace IsDigits

variable {digits : Text}

/-- Digits start with a digit. -/
theorem ne_of_head?
    (isDigits : IsDigits digits)
    {other : CodePoint}
    (noDigit : Text.isAnyDigit other = false) :
    digits.head? ≠ some other := by
  intro isHead
  have digit := isDigits.digit other (List.mem_of_mem_head? isHead)
  simp [noDigit] at digit

/-- Digits have nothing but digits. -/
theorem not_mem
    (isDigits : IsDigits digits)
    {other : CodePoint}
    (noDigit : Text.isAnyDigit other = false) :
    other ∉ digits := by
  intro member
  simp [isDigits.digit other member] at noDigit

/-- Digits have no sign. -/
theorem splitSign_eq
    (isDigits : IsDigits digits) :
    splitSign digits = (false, digits) := by
  have notMinus := isDigits.ne_of_head? (by decide : Text.isAnyDigit '-' = false)
  have notPlus := isDigits.ne_of_head? (by decide : Text.isAnyDigit '+' = false)
  unfold splitSign
  split
  · simp at notMinus
  · simp at notPlus
  · rfl

section Trimmed

variable {drops : CodePoint → Bool}
  (keeps : ∀ c, Text.isAnyDigit c = true → drops c = false)

include keeps

/-- Nothing is trimmed of digits. -/
theorem trimWhile_eq
    (isDigits : IsDigits digits) :
    Text.trimWhile drops digits = digits := by
  apply Text.trimWhile_eq_self
  · intro c isFirst
    exact keeps c (isDigits.digit c (List.mem_of_mem_head? isFirst))
  · intro c isLast
    exact keeps c (isDigits.digit c (List.mem_of_getLast? isLast))

/-- Nothing is trimmed of digits after a hyphen. -/
theorem trimWhile_minus
    (isDigits : IsDigits digits)
    (keepsMinus : drops '-' = false) :
    Text.trimWhile drops (('-' : CodePoint) :: digits) = ('-' : CodePoint) :: digits := by
  apply Text.trimWhile_eq_self
  · intro c isFirst
    cases isFirst
    exact keepsMinus
  · intro c isLast
    rw [List.getLast?_cons_of_ne_nil isDigits.nonempty] at isLast
    exact keeps c (isDigits.digit c (List.mem_of_getLast? isLast))

end Trimmed

end IsDigits

/-- Digits with values are grouped well, as there are no marks among them. -/
theorem isGrouped_of_valued
    {digits : Text}
    (nonempty : digits ≠ [])
    (valued : ∀ c ∈ digits, Text.isDecimalDigit c = true) :
    isGrouped digits = true := by
  fun_induction isGrouped digits with
  | case1 =>
      exact absurd rfl nonempty
  | case2 last =>
      exact valued last List.mem_cons_self
  | case3 first rest inductionHypothesis =>
      exact absurd (valued ('_' : CodePoint) (by simp)) (by decide)
  | case4 first rest notLast notMark inductionHypothesis =>
      have goesOn : rest ≠ [] := by
        rintro rfl
        exact notLast rfl
      simp [valued first List.mem_cons_self,
        inductionHypothesis goesOn fun c member => valued c (List.mem_cons_of_mem first member)]

/-- The reading of a body of digits, after the sign. -/
theorem readInteger_of_valued
    {text digits : Text}
    {negative : Bool}
    (nonempty : digits ≠ [])
    (shape : splitSign (Text.trimWhile Text.isSpacing text) = (negative, digits))
    (valued : ∀ c ∈ digits, Text.isDecimalDigit c = true) :
    readInteger text =
      if digitLimit < digits.length then
        .error (.tooLong (.reading digits.length))
      else
        .ok (if negative then -(naturalOfText digits : Int) else (naturalOfText digits : Int)) := by
  have taken :
      digits.takeWhile (fun c => Text.isDecimalDigit c || c == '_') = digits :=
    List.takeWhile_eq_self_iff.mpr fun c member => by simp [valued c member]
  have left :
      digits.dropWhile (fun c => Text.isDecimalDigit c || c == '_') = [] :=
    List.dropWhile_eq_nil_iff.mpr fun c member => by simp [valued c member]
  have counted : digits.filter Text.isDecimalDigit = digits :=
    List.filter_eq_self.mpr valued
  unfold readInteger readDigits
  simp only [shape, taken, left, counted, isGrouped_of_valued nonempty valued]
  by_cases tooLong : digitLimit < digits.length <;>
    simp [tooLong]

/-- A digit without a value ends the numeral before its end. -/
theorem exists_error_of_valueless
    {text digits : Text}
    {negative : Bool}
    (isDigits : IsDigits digits)
    (shape : splitSign (Text.trimWhile Text.isSpacing text) = (negative, digits))
    (valueless : ¬∀ c ∈ digits, Text.isDecimalDigit c = true) :
    ∃ fault, readInteger text = .error fault := by
  have left : digits.dropWhile (fun c => Text.isDecimalDigit c || c == '_') ≠ [] := by
    intro nothing
    refine valueless fun c member => ?_
    have taken := List.dropWhile_eq_nil_iff.mp nothing c member
    have notMark : c ≠ '_' := by
      rintro rfl
      exact isDigits.not_mem (by decide) member
    simpa [notMark] using taken
  unfold readInteger
  simp only [shape]
  split
  · exact ⟨_, rfl⟩
  · split
    · exact ⟨_, rfl⟩
    · simp [left]

/-- Whether digits after an optional sign are an integer: all have a value, and there are
no more than the limit allows. -/
def isConvertible (literal : Text) : Bool :=
  let digits := (splitSign literal).2
  digits.length ≤ digitLimit && digits.all Text.isDecimalDigit

/-- The integer that digits after an optional sign spell, whether or not a reader takes
them. -/
def valueOf (literal : Text) : Int :=
  let (negative, digits) := splitSign literal
  if negative then -(naturalOfText digits : Int) else (naturalOfText digits : Int)

/-- Digits after an optional hyphen. -/
structure IsLiteral (literal : Text) : Prop where
  digits : IsDigits (splitSign literal).2
  trimWhile_eq : Text.trimWhile Text.isSpacing literal = literal

/-- Digits are a literal. -/
theorem IsDigits.isLiteral
    {digits : Text}
    (isDigits : IsDigits digits) :
    IsLiteral digits where
  digits := by
    rw [isDigits.splitSign_eq]
    exact isDigits
  trimWhile_eq := isDigits.trimWhile_eq fun _ => Text.isSpacing_of_isAnyDigit

/-- Digits after a hyphen are a literal. -/
theorem IsDigits.isLiteral_minus
    {digits : Text}
    (isDigits : IsDigits digits) :
    IsLiteral (('-' : CodePoint) :: digits) where
  digits := isDigits
  trimWhile_eq := isDigits.trimWhile_minus (fun _ => Text.isSpacing_of_isAnyDigit) (by decide)

/-- A literal that can be converted is read as its value. -/
theorem IsLiteral.integerOf_eq
    {literal : Text}
    (isLiteral : IsLiteral literal)
    (convertible : isConvertible literal = true) :
    integerOf literal = .ok (valueOf literal) := by
  simp only [isConvertible, Bool.and_eq_true, decide_eq_true_eq, List.all_eq_true] at convertible
  have reads :=
    readInteger_of_valued isLiteral.digits.nonempty
      (congrArg splitSign isLiteral.trimWhile_eq) convertible.2
  rw [if_neg (Nat.not_lt.mpr convertible.1)] at reads
  rw [integerOf, reads]
  rfl

/-- A literal that cannot be converted is not read. -/
theorem IsLiteral.exists_error
    {literal : Text}
    (isLiteral : IsLiteral literal)
    (unconvertible : isConvertible literal = false) :
    ∃ fault, integerOf literal = .error fault := by
  have notRead : ∃ fault, readInteger literal = .error fault := by
    have shape := congrArg splitSign isLiteral.trimWhile_eq
    by_cases valued : ∀ c ∈ (splitSign literal).2, Text.isDecimalDigit c = true
    · have tooLong : digitLimit < (splitSign literal).2.length := by
        simpa [isConvertible, List.all_eq_true.mpr valued] using unconvertible
      rw [readInteger_of_valued isLiteral.digits.nonempty shape valued, if_pos tooLong]
      exact ⟨_, rfl⟩
    · exact exists_error_of_valueless isLiteral.digits shape valued
  obtain ⟨fault, fails⟩ := notRead
  cases fault with
  | malformed =>
      exact ⟨.notInteger literal, by simp only [integerOf, fails]⟩
  | tooLong limit =>
      exact ⟨.tooLong limit, by simp only [integerOf, fails]⟩

/-! ## Written integers -/

/-- A number has no more digits than the limit when it is below that power of ten. -/
theorem length_ofNat_le_iff
    (n : Nat) :
    (Text.ofNat n).length ≤ digitLimit ↔ n < 10 ^ digitLimit := by
  simpa [Text.ofNat, Text.ofCharacters] using
    Nat.length_toDigits_le_iff (by decide : 1 < 10) (by decide : 0 < digitLimit)

/-- An integer is written exactly when its digits fit the limit. -/
theorem isOk_writeInteger
    (value : Int) :
    (writeInteger value).isOk = decide (value.natAbs < 10 ^ digitLimit) := by
  have written := length_ofNat_le_iff value.natAbs
  unfold writeInteger
  by_cases fits : value.natAbs < 10 ^ digitLimit
  · rw [if_neg (Nat.not_lt.mpr (written.mpr fits)), decide_eq_true fits]
    rfl
  · rw [if_pos (Nat.lt_of_not_le (mt written.mp fits)), decide_eq_false fits]
    rfl

/-- The value of an ASCII digit. -/
theorem digitValue?_of_isDigit
    {c : Char}
    (digit : c.isDigit = true) :
    Text.digitValue? (.character c) = some (c.toNat - '0'.toNat) := by
  have inRun : '0'.toNat ≤ c.toNat ∧ c.toNat ≤ '9'.toNat := by
    simpa [Char.isDigit, UInt32.le_iff_toNat_le] using digit
  have isZero : Text.zeroOf? Text.decimalZeros (.character c) = some '0'.toNat := by
    refine List.find?_cons_of_pos ?_
    have inTen :
        0x30 ≤ (CodePoint.character c).toNat ∧ (CodePoint.character c).toNat < 0x30 + 10 :=
      ⟨inRun.1, Nat.lt_succ_of_le inRun.2⟩
    simpa only [Bool.and_eq_true, decide_eq_true_eq] using inTen
  rw [Text.digitValue?, isZero]
  rfl

/-- A number is written in decimal digits. -/
theorem isDecimalDigit_of_mem_ofNat
    {n : Nat}
    {c : CodePoint}
    (member : c ∈ Text.ofNat n) :
    Text.isDecimalDigit c = true := by
  obtain ⟨digit, isDigit, rfl⟩ := List.mem_map.mp member
  have valued :=
    digitValue?_of_isDigit (Nat.isDigit_of_mem_toDigits (by decide) (by decide) isDigit)
  rw [Text.isDecimalDigit, valued]
  rfl

/-- A written number is digits. -/
theorem isDigits_ofNat
    (n : Nat) :
    IsDigits (Text.ofNat n) where
  nonempty := by
    simp [Text.ofNat, Text.ofCharacters]
  digit c member := by
    simp [Text.isAnyDigit, isDecimalDigit_of_mem_ofNat member]

/-- The digits of a number spell it. -/
theorem naturalOfText_ofNat
    (n : Nat) :
    naturalOfText (Text.ofNat n) = n := by
  have values :
      (Text.ofNat n).filterMap Text.digitValue? =
        (Nat.toDigits 10 n).map fun c => c.toNat - '0'.toNat := by
    rw [Text.ofNat, Text.ofCharacters, List.filterMap_map, ← List.filterMap_eq_map]
    refine List.filterMap_congr fun c member => ?_
    exact digitValue?_of_isDigit (Nat.isDigit_of_mem_toDigits (by decide) (by decide) member)
  rw [naturalOfText, values, ofDigits, List.foldl_map]
  exact Nat.ofDigitChars_ten_toDigits

/-- Nothing is trimmed of a written integer. -/
theorem trimWhile_ofInt
    {drops : CodePoint → Bool}
    (keeps : ∀ c, Text.isAnyDigit c = true → drops c = false)
    (keepsMinus : drops '-' = false)
    (value : Int) :
    Text.trimWhile drops (Text.ofInt value) = Text.ofInt value := by
  unfold Text.ofInt
  split
  · exact (isDigits_ofNat _).trimWhile_minus keeps keepsMinus
  · exact (isDigits_ofNat _).trimWhile_eq keeps

/-- An integer that can be written is read back from its text. -/
theorem readInteger_ofInt
    {value : Int}
    (fits : value.natAbs < 10 ^ digitLimit) :
    readInteger (Text.ofInt value) = .ok value := by
  have isDigits := isDigits_ofNat value.natAbs
  have shape :
      splitSign (Text.ofInt value) = (decide (value < 0), Text.ofNat value.natAbs) := by
    by_cases negative : value < 0
    · simp only [Text.ofInt, if_pos negative, decide_eq_true negative]
      rfl
    · simp only [Text.ofInt, if_neg negative, decide_eq_false negative]
      exact isDigits.splitSign_eq
  have trimmed :=
    trimWhile_ofInt (fun _ => Text.isSpacing_of_isAnyDigit) (by decide) value
  rw [readInteger_of_valued isDigits.nonempty ((congrArg splitSign trimmed).trans shape)
      fun _ => isDecimalDigit_of_mem_ofNat,
    if_neg (Nat.not_lt.mpr ((length_ofNat_le_iff _).mpr fits)), naturalOfText_ofNat]
  refine congrArg Except.ok ?_
  split
  case isTrue negative =>
    have isNegative : value < 0 := of_decide_eq_true negative
    omega
  case isFalse positive =>
    have isPositive : ¬value < 0 := fun negative => positive (decide_eq_true negative)
    omega

/-! ## Decimals -/

/-- Digits, and a point with more digits when they follow. -/
inductive IsDecimal : Text → Prop where
  | whole {digits : Text} : IsDigits digits → IsDecimal digits
  | point {whole fraction : Text} :
      IsDigits whole → IsDigits fraction →
        IsDecimal (whole ++ (('.' : CodePoint) :: fraction))

/-- Whether every digit of a decimal has a value. -/
def isValued (amount : Text) : Bool :=
  amount.all fun c => c == '.' || Text.isDecimalDigit c

namespace IsDecimal

variable {amount : Text}

/-- A decimal starts with a digit. -/
theorem exists_head?
    (isDecimal : IsDecimal amount) :
    ∃ c, amount.head? = some c ∧ Text.isAnyDigit c = true := by
  have starts {digits : Text} (isDigits : IsDigits digits) (rest : Text) :
      ∃ c, (digits ++ rest).head? = some c ∧ Text.isAnyDigit c = true := by
    cases digits with
    | nil =>
        exact absurd rfl isDigits.nonempty
    | cons c others =>
        exact ⟨c, rfl, isDigits.digit c List.mem_cons_self⟩
  cases isDecimal with
  | whole isDigits =>
      simpa using starts isDigits []
  | point isWhole isFraction =>
      exact starts isWhole _

/-- A decimal ends with a digit. -/
theorem isAnyDigit_of_getLast?
    (isDecimal : IsDecimal amount)
    {c : CodePoint}
    (isLast : amount.getLast? = some c) :
    Text.isAnyDigit c = true := by
  cases isDecimal with
  | whole isDigits =>
      exact isDigits.digit c (List.mem_of_getLast? isLast)
  | point isWhole isFraction =>
      rw [List.getLast?_append, List.getLast?_cons_of_ne_nil isFraction.nonempty,
        List.getLast?_eq_some_getLast isFraction.nonempty] at isLast
      cases isLast
      exact isFraction.digit _ (List.getLast_mem isFraction.nonempty)

/-- A decimal has no underscore. -/
theorem mark_not_mem
    (isDecimal : IsDecimal amount) :
    ('_' : CodePoint) ∉ amount := by
  cases isDecimal with
  | whole isDigits =>
      exact isDigits.not_mem (by decide)
  | point isWhole isFraction =>
      simp [isWhole.not_mem (by decide : Text.isAnyDigit '_' = false),
        isFraction.not_mem (by decide : Text.isAnyDigit '_' = false)]

/-- A decimal has no sign, and nothing is trimmed of it. -/
theorem splitSign_trimWhile
    (isDecimal : IsDecimal amount) :
    splitSign (Text.trimWhile Text.isSpacing amount) = (false, amount) := by
  obtain ⟨first, isFirst, digit⟩ := isDecimal.exists_head?
  have trimmed : Text.trimWhile Text.isSpacing amount = amount := by
    apply Text.trimWhile_eq_self
    · intro c isHead
      cases isFirst.symm.trans isHead
      exact Text.isSpacing_of_isAnyDigit digit
    · intro c isLast
      exact Text.isSpacing_of_isAnyDigit (isDecimal.isAnyDigit_of_getLast? isLast)
  rw [trimmed]
  unfold splitSign
  split
  · cases isFirst
    exact absurd digit (by decide)
  · cases isFirst
    exact absurd digit (by decide)
  · rfl

/-- A decimal is no word. -/
theorem lower_ne_cons
    (isDecimal : IsDecimal amount)
    {letter : CodePoint}
    (noDigit : Text.isAnyDigit letter = false)
    (rest : Text) :
    Text.lower amount ≠ letter :: rest := by
  obtain ⟨first, isFirst, digit⟩ := isDecimal.exists_head?
  intro isWord
  have sameHead : (Text.lower amount).head? = some letter := by
    rw [isWord]
    rfl
  rw [Text.lower, List.head?_map, isFirst, Option.map_some, Text.toLower_of_isAnyDigit digit,
    Option.some.injEq] at sameHead
  simp [← sameHead, digit] at noDigit

end IsDecimal

/-- Without underscores nothing has to be separated. -/
theorem marksSeparateDigits_of_not_mem
    {before : Option CodePoint}
    {text : Text}
    (notBefore : before ≠ some ('_' : CodePoint))
    (absent : ('_' : CodePoint) ∉ text) :
    marksSeparateDigits before text = true := by
  induction text generalizing before with
  | nil =>
      simpa [marksSeparateDigits] using notBefore
  | cons c rest inductionHypothesis =>
      simp only [List.mem_cons, not_or] at absent
      have goesOn : marksSeparateDigits (some c) rest = true :=
        inductionHypothesis (by simpa using Ne.symm absent.1) absent.2
      simp [marksSeparateDigits, Ne.symm absent.1, notBefore, goesOn]

/-- A decimal is read digit by digit. -/
theorem IsDecimal.readReal?_eq
    {amount : Text}
    (isDecimal : IsDecimal amount) :
    readReal? amount = readDecimal? false amount := by
  have notInf := isDecimal.lower_ne_cons (by decide : Text.isAnyDigit 'i' = false)
  have notNan := isDecimal.lower_ne_cons (by decide : Text.isAnyDigit 'n' = false)
  have noMarks : amount.filter (fun c => c != ('_' : CodePoint)) = amount := by
    rw [List.filter_eq_self]
    intro c member
    simpa using ne_of_mem_of_not_mem member isDecimal.mark_not_mem
  have separated : marksSeparateDigits none amount = true :=
    marksSeparateDigits_of_not_mem (by simp) isDecimal.mark_not_mem
  unfold readReal?
  simp only [isDecimal.splitSign_trimWhile, separated, noMarks]
  have word (spelled : Text) (differs : Text.lower amount ≠ spelled) :
      (Text.lower amount == spelled) = false :=
    beq_eq_false_iff_ne.mpr differs
  rw [word "inf" (notInf _), word "infinity" (notInf _), word "nan" (notNan _)]
  rfl

/-- What follows the digits of a decimal is no exponent. -/
theorem readExponent?_of_isAnyDigit
    {c : CodePoint}
    (digit : Text.isAnyDigit c = true)
    (rest : Text) :
    readExponent? (c :: rest) = none := by
  have notSmall : c ≠ 'e' := by
    rintro rfl
    exact absurd digit (by decide)
  have notLarge : c ≠ 'E' := by
    rintro rfl
    exact absurd digit (by decide)
  simp [readExponent?, notSmall, notLarge]

/-- Digits have a value when each of them has one. -/
theorem IsDigits.isValued_eq
    {digits : Text}
    (isDigits : IsDigits digits) :
    isValued digits = digits.all Text.isDecimalDigit := by
  unfold isValued
  rw [Bool.eq_iff_iff, List.all_eq_true, List.all_eq_true]
  refine forall₂_congr fun c member => ?_
  have notPoint : c ≠ '.' := by
    rintro rfl
    exact isDigits.not_mem (by decide) member
  simp [notPoint]

/-- Digits with a value are taken up to what follows them. -/
theorem dropWhile_of_valued
    {digits : Text}
    (valued : digits.all Text.isDecimalDigit = true)
    (rest : Text)
    (ends : ∀ c, rest.head? = some c → Text.isDecimalDigit c = false) :
    (digits ++ rest).takeWhile Text.isDecimalDigit = digits ∧
      (digits ++ rest).dropWhile Text.isDecimalDigit = rest := by
  rw [List.all_eq_true] at valued
  rw [List.takeWhile_append_of_pos valued, List.dropWhile_append_of_pos valued]
  cases rest with
  | nil =>
      simp
  | cons c others =>
      simp [ends c rfl]

/-- A digit without a value is what stops the reading of digits. -/
theorem IsDigits.dropWhile_of_valueless
    {digits : Text}
    (isDigits : IsDigits digits)
    (valueless : digits.all Text.isDecimalDigit = false)
    (rest : Text) :
    ∃ c others, (digits ++ rest).dropWhile Text.isDecimalDigit = c :: others ∧
      Text.isAnyDigit c = true := by
  cases left : digits.dropWhile Text.isDecimalDigit with
  | nil =>
      rw [List.dropWhile_eq_nil_iff, ← List.all_eq_true, valueless] at left
      cases left
  | cons c others =>
      have member : c ∈ digits :=
        (List.dropWhile_suffix _).subset (left ▸ List.mem_cons_self)
      refine ⟨c, others ++ rest, ?_, isDigits.digit c member⟩
      rw [List.dropWhile_append, left]
      rfl

/-- Reading stops for good at a digit without a value. -/
theorem readDecimal?_of_valueless
    {text : Text}
    {c : CodePoint}
    {others : Text}
    (stops : text.dropWhile Text.isDecimalDigit = c :: others)
    (digit : Text.isAnyDigit c = true) :
    readDecimal? false text = none := by
  have notPoint : c ≠ '.' := by
    rintro rfl
    exact absurd digit (by decide)
  unfold readDecimal?
  rw [stops]
  simp [notPoint, readExponent?_of_isAnyDigit digit]

/-- A decimal is read when all its digits have a value. -/
theorem IsDecimal.isSome_readDecimal?
    {amount : Text}
    (isDecimal : IsDecimal amount) :
    (readDecimal? false amount).isSome = isValued amount := by
  cases isDecimal with
  | whole isDigits =>
      rw [isDigits.isValued_eq]
      cases valued : amount.all Text.isDecimalDigit with
      | false =>
          obtain ⟨c, others, stops, digit⟩ := isDigits.dropWhile_of_valueless valued []
          rw [List.append_nil] at stops
          rw [readDecimal?_of_valueless stops digit]
          rfl
      | true =>
          obtain ⟨taken, left⟩ := dropWhile_of_valued valued [] (by simp)
          rw [List.append_nil] at taken left
          unfold readDecimal?
          rw [taken, left]
          simp [isDigits.nonempty, readExponent?]
  | @point whole fraction isWhole isFraction =>
      have parts :
          isValued (whole ++ (('.' : CodePoint) :: fraction)) =
            (whole.all Text.isDecimalDigit && fraction.all Text.isDecimalDigit) := by
        rw [← isWhole.isValued_eq, ← isFraction.isValued_eq]
        simp [isValued]
      rw [parts]
      cases wholeValued : whole.all Text.isDecimalDigit with
      | false =>
          obtain ⟨c, others, stops, digit⟩ := isWhole.dropWhile_of_valueless wholeValued _
          rw [readDecimal?_of_valueless stops digit]
          rfl
      | true =>
          obtain ⟨taken, left⟩ :=
            dropWhile_of_valued wholeValued (('.' : CodePoint) :: fraction) (by
              intro c isPoint
              cases isPoint
              decide)
          unfold readDecimal?
          rw [taken, left]
          cases fractionValued : fraction.all Text.isDecimalDigit with
          | false =>
              obtain ⟨c, others, stops, digit⟩ :=
                isFraction.dropWhile_of_valueless fractionValued []
              rw [List.append_nil] at stops
              simp [stops, readExponent?_of_isAnyDigit digit]
          | true =>
              obtain ⟨_, nothing⟩ := dropWhile_of_valued fractionValued [] (by simp)
              rw [List.append_nil] at nothing
              simp [nothing, isWhole.nonempty, readExponent?]

/-- The readable decimals are those whose digits all have a value. -/
theorem IsDecimal.isOk_realOf
    {amount : Text}
    (isDecimal : IsDecimal amount) :
    (realOf amount).isOk = isValued amount := by
  rw [← isDecimal.isSome_readDecimal?, ← isDecimal.readReal?_eq, realOf]
  cases readReal? amount <;>
    rfl

end Numeral

end MissionLint
