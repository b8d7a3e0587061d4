import MissionLint.Proofs.Numeral.Conversion
import MissionLint.Proofs.Outcome

namespace MissionLint

/-!
# Literals of a script

The shapes of a line leave numbers as written.  What they leave is always digits of
some script, after an optional hyphen or with a point among them, so reading the number
fails only for the reasons that digits can have, and a traversal of many fails exactly
when one of them does.
-/

/-! ## What readers of numbers leave -/

namespace Reader

/-- What is read as digits is digits. -/
theorem isDigits_of_digits?
    {text digits rest : Text}
    (reads : digits? text = some (digits, rest)) :
    Numeral.IsDigits digits := by
  unfold digits? run? at reads
  split at reads
  · cases reads
  case h_2 first others =>
    split at reads
    case isTrue digit =>
      cases reads
      refine ⟨?_, fun c member => List.mem_takeWhile_imp member⟩
      simp [digit]
    case isFalse =>
      cases reads

/-- What is read as a decimal is one. -/
theorem isDecimal_of_decimal?
    {text amount rest : Text}
    (reads : decimal? text = some (amount, rest)) :
    Numeral.IsDecimal amount := by
  simp only [decimal?, Option.bind_eq_bind, Option.bind_eq_some_iff, Prod.exists] at reads
  obtain ⟨whole, afterWhole, readsWhole, goesOn⟩ := reads
  have isWhole := isDigits_of_digits? readsWhole
  split at goesOn
  case h_1 afterPoint =>
    split at goesOn
    case h_1 fraction afterFraction readsFraction =>
      cases goesOn
      have isFraction := isDigits_of_digits? readsFraction
      simpa [Text.ofString, Text.ofCharacters] using Numeral.IsDecimal.point isWhole isFraction
    case h_2 =>
      cases goesOn
      exact .whole isWhole
  case h_2 =>
    cases goesOn
    exact .whole isWhole

end Reader

namespace Occurrence

/-- What a search finds can be read somewhere. -/
theorem exists_read_of_mem_searchFrom
    {read? : Reader Value}
    (before : Option CodePoint)
    (position : Nat)
    (text : Text) :
    ∀ occurrence ∈ searchFrom read? before position text,
      ∃ onward rest, read? onward = some (occurrence.value, rest) := by
  fun_induction searchFrom read? before position text with
  | case1 =>
      simp
  | case2 before position c rest _ found remaining reads width step inductionHypothesis =>
      intro occurrence member
      rcases List.mem_cons.mp member with rfl | isLater
      · exact ⟨c :: rest, remaining, reads⟩
      · exact inductionHypothesis occurrence isLater
  | case3 before position c rest _ _ inductionHypothesis =>
      exact inductionHypothesis
  | case4 before position c rest _ inductionHypothesis =>
      exact inductionHypothesis

/-- What occurs in a text was read at some place of it. -/
theorem exists_read_of_mem_values
    {read? : Reader Value}
    {text : Text}
    {value : Value}
    (occurs : value ∈ values read? text) :
    ∃ onward rest, read? onward = some (value, rest) := by
  obtain ⟨occurrence, member, rfl⟩ := List.mem_map.mp occurs
  exact exists_read_of_mem_searchFrom none 0 text occurrence member

end Occurrence

namespace IntegerLiteral

/-- Whether a text can be converted, if it is an integer at all. -/
def converts (text : Text) : Bool :=
  (Reader.whole? read? text).all Numeral.isConvertible

/-- The value of a text that is an integer, whether or not it can be converted. -/
def value? (text : Text) : Option Int :=
  (Reader.whole? read? text).map Numeral.valueOf

/-- What covers a text as a literal is one. -/
theorem isLiteral_of_whole?
    {text literal : Text}
    (covers : Reader.whole? read? text = some literal) :
    Numeral.IsLiteral literal := by
  have reads := Reader.whole?_eq_some_iff.mp covers
  simp only [read?, Option.bind_eq_bind, Option.bind_eq_some_iff, Prod.exists] at reads
  obtain ⟨digits, rest, readsDigits, isLiteral⟩ := reads
  obtain rfl : digits = literal := congrArg Prod.fst (Option.some.inj isLiteral)
  unfold readDigits? Reader.signed? at readsDigits
  split at readsDigits
  · simp only [Option.map_eq_some_iff, Prod.exists, Prod.mk.injEq] at readsDigits
    obtain ⟨taken, left, isRead, rfl, _⟩ := readsDigits
    exact (Reader.isDigits_of_digits? isRead).isLiteral_minus
  · exact (Reader.isDigits_of_digits? readsDigits).isLiteral

/-- A text that converts gives its value. -/
theorem ofText?_of_converts
    {text : Text}
    (convertible : converts text = true) :
    ofText? text = .ok (value? text) := by
  unfold ofText? value?
  cases covers : Reader.whole? read? text with
  | none =>
      rfl
  | some literal =>
      simp only [converts, covers, Option.all_some] at convertible
      simp only [(isLiteral_of_whole? covers).integerOf_eq convertible]
      rfl

/-- Reading an integer fails exactly when it cannot be converted. -/
theorem isOk_ofText?
    (text : Text) :
    (ofText? text).isOk = converts text := by
  cases convertible : converts text with
  | true =>
      rw [ofText?_of_converts convertible]
      rfl
  | false =>
      cases covers : Reader.whole? read? text with
      | none =>
          simp [converts, covers] at convertible
      | some literal =>
          simp only [converts, covers, Option.all_some] at convertible
          obtain ⟨fault, fails⟩ := (isLiteral_of_whole? covers).exists_error convertible
          simp only [ofText?, covers, fails]
          rfl

/-- What a text gives is its value. -/
theorem value?_eq_of_ofText?
    {text : Text}
    {read : Option Int}
    (returns : ofText? text = .ok read) :
    value? text = read := by
  have convertible : converts text = true := by
    rw [← isOk_ofText?, returns]
    rfl
  rw [ofText?_of_converts convertible] at returns
  exact Except.ok.inj returns

/-- The values of the integers among texts, whether or not they can be converted. -/
def valuesAmong (texts : List (Tag × Text)) : List (Tag × Int) :=
  texts.filterMap fun (tag, text) => (value? text).map fun value => (tag, value)

/-- Texts that convert give the values of those that are integers. -/
theorem integersOf_of_converts
    {texts : List (Tag × Text)}
    (convertible : ∀ text ∈ texts, converts text.2 = true) :
    integersOf texts = .ok (valuesAmong texts) := by
  have returns (text : Tag × Text) (member : text ∈ texts) :
      (do
        let integer ← ofText? text.2
        return integer.map fun value => (text.1, value)) =
          .ok ((value? text.2).map fun value => (text.1, value)) := by
    rw [ofText?_of_converts (convertible text member)]
    rfl
  unfold integersOf valuesAmong
  rw [Outcome.mapM_eq_ok returns]
  exact congrArg Except.ok List.filterMap_map

/-- The integers among texts are those that one of the texts is. -/
theorem mem_integersOf_iff
    {texts : List (Tag × Text)}
    {integers : List (Tag × Int)}
    (returns : integersOf texts = .ok integers)
    {tag : Tag}
    {value : Int} :
    (tag, value) ∈ integers ↔ ∃ text, (tag, text) ∈ texts ∧ ofText? text = .ok (some value) := by
  obtain ⟨read, isRead, isIntegers⟩ := Outcome.exists_of_bind returns
  cases isIntegers
  simp only [List.mem_filterMap, id_eq, exists_eq_right, Outcome.mem_mapM_iff isRead, Prod.exists]
  constructor
  · rintro ⟨_, text, member, isResult⟩
    obtain ⟨integer, reads, isPair⟩ := Outcome.exists_of_bind isResult
    obtain ⟨_, rfl, isSame⟩ := Option.map_eq_some_iff.mp (Except.ok.inj isPair)
    cases isSame
    exact ⟨text, member, reads⟩
  · rintro ⟨text, member, reads⟩
    refine ⟨tag, text, member, ?_⟩
    rw [reads]
    rfl

/-- Reading integers fails exactly when one of them cannot be converted. -/
theorem isOk_integersOf
    (texts : List (Tag × Text)) :
    (integersOf texts).isOk = texts.all fun text => converts text.2 := by
  unfold integersOf
  rw [Outcome.isOk_bind_pure, Outcome.isOk_mapM]
  simp only [Outcome.isOk_bind_pure, isOk_ofText?]

end IntegerLiteral

namespace Increment

/-- Whether the amount of an assigned value can be converted, if that is an increment. -/
def converts (value : Text) : Bool :=
  (Reader.whole? read? value).all fun increment => Numeral.isValued increment.amount

/-- An increment is read unless it does not convert. -/
theorem isOk_ofValue?
    (value : Text) :
    (ofValue? value).isOk = converts value := by
  unfold ofValue? converts
  cases covers : Reader.whole? read? value with
  | none =>
      rfl
  | some increment =>
      have reads := Reader.whole?_eq_some_iff.mp covers
      simp only [read?, Option.bind_eq_bind, Option.bind_eq_some_iff, Prod.exists] at reads
      obtain ⟨name, _, _, _, _, amount, rest, readsAmount, isIncrement⟩ := reads
      obtain rfl : ⟨name, amount⟩ = increment := congrArg Prod.fst (Option.some.inj isIncrement)
      have isRead := (Reader.isDecimal_of_decimal? readsAmount).isOk_realOf
      simp only [Option.all_some, ← isRead]
      cases Numeral.realOf amount <;>
        rfl

end Increment

namespace OxygenLevel

/-- The first oxygen level in a line of code, as written. -/
def firstIn? (code : Text) : Option OxygenLevel :=
  (Occurrence.values read? code).head?

/-- Whether both amounts of an oxygen level can be converted. -/
def converts (level : OxygenLevel) : Bool :=
  Numeral.isConvertible level.current && Numeral.isConvertible level.maximum

/-- Both numbers of an oxygen level are literals. -/
theorem isLiteral_of_firstIn?
    {code : Text}
    {level : OxygenLevel}
    (first : firstIn? code = some level) :
    Numeral.IsLiteral level.current ∧ Numeral.IsLiteral level.maximum := by
  obtain ⟨onward, rest, reads⟩ :=
    Occurrence.exists_read_of_mem_values (List.mem_of_mem_head? first)
  simp only [read?, Option.bind_eq_bind, Option.bind_eq_some_iff, Prod.exists] at reads
  obtain ⟨_, _, _, _, current, _, readsCurrent, _, _, maximum, _, readsMaximum, isLevel⟩ := reads
  cases isLevel
  exact ⟨(Reader.isDigits_of_digits? readsCurrent).isLiteral,
    (Reader.isDigits_of_digits? readsMaximum).isLiteral⟩

/-- An oxygen level that converts gives both its values. -/
theorem inCode?_of_converts
    {code : Text}
    (convertible : (firstIn? code).all converts = true) :
    inCode? code =
      .ok ((firstIn? code).map fun level =>
        (Numeral.valueOf level.current, Numeral.valueOf level.maximum)) := by
  unfold inCode?
  rw [← firstIn?]
  cases first : firstIn? code with
  | none =>
      rfl
  | some level =>
      obtain ⟨isCurrent, isMaximum⟩ := isLiteral_of_firstIn? first
      simp only [first, Option.all_some, converts, Bool.and_eq_true] at convertible
      simp only [isCurrent.integerOf_eq convertible.1, isMaximum.integerOf_eq convertible.2]
      rfl

/-- Reading the first oxygen level fails exactly when an amount of it cannot be
converted. -/
theorem isOk_inCode?
    (code : Text) :
    (inCode? code).isOk = (firstIn? code).all converts := by
  cases convertible : (firstIn? code).all converts with
  | true =>
      rw [inCode?_of_converts convertible]
      rfl
  | false =>
      unfold inCode?
      rw [← firstIn?]
      cases first : firstIn? code with
      | none =>
          simp [first] at convertible
      | some level =>
          obtain ⟨isCurrent, isMaximum⟩ := isLiteral_of_firstIn? first
          simp only [first, Option.all_some, converts, Bool.and_eq_false_iff] at convertible
          rcases convertible with badCurrent | badMaximum
          · obtain ⟨fault, fails⟩ := isCurrent.exists_error badCurrent
            simp only [fails]
            rfl
          · obtain ⟨fault, fails⟩ := isMaximum.exists_error badMaximum
            simp only [fails]
            cases Numeral.integerOf level.current <;>
              rfl

end OxygenLevel

end MissionLint
