import MissionLint.Proofs.Script.Identifier

namespace MissionLint

/-!
# What a condition accounts for

A condition is read to its end, whatever it is.  Every identifier in it is counted
once: as a name that the condition reads, or as a connective.
-/

namespace ConditionItem

/-- A word is read where a name starts exactly if it is the whole name: no word character may
follow it. -/
theorem readWord?_of_name
    {word text name rest : Text}
    (nonempty : word ≠ [])
    (letters : ∀ c ∈ word, Text.isNameStart c = true)
    (readsName : Reader.name? text = some (name, rest)) :
    readWord? word text =
      if (Text.lower name == word && !rest.head?.any Text.isWordCharacter) = true then
        some rest
      else
        none := by
  obtain ⟨isText, named⟩ := Reader.eq_append_of_name? readsName
  by_cases isWord : Text.lower name = word
  · have sameLength : word.length = name.length := by
      rw [← isWord, Text.lower, List.length_map]
    unfold readWord?
    rw [sameLength, isText, List.take_left, List.drop_left, isWord]
    cases followed : rest.head?.any Text.isWordCharacter <;>
      simp [followed]
  · rw [if_neg (by simp [isWord])]
    unfold readWord?
    split
    case isFalse =>
      rfl
    case isTrue taken =>
      dsimp only
      split
      case isTrue =>
        rfl
      case isFalse unfollowed =>
        have isTaken : Text.lower (text.take word.length) = word := by
          simpa using taken
        have starts : ∀ c ∈ text.take word.length, Text.isNameStart c = true := by
          intro c member
          have inWord : c.toLower ∈ word := by
            rw [← isTaken]
            exact List.mem_map_of_mem member
          exact Text.isNameStart_of_toLower (letters _ inWord)
        have takenNamed : Text.isName (text.take word.length) = true := by
          cases isTake : text.take word.length with
          | nil =>
              rw [isTake] at isTaken
              exact absurd isTaken.symm nonempty
          | cons first others =>
              rw [isTake] at starts
              have startsOthers := fun c member =>
                Text.isNameChar_of_isNameStart (starts c (List.mem_cons_of_mem first member))
              simpa [Text.isName, starts first List.mem_cons_self] using startsOthers
        have ends : ∀ c, (text.drop word.length).head? = some c → Text.isNameChar c = false := by
          intro c isNext
          rw [isNext] at unfollowed
          refine Bool.eq_false_iff.mpr fun continues => unfollowed ?_
          exact Text.isWordCharacter_of_isNameChar continues
        have readsWord := Reader.name?_append takenNamed ends
        rw [List.take_append_drop, readsName] at readsWord
        obtain ⟨rfl, _⟩ := Prod.mk.inj (Option.some.inj readsWord)
        exact absurd isTaken isWord

/-- A connective is read where the name in front is one. -/
theorem readConnective?_of_name
    {text name rest : Text}
    (readsName : Reader.name? text = some (name, rest)) :
    readConnective? text =
      if Identifier.isLogic ⟨name, rest.head?⟩ = true then some rest else none := by
  have readsAnd := readWord?_of_name (by decide : ("and" : Text) ≠ []) (by decide) readsName
  have readsOr := readWord?_of_name (by decide : ("or" : Text) ≠ []) (by decide) readsName
  unfold readConnective? Identifier.isLogic
  rw [readsAnd, readsOr]
  cases Text.lower name == "and" <;>
    cases rest.head?.any Text.isWordCharacter <;>
    simp

/-- Where a name starts that is no side of a comparison, the item is a connective or the
name. -/
theorem read?_of_name
    {text name rest : Text}
    (readsName : Reader.name? text = some (name, rest))
    (noComparison : Comparison.read? text = none) :
    read? text =
      some (if Identifier.isLogic ⟨name, rest.head?⟩ then .connective else .reads name, rest) := by
  unfold read?
  simp only [noComparison, readConnective?_of_name readsName, readsName]
  cases Identifier.isLogic ⟨name, rest.head?⟩ <;>
    rfl

/-- Where neither a name nor spacing starts, the item is a number or punctuation, in which
no name starts. -/
theorem exists_read?_of_mark
    {c : CodePoint}
    {others : Text}
    (noStart : Text.isNameStart c = false)
    (unspaced : Text.isSpacing c = false) :
    ∃ item skipped rest,
      read? (c :: others) = some (item, rest) ∧
        (item = .number ∨ item = .punctuation) ∧
        c :: others = skipped ++ rest ∧ skipped ≠ [] ∧
        ∀ mark ∈ skipped, Text.isNameStart mark = false := by
  have noName : Reader.name? (c :: others) = none := by
    simp [Reader.name?, noStart]
  have noComparison : Comparison.read? (c :: others) = none := by
    simp [Comparison.read?, noName]
  have noWord {first : CodePoint} (letter : Text.isNameStart first = true) (letters : Text) :
      readWord? (first :: letters) (c :: others) = none := by
    refine if_neg fun same => ?_
    have isFirst : c.toLower = first :=
      (List.cons.inj (beq_iff_eq.mp same)).1
    have starts := Text.isNameStart_of_toLower (isFirst ▸ letter)
    simp [noStart] at starts
  have noConnective : readConnective? (c :: others) = none := by
    have noAnd : readWord? "and" (c :: others) = none :=
      noWord (by decide : Text.isNameStart 'a' = true) "nd"
    have noOr : readWord? "or" (c :: others) = none :=
      noWord (by decide : Text.isNameStart 'o' = true) "r"
    simp only [readConnective?, noAnd, noOr]
  unfold read?
  rw [noComparison, noConnective, noName]
  dsimp only
  cases readsNumber : Reader.decimal? (c :: others) with
  | some found =>
      obtain ⟨number, rest⟩ := found
      have isDecimal := Reader.isDecimal_of_decimal? readsNumber
      refine ⟨_, number, rest, rfl, .inl rfl, Reader.eq_append_of_decimal? readsNumber, ?_,
        fun mark => isDecimal.isNameStart_of_mem⟩
      rintro rfl
      obtain ⟨digit, isHead, _⟩ := isDecimal.exists_head?
      cases isHead
  | none =>
      have noDigit : Text.isAnyDigit c = false := by
        refine Bool.eq_false_iff.mpr fun digit => ?_
        have readsDigits : Reader.digits? (c :: others) = some (Reader.run Text.isAnyDigit _) :=
          if_pos digit
        simp only [Reader.decimal?, readsDigits, Option.bind_eq_bind,
          Option.bind_some] at readsNumber
        split at readsNumber
        · split at readsNumber <;>
            cases readsNumber
        · cases readsNumber
      have isMark : isPunctuation c = true := by
        have noNameChar : Text.isNameChar c = false := by
          refine Bool.eq_false_iff.mpr fun named => ?_
          simp [Text.isAnyDigit_of_isNameChar named noStart] at noDigit
        simp [isPunctuation, noNameChar, unspaced]
      have readsMarks :
          Reader.run? isPunctuation (c :: others) = some (Reader.run isPunctuation _) :=
        if_pos isMark
      obtain ⟨isText, nonempty, marks⟩ := Reader.eq_append_of_run? readsMarks
      rw [readsMarks]
      refine ⟨_, _, _, rfl, .inr rfl, isText, nonempty, fun mark member => ?_⟩
      have punctuation := marks mark member
      simp only [isPunctuation, Bool.and_eq_true, Bool.not_eq_true'] at punctuation
      refine Bool.eq_false_iff.mpr fun starts => ?_
      simp [Text.isNameChar_of_isNameStart starts] at punctuation

end ConditionItem

/-! ## Counting every identifier -/

namespace Condition

/-- What a condition mentions is what a scan of it finds: the comparisons, the identifiers
that are no connective, and the number of those that are one. -/
structure Accounts
    (condition : Condition)
    (identifiers : List (Occurrence Identifier))
    (comparisons : List (Occurrence Comparison)) :
    Prop where
  comparisons_eq : condition.comparisons = comparisons.map Occurrence.value
  names_eq : condition.names =
    (identifiers.filter fun identifier => !Identifier.isConnective comparisons identifier).map
      fun identifier => identifier.value.name
  connectives_eq : condition.connectives = identifiers.countP (Identifier.isConnective comparisons)

/-- A connective in front adds one to the count. -/
theorem connectives_ofItems_cons
    (item : ConditionItem)
    (items : List ConditionItem) :
    (ofItems (item :: items)).connectives =
      (ofItems items).connectives + if item = .connective then 1 else 0 := by
  simp [ofItems, List.count_cons]

namespace Accounts

variable {items : List ConditionItem}
  {identifiers : List (Occurrence Identifier)}
  {comparisons : List (Occurrence Comparison)}

/-- A number or a punctuation mark in front mentions nothing. -/
theorem mark
    (accounts : Accounts (ofItems items) identifiers comparisons)
    {item : ConditionItem}
    (isMark : item = .number ∨ item = .punctuation) :
    Accounts (ofItems (item :: items)) identifiers comparisons := by
  have same : ofItems (item :: items) = ofItems items := by
    rcases isMark with rfl | rfl <;>
      rfl
  rw [same]
  exact accounts

/-- A comparison accounts for its sides, and no identifier after it is a side of it. -/
theorem compares
    (accounts : Accounts (ofItems items) identifiers comparisons)
    {position width : Nat}
    {comparison : Comparison}
    {sides : List (Occurrence Identifier)}
    (areSides :
      sides.map (fun side => side.value.name) = (ConditionItem.compares comparison).names)
    (inside : ∀ side ∈ sides, position ≤ side.start ∧ side.start < position + width)
    (after : ∀ identifier ∈ identifiers, position + width ≤ identifier.start) :
    Accounts (ofItems (.compares comparison :: items)) (sides ++ identifiers)
      (⟨position, width, comparison⟩ :: comparisons) := by
  have sideIsNone (side) (member : side ∈ sides) :
      Identifier.isConnective (⟨position, width, comparison⟩ :: comparisons) side = false := by
    have lies := inside side member
    simp [Identifier.isConnective, Identifier.isSide, Occurrence.stop, lies]
  have laterSame (identifier) (member : identifier ∈ identifiers) :
      Identifier.isConnective (⟨position, width, comparison⟩ :: comparisons) identifier =
        Identifier.isConnective comparisons identifier := by
    have isLater := after identifier member
    simp [Identifier.isConnective, Identifier.isSide, Occurrence.stop, Nat.not_lt.mpr isLater]
  constructor
  · exact congrArg (comparison :: ·) accounts.comparisons_eq
  · have allSides :
        (sides.filter fun side =>
          !Identifier.isConnective (⟨position, width, comparison⟩ :: comparisons) side) = sides :=
      List.filter_eq_self.mpr fun side member => by simp [sideIsNone side member]
    have sameNames :
        (identifiers.filter fun identifier =>
          !Identifier.isConnective (⟨position, width, comparison⟩ :: comparisons) identifier) =
          identifiers.filter fun identifier =>
            !Identifier.isConnective comparisons identifier :=
      List.filter_congr fun identifier member => by rw [laterSame identifier member]
    rw [List.filter_append, List.map_append, allSides, sameNames, areSides, ← accounts.names_eq]
    rfl
  · have noneOfSides :
        sides.countP (Identifier.isConnective (⟨position, width, comparison⟩ :: comparisons)) = 0 :=
      List.countP_eq_zero.mpr fun side member => by simp [sideIsNone side member]
    have sameCount :
        identifiers.countP
            (Identifier.isConnective (⟨position, width, comparison⟩ :: comparisons)) =
          identifiers.countP (Identifier.isConnective comparisons) :=
      List.countP_congr fun identifier member => by rw [laterSame identifier member]
    rw [List.countP_append, noneOfSides, sameCount, Nat.zero_add, ← accounts.connectives_eq,
      connectives_ofItems_cons, if_neg (by simp)]
    rfl

/-- An identifier before all comparisons is a connective or a name of its own. -/
theorem name
    (accounts : Accounts (ofItems items) identifiers comparisons)
    {position width : Nat}
    {identifier : Identifier}
    (ahead : ∀ comparison ∈ comparisons, position < comparison.start) :
    Accounts
      (ofItems ((if identifier.isLogic then .connective else .reads identifier.name) :: items))
      (⟨position, width, identifier⟩ :: identifiers) comparisons := by
  have noSide : Identifier.isSide comparisons ⟨position, width, identifier⟩ = false := by
    refine List.any_eq_false.mpr fun comparison member => ?_
    simp [Nat.not_le.mpr (ahead comparison member)]
  have isOne :
      Identifier.isConnective comparisons ⟨position, width, identifier⟩ = identifier.isLogic := by
    simp [Identifier.isConnective, noSide]
  cases logic : identifier.isLogic with
  | true =>
      refine ⟨accounts.comparisons_eq, ?_, ?_⟩
      · rw [List.filter_cons_of_neg (by simp [isOne, logic])]
        exact accounts.names_eq
      · rw [List.countP_cons_of_pos (by rw [isOne, logic]), ← accounts.connectives_eq]
        exact connectives_ofItems_cons .connective items
  | false =>
      refine ⟨accounts.comparisons_eq, ?_, ?_⟩
      · rw [List.filter_cons_of_pos (by simp [isOne, logic]), List.map_cons, ← accounts.names_eq]
        rfl
      · rw [List.countP_cons_of_neg (by simp [isOne, logic]), ← accounts.connectives_eq]
        exact connectives_ofItems_cons (.reads identifier.name) items

end Accounts

/-- What is read of a text, from a position on, accounts for the identifiers in it, and
nothing is left. -/
structure AccountsFrom
    (position : Nat)
    (text : Text)
    (read : List ConditionItem × Text) :
    Prop where
  accounts : Accounts (ofItems read.1) (Occurrence.scanFrom Identifier.read? position text)
    (Occurrence.scanFrom Comparison.read? position text)
  ended : read.2 = []

/-- A first item is read, and then the others after the white space that follows. -/
theorem readAll_of_read?
    {text rest : Text}
    {item : ConditionItem}
    (reads : ConditionItem.read? text = some (item, rest))
    (shorter : rest.length < text.length) :
    ConditionItem.readAll text =
      (item :: (ConditionItem.readAll (Reader.skipSpacing rest)).1,
        (ConditionItem.readAll (Reader.skipSpacing rest)).2) := by
  have stillShorter : (Reader.skipSpacing rest).length < text.length :=
    Nat.lt_of_le_of_lt (List.dropWhile_suffix _).length_le shorter
  rw [ConditionItem.readAll, reads]
  simp only [if_pos stillShorter]

/-- One item accounts for the identifiers in it when what is read after it accounts for the
others. -/
theorem accountsFrom_step
    {text : Text}
    (unspaced : ∀ c, text.head? = some c → Text.isSpacing c = false)
    (onward : ∀ rest : Text, rest.length < text.length → ∀ position,
      AccountsFrom position rest (ConditionItem.readAll (Reader.skipSpacing rest)))
    (position : Nat) :
    AccountsFrom position text (ConditionItem.readAll text) := by
  cases text with
  | nil =>
      have nothing : ConditionItem.readAll [] = ([], []) := by
        rw [ConditionItem.readAll]
        rfl
      rw [nothing]
      exact ⟨⟨by simp [Occurrence.scanFrom, ofItems], by simp [Occurrence.scanFrom, ofItems],
        by simp [Occurrence.scanFrom, ofItems]⟩, rfl⟩
  | cons c others =>
      cases starts : Text.isNameStart c with
      | false =>
          obtain ⟨item, skipped, rest, reads, isMark, isText, nonempty, noStart⟩ :=
            ConditionItem.exists_read?_of_mark starts (unspaced c rfl)
          have shorter : rest.length < (c :: others).length := by
            have := List.length_pos_of_ne_nil nonempty
            rw [isText, List.length_append]
            omega
          have later := onward rest shorter (position + skipped.length)
          rw [readAll_of_read? reads shorter, isText]
          refine ⟨?_, later.ended⟩
          rw [Occurrence.scanFrom_skip noStart, Occurrence.scanFrom_skip noStart]
          exact later.accounts.mark isMark
      | true =>
          obtain ⟨name, afterName, readsName⟩ :
              ∃ name afterName, Reader.name? (c :: others) = some (name, afterName) :=
            ⟨_, _, if_pos starts⟩
          cases compares : Comparison.read? (c :: others) with
          | some found =>
              obtain ⟨comparison, rest⟩ := found
              obtain ⟨width, sides, isLength, nonempty, scansComparison, scansSides, areSides,
                inside⟩ := Comparison.exists_sides compares position
              have reads :
                  ConditionItem.read? (c :: others) = some (.compares comparison, rest) := by
                simp only [ConditionItem.read?, compares]
              have shorter : rest.length < (c :: others).length := by
                omega
              have later := onward rest shorter (position + width)
              rw [readAll_of_read? reads shorter]
              refine ⟨?_, later.ended⟩
              rw [scansComparison, scansSides]
              exact later.accounts.compares areSides inside fun identifier member =>
                (Occurrence.bounds_of_mem_scanFrom identifier member).1
          | none =>
              have reads := ConditionItem.read?_of_name readsName compares
              obtain ⟨isText, named⟩ := Reader.eq_append_of_name? readsName
              have nonempty := Text.length_pos_of_isName named
              have shorter : afterName.length < (c :: others).length := by
                rw [isText, List.length_append]
                omega
              have later := onward afterName shorter (position + name.length)
              rw [readAll_of_read? reads shorter]
              refine ⟨?_, later.ended⟩
              rw [Occurrence.scanFrom_pass readsName compares, Identifier.scanFrom_name readsName]
              apply later.accounts.name
              intro comparison member
              have := (Occurrence.bounds_of_mem_scanFrom comparison member).1
              omega

/-- Whatever a text is, it is read to its end, and every identifier in it is accounted
for. -/
theorem accountsFrom_readAll
    (text : Text)
    (position : Nat) :
    AccountsFrom position text (ConditionItem.readAll (Reader.skipSpacing text)) := by
  induction isLength : text.length using Nat.strong_induction_on generalizing text position with
  | h length inductionHypothesis =>
      have parts : text.takeWhile Text.isSpacing ++ Reader.skipSpacing text = text :=
        List.takeWhile_append_dropWhile
      have noStart : ∀ c ∈ text.takeWhile Text.isSpacing, Text.isNameStart c = false :=
        fun c member => Text.isNameStart_of_isSpacing (List.mem_takeWhile_imp member)
      have unspaced : ∀ c, (Reader.skipSpacing text).head? = some c → Text.isSpacing c = false := by
        intro c isHead
        have stops := List.head?_dropWhile_not Text.isSpacing text
        rw [Reader.skipSpacing] at isHead
        simpa [isHead] using stops
      have noLonger : (Reader.skipSpacing text).length ≤ text.length :=
        (List.dropWhile_suffix _).length_le
      have onward : ∀ rest : Text, rest.length < (Reader.skipSpacing text).length → ∀ position,
          AccountsFrom position rest (ConditionItem.readAll (Reader.skipSpacing rest)) :=
        fun rest shorter position => inductionHypothesis rest.length (by omega) rest position rfl
      have accounts := accountsFrom_step unspaced onward
        (position + (text.takeWhile Text.isSpacing).length)
      refine ⟨?_, accounts.ended⟩
      have scans {Value : Type} (read? : Reader Value) :
          Occurrence.scanFrom read? position text =
            Occurrence.scanFrom read? (position + (text.takeWhile Text.isSpacing).length)
              (Reader.skipSpacing text) := by
        rw [← Occurrence.scanFrom_skip noStart, parts]
      rw [scans, scans]
      exact accounts.accounts

/-- Whatever a text is, it is read to its end as a condition. -/
theorem read?_eq_ofText
    (text : Text) :
    read? text = some (ofText text, []) := by
  have reads : read? text =
      some (ofItems (ConditionItem.readAll (Reader.skipSpacing text)).1, []) := by
    rw [← (accountsFrom_readAll text 0).ended]
    rfl
  simp only [ofText, Reader.whole?, reads, Option.getD_some]

/-- Scans of a text from any position account for what it mentions as a condition. -/
theorem accounts_ofText
    (text : Text)
    (position : Nat) :
    Accounts (ofText text) (Occurrence.scanFrom Identifier.read? position text)
      (Occurrence.scanFrom Comparison.read? position text) := by
  have isRead : ofText text = ofItems (ConditionItem.readAll (Reader.skipSpacing text)).1 :=
    (congrArg Prod.fst (Option.some.inj (read?_eq_ofText text))).symm
  rw [isRead]
  exact (accountsFrom_readAll text position).accounts

/-- The reading of a condition loses nothing.  Every text is read to its end as a condition.
Its comparisons are those that a scan of its names finds.  Its names are the identifiers in
it, in order, less the connectives: the words `and` and `or` in any case that are no side of
a comparison and that no word character follows.  So each identifier counts once. -/
theorem ofText_accounts_for_identifiers
    (text : Text) :
    let identifiers := Occurrence.scan Identifier.read? text
    let comparisons := Occurrence.scan Comparison.read? text
    (∃ rule, Rule.named? "condition_expr" = some rule ∧ rule.takesWhole text = true) ∧
      Reader.whole? read? text = some (ofText text) ∧
      (ofText text).comparisons = comparisons.map Occurrence.value ∧
      (ofText text).names =
        (identifiers.filter fun identifier =>
          !Identifier.isConnective comparisons identifier).map
            (fun identifier => identifier.value.name) ∧
      (ofText text).connectives = identifiers.countP (Identifier.isConnective comparisons) ∧
      (ofText text).names.length + (ofText text).connectives = identifiers.length := by
  intro identifiers comparisons
  have accounts : Accounts (ofText text) identifiers comparisons :=
    accounts_ofText text 0
  refine ⟨⟨.ofReader "condition_expr" read?, by cbv, ?_⟩, ?_, accounts.comparisons_eq,
    accounts.names_eq, accounts.connectives_eq, ?_⟩
  · simp [Rule.takesWhole, Rule.ofReader, read?_eq_ofText]
  · simp only [Reader.whole?, read?_eq_ofText]
  · rw [accounts.names_eq, accounts.connectives_eq, List.length_map, ← List.countP_eq_length_filter,
      Nat.add_comm]
    simpa using
      (List.length_eq_countP_add_countP (Identifier.isConnective comparisons)
        (l := identifiers)).symm

end Condition

end MissionLint
