import MissionLint.Proofs.Script.SpacedReader

namespace MissionLint

/-!
# Spaces at the end of a line of code

A comment leaves the spaces before it at the end of the code.  No shape can tell: each
reads the same with and without them.
-/

/-! ## Shapes that cover a line -/

section Shapes

open Reader

variable {text spaced : Text}

/-- A space at the end does not change which block a code opens. -/
theorem Opener.ofCode?_of_extends
    (isSpaced : Extends text spaced) :
    ofCode? spaced = ofCode? text := by
  apply whole?_of_agree
  refine rel_bind isSpaced.skipIndent.toExtends.name? ?_
  rintro ⟨name, rest⟩ ⟨_, remaining⟩ ⟨rfl, afterName⟩
  refine rel_bind (afterName.literal? (by decide)) ?_
  intro rest remaining afterColons
  exact .some ⟨rfl, afterColons.skipIndent⟩

namespace Declaration

/-- A value is the same up to the space at the end, which it absorbs. -/
theorem readValue_of_extends
    (isSpaced : Extends text spaced) :
    Text.strip (readValue text).1 = Text.strip (readValue spaced).1 ∧
      Absorbs (readValue text).2 (readValue spaced).2 := by
  have splits := isSpaced.skipIndent.toExtends.statement
  exact ⟨splits.strip_eq.symm, splits.toExtends.skipSemicolon.skipIndent⟩

/-- A declaration has at least one indent after its type, but also a name after that. -/
theorem rel_name_of_extends
    (isSpaced : Extends text spaced) :
    Agree Extends
      (skipSomeIndent? text >>= name?) (skipSomeIndent? spaced >>= name?) := by
  rcases isSpaced.eq_or with ⟨rfl, rfl⟩ | rfl
  · exact .none
  cases text with
  | nil =>
      exact .none
  | cons first rest =>
      simp only [skipSomeIndent?, List.cons_append]
      split
      · exact (Extends.space rest).skipIndent.toExtends.name?
      · exact .none

/-- A typed declaration absorbs a space at the end. -/
theorem agree_readTyped?
    (isSpaced : Extends text spaced) :
    Agree Absorbs (readTyped? text) (readTyped? spaced) := by
  refine rel_bind (isSpaced.skipIndent.toExtends.word? (by decide)) ?_
  rintro ⟨type, rest⟩ ⟨_, remaining⟩ ⟨rfl, afterType⟩
  dsimp only
  rw [← bind_assoc, ← bind_assoc]
  refine rel_bind (rel_name_of_extends afterType) ?_
  rintro ⟨name, rest⟩ ⟨_, remaining⟩ ⟨rfl, afterName⟩
  refine rel_bind (afterName.skipIndent.toExtends.literal? (by decide)) ?_
  intro rest remaining afterEquals
  obtain ⟨sameValue, absorbs⟩ := readValue_of_extends afterEquals
  exact .some ⟨congrArg (Declaration.mk type name) sameValue, absorbs⟩

/-- A declaration without a type absorbs a space at the end. -/
theorem agree_readUntyped?
    (isSpaced : Extends text spaced) :
    Agree Absorbs (readUntyped? text) (readUntyped? spaced) := by
  refine rel_bind isSpaced.skipIndent.toExtends.name? ?_
  rintro ⟨name, rest⟩ ⟨_, remaining⟩ ⟨rfl, afterName⟩
  refine rel_bind (afterName.skipIndent.toExtends.notDoubled? (by decide)) ?_
  intro rest remaining afterEquals
  obtain ⟨sameValue, absorbs⟩ := readValue_of_extends afterEquals
  exact .some ⟨congrArg (Declaration.mk .unknown name) sameValue, absorbs⟩

/-- A space at the end does not change what a code declares. -/
theorem ofCode?_of_extends
    (isSpaced : Extends text spaced) :
    ofCode? spaced = ofCode? text := by
  unfold ofCode?
  rw [whole?_of_agree (agree_readTyped? isSpaced), whole?_of_agree (agree_readUntyped? isSpaced)]

end Declaration

/-! ## Shapes that occur in a line -/

/-- What occurs in a text occurs in it also when a space follows. -/
theorem Occurrence.searchFrom_of_agree
    {read? : Reader Value}
    (agree : ∀ text, Agree Extends (read? text) (read? (text ++ [(' ' : CodePoint)])))
    (before : Option CodePoint)
    (position : Nat)
    (text : Text) :
    (searchFrom read? before position (text ++ [(' ' : CodePoint)])).map Occurrence.value =
      (searchFrom read? before position text).map Occurrence.value := by
  have nothing (before : Option CodePoint) (position : Nat) :
      searchFrom read? before position [(' ' : CodePoint)] = [] := by
    have noBoundary : isBoundary before ' ' = false := by
      simp [isBoundary, (by decide : Text.isNameStart ' ' = false)]
    rw [searchFrom, noBoundary]
    simp [searchFrom]
  fun_induction searchFrom read? before position text with
  | case1 before position =>
      rw [List.nil_append, nothing]
  | case2 before position c rest isBoundary value remaining reads width step inductionHypothesis =>
      have both := agree (c :: rest)
      rw [reads] at both
      obtain ⟨left, readsMore, isLeft⟩ := both.exists_of_some
      rw [List.cons_append] at readsMore
      rw [List.cons_append, searchFrom, if_pos isBoundary, readsMore]
      rcases isLeft.eq_or with ⟨rfl, rfl⟩ | rfl
      · simp [searchFrom, step, width]
      · have inText : step ≤ rest.length := by
          simp only [step, width, List.length_cons]
          omega
        have sameWidth :
            (c :: (rest ++ [(' ' : CodePoint)])).length
              - (remaining ++ [(' ' : CodePoint)]).length = width := by
          simp only [width, List.length_append, List.length_cons]
          omega
        have sameBefore : (c :: (rest ++ [(' ' : CodePoint)]))[step]? = (c :: rest)[step]? := by
          rw [← List.cons_append]
          exact List.getElem?_append_left (Nat.lt_succ_of_le inText)
        simp only [sameWidth, List.map_cons]
        rw [sameBefore, List.drop_append_of_le_length inText, inductionHypothesis]
  | case3 before position c rest isBoundary readsNothing inductionHypothesis =>
      have both := agree (c :: rest)
      rw [readsNothing] at both
      rw [List.cons_append, searchFrom, if_pos isBoundary, ← List.cons_append, both.eq_none]
      exact inductionHypothesis
  | case4 before position c rest notBoundary inductionHypothesis =>
      rw [List.cons_append, searchFrom, if_neg notBoundary]
      exact inductionHypothesis

/-- A search finds the same with a space at the end when its reader does. -/
theorem Occurrence.values_of_agree
    {read? : Reader Value}
    (agree : ∀ {text spaced : Text},
      Extends text spaced → Agree Extends (read? text) (read? spaced))
    (text : Text) :
    values read? (text ++ [(' ' : CodePoint)]) = values read? text :=
  searchFrom_of_agree (fun text => agree (.space text)) none 0 text

namespace Trigger

/-- A condition and what is left of it are the text. -/
theorem readCondition_parts
    (text : Text) :
    (readCondition text).1 ++ (readCondition text).2 = text := by
  fun_induction readCondition text with
  | case1 =>
      rfl
  | case2 c rest ends =>
      rfl
  | case3 c rest goesOn condition remaining reads inductionHypothesis =>
      rw [reads] at inductionHypothesis
      simpa using inductionHypothesis

/-- A condition is split off alike. -/
theorem splits_readCondition
    (isSpaced : Extends text spaced) :
    Splits (readCondition text) (readCondition spaced) := by
  have noBracket : (skipSpacing [(' ' : CodePoint)]).head? ≠ some ('[' : CodePoint) := by
    decide
  rcases isSpaced.eq_or with ⟨rfl, rfl⟩ | rfl
  · exact .ended
  induction text with
  | nil =>
      exact .within []
  | cons c rest inductionHypothesis =>
      rw [List.cons_append, readCondition, readCondition, ← List.cons_append,
        endsCondition_append noBracket]
      split
      · exact .after [] (c :: rest)
      · refine (inductionHypothesis (.space rest)).cons ?_ c
        rw [readCondition_parts]
        simp

/-- A trigger is read alike with a space at the end. -/
theorem agree_read?
    (isSpaced : Extends text spaced) :
    Agree Extends (read? text) (read? spaced) := by
  refine rel_bind (isSpaced.word? (by decide)) ?_
  rintro ⟨word, rest⟩ ⟨_, remaining⟩ ⟨rfl, afterWord⟩
  refine rel_bind (afterWord.skipIndent.toExtends.literal? (by decide)) ?_
  intro rest remaining afterParenthesis
  have splits := splits_readCondition afterParenthesis
  rcases splits.eq_or with ⟨sameCondition, afterCondition⟩ | ⟨nothing, nothingLeft⟩
  · refine rel_bind (afterCondition.literal? (by decide)) ?_
    intro rest remaining afterClosing
    refine rel_bind (afterClosing.skipIndent.toExtends.literal? (by decide)) ?_
    intro rest remaining afterBracket
    refine rel_bind afterBracket.skipIndent.toExtends.name? ?_
    rintro ⟨target, rest⟩ ⟨_, remaining⟩ ⟨rfl, afterTarget⟩
    refine rel_bind (afterTarget.skipIndent.toExtends.literal? (by decide)) ?_
    intro rest remaining afterAll
    exact .some
      ⟨congrArg (fun condition => Trigger.mk word condition target) sameCondition, afterAll⟩
  · simp only [nothing, nothingLeft]
    exact .none

/-- A code has the same triggers with a space at the end. -/
theorem inCode_concat_space
    (code : Text) :
    inCode (code ++ [(' ' : CodePoint)]) = inCode code :=
  Occurrence.values_of_agree agree_read? code

end Trigger

namespace WhenClause

/-- The last mark is the same with a space at the end. -/
theorem splitAtLast?_concat_space
    {mark : CodePoint}
    (other : mark ≠ ' ')
    (text : Text) :
    splitAtLast? mark (text ++ [(' ' : CodePoint)]) =
      (splitAtLast? mark text).map fun parts => (parts.1, parts.2 ++ [(' ' : CodePoint)]) := by
  induction text with
  | nil =>
      simp [splitAtLast?, Ne.symm other]
  | cons c rest inductionHypothesis =>
      rw [List.cons_append, splitAtLast?, splitAtLast?, inductionHypothesis]
      cases splitAtLast? mark rest with
      | some parts =>
          rfl
      | none =>
          simp only [Option.map_none]
          split <;>
            rfl

/-- The body of a clause is read alike with a space at the end. -/
theorem agree_readBody?
    (isSpaced : Extends text spaced) :
    Agree Extends (readBody? text) (readBody? spaced) := by
  have splits := Trigger.splits_readCondition isSpaced
  unfold readBody?
  revert splits
  rcases Trigger.readCondition text with ⟨condition, rest⟩
  rcases Trigger.readCondition spaced with ⟨condition', rest'⟩
  intro splits
  cases splits with
  | after =>
      have shorter :
          Agree Extends
            ((splitAtLast? ')' condition).map fun parts => (parts.1, parts.2 ++ rest))
            ((splitAtLast? ')' condition).map fun parts =>
              (parts.1, parts.2 ++ (rest ++ [(' ' : CodePoint)]))) := by
        cases splitAtLast? ')' condition with
        | none =>
            exact .none
        | some parts =>
            refine .some ⟨rfl, ?_⟩
            simp only [← List.append_assoc]
            exact .space _
      cases rest with
      | nil =>
          exact shorter
      | cons c others =>
          by_cases closes : ((c :: others).head? == some (')' : CodePoint)) = true
          · have closesSpaced :
                ((c :: others ++ [(' ' : CodePoint)]).head? == some (')' : CodePoint)) = true :=
              closes
            dsimp only
            rw [if_pos closes, if_pos closesSpaced]
            exact .some ⟨rfl, .space (c :: others)⟩
          · have opensSpaced :
                ¬((c :: others ++ [(' ' : CodePoint)]).head? == some (')' : CodePoint)) = true :=
              closes
            dsimp only
            rw [if_neg closes, if_neg opensSpaced]
            exact shorter
  | within =>
      simp only [List.head?_nil, splitAtLast?_concat_space (by decide : (')' : CodePoint) ≠ ' ')]
      cases splitAtLast? ')' condition with
      | none =>
          exact .none
      | some parts =>
          simp only [List.append_nil]
          exact .some ⟨rfl, .space parts.2⟩
  | ended =>
      exact .none

/-- A clause is read alike with a space at the end. -/
theorem agree_read?
    (isSpaced : Extends text spaced) :
    Agree Extends (read? text) (read? spaced) := by
  refine rel_bind (isSpaced.literal? (by decide)) ?_
  intro rest remaining afterWord
  refine rel_bind (afterWord.skipIndent.toExtends.literal? (by decide)) ?_
  intro rest remaining afterParenthesis
  refine rel_bind (agree_readBody? afterParenthesis) ?_
  rintro ⟨body, rest⟩ ⟨_, remaining⟩ ⟨rfl, afterBody⟩
  refine rel_bind (afterBody.literal? (by decide)) ?_
  intro rest remaining afterAll
  exact .some ⟨rfl, afterAll⟩

/-- A code has the same clauses with a space at the end. -/
theorem inCode_concat_space
    (code : Text) :
    inCode (code ++ [(' ' : CodePoint)]) = inCode code :=
  Occurrence.values_of_agree agree_read? code

end WhenClause

/-- A code invokes the same with a space at the end. -/
theorem Invocation.inCode_concat_space
    (code : Text) :
    inCode (code ++ [(' ' : CodePoint)]) = inCode code := by
  refine Occurrence.values_of_agree (fun isSpaced => ?_) code
  refine rel_bind isSpaced.name? ?_
  rintro ⟨name, rest⟩ ⟨_, remaining⟩ ⟨rfl, afterName⟩
  refine rel_bind (afterName.literal? (by decide)) ?_
  intro rest remaining afterColons
  refine rel_bind (afterColons.skipIndent.toExtends.literal? (by decide)) ?_
  intro rest remaining afterAll
  exact .some ⟨rfl, afterAll⟩

/-- A code calls the same with a space at the end. -/
theorem CallCommand.inCode_concat_space
    (code : Text) :
    inCode (code ++ [(' ' : CodePoint)]) = inCode code := by
  refine Occurrence.values_of_agree (fun isSpaced => ?_) code
  refine rel_bind (isSpaced.literal? (by decide)) ?_
  intro rest remaining afterWord
  refine rel_bind (afterWord.skipIndent.toExtends.literal? (by decide)) ?_
  intro rest remaining afterColon
  exact afterColon.skipIndent.toExtends.name?

/-- A code assigns the same with a space at the end. -/
theorem Assignment.inCode_concat_space
    (code : Text) :
    inCode (code ++ [(' ' : CodePoint)]) = inCode code := by
  refine Occurrence.values_of_agree (fun isSpaced => ?_) code
  refine rel_bind isSpaced.name? ?_
  rintro ⟨name, rest⟩ ⟨_, remaining⟩ ⟨rfl, afterName⟩
  refine rel_bind (afterName.skipIndent.toExtends.notDoubled? (by decide)) ?_
  intro rest remaining afterColon
  have splits := afterColon.skipIndent.toExtends.statement
  exact .some ⟨congrArg (Assignment.mk name) splits.strip_eq.symm, splits.toExtends⟩

/-- A code has the same oxygen level with a space at the end. -/
theorem OxygenLevel.inCode?_concat_space
    (code : Text) :
    inCode? (code ++ [(' ' : CodePoint)]) = inCode? code := by
  have sameLevels :
      Occurrence.values read? (code ++ [(' ' : CodePoint)]) = Occurrence.values read? code := by
    refine Occurrence.values_of_agree (fun isSpaced => ?_) code
    refine rel_bind (isSpaced.literal? (by decide)) ?_
    intro rest remaining afterWord
    refine rel_bind (afterWord.skipIndent.toExtends.literal? (by decide)) ?_
    intro rest remaining afterColon
    refine rel_bind afterColon.skipIndent.toExtends.digits? ?_
    rintro ⟨current, rest⟩ ⟨_, remaining⟩ ⟨rfl, afterCurrent⟩
    refine rel_bind (afterCurrent.skipIndent.toExtends.literal? (by decide)) ?_
    intro rest remaining afterSlash
    refine rel_bind afterSlash.skipIndent.toExtends.digits? ?_
    rintro ⟨maximum, rest⟩ ⟨_, remaining⟩ ⟨rfl, afterAll⟩
    exact .some ⟨rfl, afterAll⟩
  unfold inCode?
  rw [sameLevels]

/-- A code spawns the same with a space at the end. -/
theorem Spawner.occursIn_concat_space
    (code : Text) :
    occursIn (code ++ [(' ' : CodePoint)]) = occursIn code := by
  have sameSpawners :
      Occurrence.values read? (code ++ [(' ' : CodePoint)]) = Occurrence.values read? code := by
    refine Occurrence.values_of_agree (fun isSpaced => ?_) code
    refine rel_bind (isSpaced.word? (by decide)) ?_
    rintro ⟨_, rest⟩ ⟨_, remaining⟩ ⟨rfl, afterWord⟩
    refine rel_bind (afterWord.skipIndent.toExtends.literal? (by decide)) ?_
    intro rest remaining afterAll
    exact .some ⟨rfl, afterAll⟩
  have sameCount := congrArg List.isEmpty sameSpawners
  simp only [Occurrence.values, List.isEmpty_map] at sameCount
  unfold occursIn
  rw [sameCount]

/-! ## Conditions and words -/

namespace ConditionItem

/-- A word is read alike, as a space is neither in it nor a word character. -/
theorem rel_readWord?
    (isSpaced : Extends text spaced)
    {word : Text}
    (nonempty : word ≠ [])
    (absent : (' ' : CodePoint) ∉ word) :
    Option.Rel Extends (readWord? word text) (readWord? word spaced) := by
  rcases isSpaced.eq_or with ⟨rfl, rfl⟩ | rfl
  · have notThere : (Text.lower (List.take word.length []) == word) = false := by
      simpa [Text.lower] using nonempty
    simp only [readWord?, notThere]
    exact .none
  unfold readWord?
  by_cases fits : word.length ≤ text.length
  · rw [List.take_append_of_le_length fits, List.drop_append_of_le_length fits]
    have sameNext :
        (text.drop word.length ++ [(' ' : CodePoint)]).head?.any Text.isWordCharacter =
          (text.drop word.length).head?.any Text.isWordCharacter := by
      cases text.drop word.length with
      | nil =>
          decide
      | cons c rest =>
          rfl
    simp only [sameNext]
    split
    · split
      · exact .none
      · exact .some (.space _)
    · exact .none
  · have tooShort : (Text.lower (text.take word.length) == word) = false := by
      refine beq_eq_false_iff_ne.mpr fun same => ?_
      have sameLength := congrArg List.length same
      simp only [Text.lower, List.length_map, List.length_take] at sameLength
      omega
    have withSpace :
        (Text.lower ((text ++ [(' ' : CodePoint)]).take word.length) == word) = false := by
      refine beq_eq_false_iff_ne.mpr fun same => absent ?_
      have all : (text ++ [(' ' : CodePoint)]).take word.length = text ++ [(' ' : CodePoint)] :=
        List.take_of_length_le (by simp; omega)
      rw [← same, all]
      exact List.mem_map.mpr ⟨' ', by simp, by decide⟩
    rw [tooShort, withSpace]
    exact .none

/-- A connective is read alike with a space at the end. -/
theorem rel_readConnective?
    (isSpaced : Extends text spaced) :
    Option.Rel Extends (readConnective? text) (readConnective? spaced) := by
  have readsAnd := rel_readWord? isSpaced (by decide : ("and" : Text) ≠ []) (by decide)
  have readsOr := rel_readWord? isSpaced (by decide : ("or" : Text) ≠ []) (by decide)
  unfold readConnective?
  rcases rel_cases readsAnd with ⟨fails, failsSpaced⟩ | ⟨_, _, found, foundSpaced, isRest⟩
  · rw [fails, failsSpaced]
    exact readsOr
  · rw [found, foundSpaced]
    exact .some isRest

/-- The right side of a comparison is read alike with a space at the end. -/
theorem agree_readRight?
    (isSpaced : Extends text spaced) :
    Agree Extends (Comparison.readRight? text) (Comparison.readRight? spaced) := by
  have number := isSpaced.signed? Extends.decimal?
  unfold Comparison.readRight?
  rcases rel_cases number with ⟨fails, failsSpaced⟩ | ⟨_, _, found, foundSpaced, both⟩
  · rw [fails, failsSpaced]
    exact isSpaced.name?
  · rw [found, foundSpaced]
    exact .some both

/-- A comparison is read alike with a space at the end. -/
theorem agree_comparison
    (isSpaced : Extends text spaced) :
    Agree Extends (Comparison.read? text) (Comparison.read? spaced) := by
  refine rel_bind isSpaced.name? ?_
  rintro ⟨left, rest⟩ ⟨_, remaining⟩ ⟨rfl, afterLeft⟩
  refine rel_bind (afterLeft.skipIndent.toExtends.word? (by decide)) ?_
  rintro ⟨operator, rest⟩ ⟨_, remaining⟩ ⟨rfl, afterOperator⟩
  refine rel_bind (agree_readRight? afterOperator.skipIndent.toExtends) ?_
  rintro ⟨right, rest⟩ ⟨_, remaining⟩ ⟨rfl, afterAll⟩
  exact .some ⟨rfl, afterAll⟩

/-- An item of a condition is read alike with a space at the end: the kinds of items are tried in
order, and each is read in both texts or in neither. -/
theorem agree_read?
    (isSpaced : Extends text spaced) :
    Agree Extends (read? text) (read? spaced) := by
  have comparison := agree_comparison isSpaced
  have connective := rel_readConnective? isSpaced
  have name := isSpaced.name?
  have number := isSpaced.decimal?
  have punctuation := isSpaced.run? (by decide : isPunctuation ' ' = false)
  unfold read?
  rcases rel_cases comparison with
    ⟨noComparison, noComparisonSpaced⟩ | ⟨_, _, found, foundSpaced, sameComparison, isRest⟩
  case inr =>
    simp only [found, foundSpaced, sameComparison]
    exact .some ⟨rfl, isRest⟩
  simp only [noComparison, noComparisonSpaced]
  rcases rel_cases connective with
    ⟨noConnective, noConnectiveSpaced⟩ | ⟨_, _, found, foundSpaced, isRest⟩
  case inr =>
    simp only [found, foundSpaced]
    exact .some ⟨rfl, isRest⟩
  simp only [noConnective, noConnectiveSpaced]
  rcases rel_cases name with
    ⟨noName, noNameSpaced⟩ | ⟨_, _, found, foundSpaced, sameName, isRest⟩
  case inr =>
    simp only [found, foundSpaced, sameName]
    exact .some ⟨rfl, isRest⟩
  simp only [noName, noNameSpaced]
  rcases rel_cases number with
    ⟨noNumber, noNumberSpaced⟩ | ⟨_, _, found, foundSpaced, _, isRest⟩
  case inr =>
    simp only [found, foundSpaced]
    exact .some ⟨rfl, isRest⟩
  simp only [noNumber, noNumberSpaced]
  rcases rel_cases punctuation with
    ⟨noMarks, noMarksSpaced⟩ | ⟨_, _, found, foundSpaced, _, isRest⟩
  · rw [noMarks, noMarksSpaced]
    exact .none
  · rw [found, foundSpaced]
    exact .some ⟨rfl, isRest⟩

/-- Reading an item makes a text shorter exactly when it makes the text with a space
shorter. -/
theorem length_lt_of_absorbs
    {rest remaining : Text}
    (whole : Absorbs text spaced)
    (left : Absorbs rest remaining) :
    rest.length < text.length ↔ remaining.length < spaced.length := by
  cases whole <;>
    cases left <;>
    simp

/-- A text and one that absorbs a space have the same items. -/
theorem readAll_of_absorbs
    (absorbs : Absorbs text spaced) :
    (readAll text).1 = (readAll spaced).1 ∧
      Absorbs (readAll text).2 (readAll spaced).2 := by
  fun_induction readAll text generalizing spaced with
  | case1 text readsNothing =>
      have agree := agree_read? absorbs.toExtends
      rw [readsNothing] at agree
      rw [readAll, agree.eq_none]
      exact ⟨rfl, absorbs⟩
  | case2 text item afterItem reads rest shorter items remaining readsAll =>
      rename_i inductionHypothesis
      have agree := agree_read? absorbs.toExtends
      rw [reads] at agree
      obtain ⟨afterSpaced, readsSpaced, isAfter⟩ := agree.exists_of_some
      have shorterSpaced := (length_lt_of_absorbs absorbs isAfter.skipSpacing).mp shorter
      have goesOn := inductionHypothesis isAfter.skipSpacing
      rw [readsAll] at goesOn
      rw [readAll, readsSpaced]
      simp only [if_pos shorterSpaced]
      exact ⟨congrArg (item :: ·) goesOn.1, goesOn.2⟩
  | case3 text item afterItem reads rest =>
      rename_i notShorter
      have agree := agree_read? absorbs.toExtends
      rw [reads] at agree
      obtain ⟨afterSpaced, readsSpaced, isAfter⟩ := agree.exists_of_some
      have notShorterSpaced :=
        mt (length_lt_of_absorbs absorbs isAfter.skipSpacing).mpr notShorter
      rw [readAll, readsSpaced]
      simpa only [if_neg notShorterSpaced, true_and] using isAfter.skipSpacing

end ConditionItem

/-- A condition is the same with a space at the end. -/
theorem Condition.ofText_concat_space
    (text : Text) :
    ofText (text ++ [(' ' : CodePoint)]) = ofText text := by
  have sameReading :
      whole? read? (text ++ [(' ' : CodePoint)]) = whole? read? text := by
    apply whole?_of_agree
    obtain ⟨sameItems, absorbs⟩ :=
      ConditionItem.readAll_of_absorbs (Extends.space text).skipSpacing
    exact .some ⟨congrArg ofItems sameItems, absorbs⟩
  rw [ofText, sameReading]
  rfl

/-- A text without spaces occurs in the same texts with a space at the end. -/
theorem Text.occursIn_concat_space
    {part : Text}
    (nonempty : part ≠ [])
    (absent : (' ' : CodePoint) ∉ part)
    (text : Text) :
    occursIn part (text ++ [(' ' : CodePoint)]) = occursIn part text := by
  induction text with
  | nil =>
      have notThere := isPrefixOf_concat absent []
      simp only [List.nil_append] at notThere ⊢
      simp [occursIn, notThere, nonempty]
  | cons c rest inductionHypothesis =>
      rw [List.cons_append, occursIn, occursIn, inductionHypothesis, ← List.cons_append,
        isPrefixOf_concat absent]

namespace Word

/-- A token without spaces stands in the same places with a space at the end. -/
theorem standsAt_concat_space
    {token : Text}
    (absent : (' ' : CodePoint) ∉ token)
    (before : Option CodePoint)
    (text : Text) :
    standsAt token before (text ++ [(' ' : CodePoint)]) = standsAt token before text := by
  unfold standsAt
  rw [isPrefixOf_concat absent]
  cases starts : token.isPrefixOf text with
  | false =>
      rfl
  | true =>
      have inText := (List.isPrefixOf_iff_prefix.mp starts).length_le
      rw [List.drop_append_of_le_length inText]
      cases text.drop token.length with
      | nil =>
          simp [(by decide : isPart ' ' = false)]
      | cons c rest =>
          rfl

/-- A token without spaces is a word of the same texts with a space at the end. -/
theorem occursIn_concat_space
    {token : Text}
    (nonempty : token ≠ [])
    (absent : (' ' : CodePoint) ∉ token)
    (text : Text) :
    occursIn token (text ++ [(' ' : CodePoint)]) = occursIn token text := by
  have notAtEnd (before : Option CodePoint) : standsAt token before [] = false := by
    cases token with
    | nil =>
        exact absurd rfl nonempty
    | cons c rest =>
        rfl
  have sameAfter (before : Option CodePoint) :
      occursAfter token before (text ++ [(' ' : CodePoint)]) = occursAfter token before text := by
    induction text generalizing before with
    | nil =>
        have here := standsAt_concat_space absent before []
        rw [List.nil_append] at here ⊢
        rw [occursAfter, occursAfter, here, occursAfter, notAtEnd, notAtEnd]
        rfl
    | cons c rest inductionHypothesis =>
        rw [List.cons_append, occursAfter, occursAfter, inductionHypothesis, ← List.cons_append,
          standsAt_concat_space absent]
  exact sameAfter none

end Word

end Shapes

/-! ## Code without the spaces at its end -/

/-- A text without the spaces at its end. -/
def Text.trimmed (text : Text) : Text :=
  trimEndWhile (· == ' ') text

/-- What does not change with a space at the end of a text does not change when all of
them are dropped. -/
theorem Text.eq_trimmed
    {view : Text → α}
    (tolerant : ∀ text, view (text ++ [(' ' : CodePoint)]) = view text)
    (text : Text) :
    view (trimmed text) = view text := by
  induction text using List.reverseRecOn with
  | nil =>
      rfl
  | append_singleton init last inductionHypothesis =>
      by_cases isSpace : last = ' '
      · have dropsSpace : trimmed (init ++ [last]) = trimmed init := by
          simp [trimmed, trimEndWhile, isSpace]
        rw [dropsSpace, inductionHypothesis, isSpace, tolerant]
      · rw [trimmed, trimEndWhile_concat (· == ' ') (beq_eq_false_iff_ne.mpr isSpace)]

/-- A space at the end is trimmed. -/
theorem Text.trimmed_concat_space
    (text : Text) :
    trimmed (text ++ [(' ' : CodePoint)]) = trimmed text := by
  simp [trimmed, trimEndWhile]

end MissionLint
