import MissionLint.Report.Suppression
import MissionLint.Proofs.Analysis.StateName

namespace MissionLint

/-!
# Suppression markers

A marker at the end of a line suppresses ids on that line and on the next one.  When the
line has no comment and no open quotation, the marker becomes its comment, and the ids
are read as they were written.  So what the marked script suppresses is what the script
suppresses and what the marker hides.
-/

namespace Text

/-! ## Words -/

/-- Blanks divide the words before them from those after them. -/
theorem words_append_blanks
    {blanks : Text}
    (nonempty : blanks ≠ [])
    (blank : ∀ c ∈ blanks, isBlank c = true)
    (before after : Text) :
    words (before ++ blanks ++ after) = words before ++ words after := by
  induction blanks generalizing before with
  | nil =>
      exact absurd rfl nonempty
  | cons c rest inductionHypothesis =>
      have divided :
          words (before ++ c :: (rest ++ after)) = words before ++ words (rest ++ after) := by
        rw [words, List.splitOnP_append_cons before _ (blank c List.mem_cons_self),
          List.filter_append]
        rfl
      rw [List.append_assoc, List.cons_append, divided]
      cases rest with
      | nil =>
          rfl
      | cons next others =>
          have goesOn :=
            inductionHypothesis (List.cons_ne_nil next others)
              (fun other member => blank other (List.mem_cons_of_mem c member)) []
          rw [List.nil_append] at goesOn
          rw [goesOn]
          rfl

/-- A text that is written as one word between commas and blanks. -/
structure IsWord (word : Text) : Prop where
  nonempty : word ≠ []
  visible : ∀ c ∈ word, isBlank c = false
  noComma : (',' : CodePoint) ∉ word

/-- A word is split into itself. -/
theorem IsWord.words_eq
    {word : Text}
    (isWord : IsWord word) :
    words word = [word] := by
  rw [words, List.splitOnP_eq_singleton isWord.visible]
  simp [isWord.nonempty]

/-- A word has no comma to replace. -/
theorem IsWord.replaced_eq
    {word : Text}
    (isWord : IsWord word) :
    replaced ',' ' ' word = word := by
  refine (List.map_congr_left fun c member => ?_).trans (List.map_id word)
  have notComma : (c == ',') = false :=
    beq_eq_false_iff_ne.mpr (ne_of_mem_of_not_mem member isWord.noComma)
  simp [notComma]

/-- Spaces and commas, as they stand between ids. -/
structure IsSeparator (separator : Text) : Prop where
  nonempty : separator ≠ []
  separates : ∀ c ∈ separator, c = ' ' ∨ c = ','

/-- Without its commas a separator is blank. -/
theorem IsSeparator.isBlank_of_mem_replaced
    {separator : Text}
    (isSeparator : IsSeparator separator) :
    ∀ c ∈ replaced ',' ' ' separator, isBlank c = true := by
  intro c member
  obtain ⟨original, isOriginal, rfl⟩ := List.mem_map.mp member
  rcases isSeparator.separates original isOriginal with rfl | rfl <;>
    decide

/-- Words with separators between them are read as they are written. -/
theorem words_join
    {separator : Text}
    (isSeparator : IsSeparator separator)
    {texts : List Text}
    (areWords : ∀ text ∈ texts, IsWord text) :
    words (replaced ',' ' ' (join separator texts)) = texts := by
  induction texts with
  | nil =>
      rfl
  | cons first rest inductionHypothesis =>
      have isWord := areWords first List.mem_cons_self
      have goesOn := inductionHypothesis fun text member =>
        areWords text (List.mem_cons_of_mem first member)
      cases rest with
      | nil =>
          rw [join, List.intercalate_singleton, isWord.replaced_eq, isWord.words_eq]
      | cons second others =>
          have nonempty : replaced ',' ' ' separator ≠ [] := by
            simpa [replaced] using isSeparator.nonempty
          have joined :
              replaced ',' ' ' (join separator (first :: second :: others)) =
                first ++ replaced ',' ' ' separator ++
                  replaced ',' ' ' (join separator (second :: others)) := by
            rw [join_cons_cons, ← List.append_assoc, replaced, List.map_append, List.map_append]
            exact congrArg (· ++ _ ++ _) isWord.replaced_eq
          rw [joined, words_append_blanks nonempty isSeparator.isBlank_of_mem_replaced,
            isWord.words_eq, goesOn]
          rfl

/-- Joined texts end in one of them. -/
theorem exists_join_eq_append
    (separator : Text)
    {texts : List Text}
    (nonempty : texts ≠ []) :
    ∃ lead, ∃ last ∈ texts, join separator texts = lead ++ last := by
  induction texts with
  | nil =>
      exact absurd rfl nonempty
  | cons first rest inductionHypothesis =>
      cases rest with
      | nil =>
          exact ⟨[], first, List.mem_cons_self, List.intercalate_singleton⟩
      | cons second others =>
          obtain ⟨lead, last, member, isJoin⟩ :=
            inductionHypothesis (List.cons_ne_nil second others)
          refine ⟨first ++ (separator ++ lead), last, List.mem_cons_of_mem first member, ?_⟩
          rw [join_cons_cons, isJoin, List.append_assoc, List.append_assoc]

/-- A part of a text between line breaks has none. -/
theorem not_mem_of_mem_splitOn
    {separator : CodePoint}
    {text part : Text}
    (member : part ∈ text.splitOn separator) :
    separator ∉ part := by
  induction text generalizing part with
  | nil =>
      rw [List.splitOn_nil, List.mem_singleton] at member
      rw [member]
      exact List.not_mem_nil
  | cons c rest inductionHypothesis =>
      obtain ⟨first, others, isSplit⟩ :=
        List.exists_cons_of_ne_nil (List.splitOn_ne_nil separator rest)
      rw [List.splitOn_cons_eq_if_modifyHead] at member
      by_cases isSeparator : c == separator
      · rw [if_pos isSeparator] at member
        rcases List.mem_cons.mp member with rfl | later
        · exact List.not_mem_nil
        · exact inductionHypothesis later
      · rw [if_neg isSeparator, isSplit, List.modifyHead_cons] at member
        rcases List.mem_cons.mp member with rfl | later
        · have inFirst := inductionHypothesis (isSplit ▸ List.mem_cons_self)
          rw [List.mem_cons, not_or]
          exact ⟨fun same => isSeparator (beq_iff_eq.mpr same.symm), inFirst⟩
        · exact inductionHypothesis (isSplit ▸ List.mem_cons_of_mem first later)

end Text

/-! ## The marked line -/

namespace Line

/-- A line as it is written, with a comment after a space. -/
def annotated (comment raw : Text) : Text :=
  raw ++ " # " ++ comment

/-- A line without a comment is all code. -/
theorem splitCommentFrom_of_none
    {quoted : Bool}
    {raw : Text}
    (uncommented : (splitCommentFrom quoted raw).2 = none) :
    splitCommentFrom quoted raw = (raw, none) := by
  induction raw generalizing quoted with
  | nil =>
      rfl
  | cons c rest inductionHypothesis =>
      rw [splitCommentFrom] at uncommented ⊢
      by_cases starts : c == '#' && !quoted
      · rw [if_pos starts] at uncommented
        cases uncommented
      · rw [if_neg starts] at uncommented ⊢
        simp only [inductionHypothesis uncommented]

/-- A hash starts a comment when no comment and no quotation is open before it. -/
theorem splitCommentFrom_append_hash
    {quoted : Bool}
    {raw : Text}
    (uncommented : (splitCommentFrom quoted raw).2 = none)
    (closes : quoted = decide (raw.count ('"' : CodePoint) % 2 = 1))
    (tail : Text) :
    splitCommentFrom quoted (raw ++ (' ' : CodePoint) :: ('#' : CodePoint) :: tail) =
      (raw ++ [(' ' : CodePoint)], some (Text.strip tail)) := by
  induction raw generalizing quoted with
  | nil =>
      rw [closes]
      rfl
  | cons c rest inductionHypothesis =>
      rw [splitCommentFrom] at uncommented
      rw [List.cons_append, splitCommentFrom]
      by_cases starts : c == '#' && !quoted
      · rw [if_pos starts] at uncommented
        cases uncommented
      · rw [if_neg starts] at uncommented ⊢
        have closesRest :
            (if c == '"' then !quoted else quoted) =
              decide (rest.count ('"' : CodePoint) % 2 = 1) := by
          rw [List.count_cons] at closes
          by_cases quotes : c == '"'
          · rw [if_pos quotes] at closes ⊢
            rw [closes, ← decide_not, decide_eq_decide]
            omega
          · rw [if_neg quotes] at closes ⊢
            exact closes
        simp only [inductionHypothesis uncommented closesRest, List.cons_append]

/-- A text that is the comment of the line at whose end it is written. -/
structure IsComment (comment : Text) : Prop where
  nonempty : comment ≠ []
  starts : ∀ c, comment.head? = some c → Text.isBlank c = false
  ends : ∀ c, comment.getLast? = some c → Text.isBlank c = false
  oneLine : ('\n' : CodePoint) ∉ comment

/-- A comment is stripped. -/
theorem IsComment.stripped
    {comment : Text}
    (isComment : IsComment comment) :
    Text.strip comment = comment :=
  Text.trimWhile_eq_self isComment.starts isComment.ends

/-- A line that takes a comment as it stands: it has none, no quotation is open at its
end, and no carriage return is there. -/
structure Open (raw : Text) : Prop where
  uncommented : (splitComment raw).2 = none
  closed : raw.count ('"' : CodePoint) % 2 = 0
  noReturn : raw.getLast? ≠ some ('\r' : CodePoint)

namespace Open

variable {raw : Text}

/-- A line that takes a comment as it stands is all code. -/
theorem ofRaw_eq
    (isOpen : Open raw)
    (number : Nat) :
    ofRaw number raw = ⟨number, raw, raw, none⟩ := by
  have untrimmed : Text.trimEndWhile (· == '\r') raw = raw := by
    apply Text.trimEndWhile_eq_self
    intro c isLast
    exact beq_eq_false_iff_ne.mpr fun same => isOpen.noReturn (same ▸ isLast)
  have split := splitCommentFrom_of_none isOpen.uncommented
  simp only [ofRaw, untrimmed, splitComment, split]

/-- With a comment at its end the line keeps its code, but for a space. -/
theorem ofRaw_annotated
    (isOpen : Open raw)
    {comment : Text}
    (isComment : IsComment comment)
    (number : Nat) :
    ofRaw number (annotated comment raw) =
      ⟨number, annotated comment raw, raw ++ [(' ' : CodePoint)], some comment⟩ := by
  have untrimmed :
      Text.trimEndWhile (· == '\r') (annotated comment raw) = annotated comment raw := by
    apply Text.trimEndWhile_eq_self
    intro c isLast
    rw [annotated, List.getLast?_append, List.getLast?_eq_some_getLast isComment.nonempty,
      Option.some_or] at isLast
    have visible :=
      isComment.ends c ((List.getLast?_eq_some_getLast isComment.nonempty).trans isLast)
    refine beq_eq_false_iff_ne.mpr fun isReturn => ?_
    rw [isReturn] at visible
    exact absurd visible (by decide)
  have closes : false = decide (raw.count ('"' : CodePoint) % 2 = 1) := by
    simp [isOpen.closed]
  have written :
      annotated comment raw =
        raw ++ (' ' : CodePoint) :: ('#' : CodePoint) :: (' ' : CodePoint) :: comment := by
    rw [annotated, List.append_assoc]
    rfl
  have split := splitCommentFrom_append_hash isOpen.uncommented closes (' ' :: comment)
  have stripped : Text.strip ((' ' : CodePoint) :: comment) = comment := isComment.stripped
  rw [← written, stripped] at split
  simp only [ofRaw, untrimmed, splitComment, split]

end Open

/-- Lines are numbered from the first number on. -/
theorem le_number_of_mem_numberFrom
    {first : Nat}
    {raws : List Text}
    {line : Line}
    (member : line ∈ numberFrom first raws) :
    first ≤ line.number := by
  induction raws generalizing first with
  | nil =>
      cases member
  | cons raw rest inductionHypothesis =>
      rcases List.mem_cons.mp member with rfl | later
      · exact Nat.le_refl first
      · exact Nat.le_of_succ_le (inductionHypothesis later)

/-- When an open line gets a comment, it is the only line that changes. -/
theorem commented_numberFrom
    {comment : Text}
    (isComment : IsComment comment)
    {raws : List Text}
    {index : Nat}
    {raw : Text}
    (isLine : raws[index]? = some raw)
    (isOpen : Open raw)
    (first : Nat) :
    Commented (first + index) comment (numberFrom first raws)
      (numberFrom first (raws.modify index (annotated comment))) := by
  induction raws generalizing index first with
  | nil =>
      cases isLine
  | cons head rest inductionHypothesis =>
      cases index with
      | zero =>
          cases isLine
          have written := isOpen.ofRaw_annotated isComment first
          have plain := isOpen.ofRaw_eq first
          refine .here ?_ ?_ ?_ ?_ ?_ ?_
          · rfl
          · rw [plain]
          · rw [written]
          · rw [plain, written]
            simp only [bare, Text.trimmed_concat_space]
          · intro line isNext
            cases rest with
            | nil =>
                cases isNext
            | cons next others =>
                cases isNext
                rfl
          · intro line later
            cases rest with
            | nil =>
                cases later
            | cons next others =>
                exact le_number_of_mem_numberFrom later
      | succ index =>
          have goesOn := inductionHypothesis isLine (first + 1)
          rw [Nat.add_right_comm] at goesOn
          rw [List.modify_succ_cons]
          refine .later ?_ goesOn
          exact Nat.lt_add_of_pos_right (Nat.succ_pos index)

/-- A script in which the line at an index gets a comment. -/
def annotate (script : Text) (index : Nat) (comment : Text) : Text :=
  Text.join "\n" ((script.splitOn ('\n' : CodePoint)).modify index (annotated comment))

/-- The lines of an annotated script are those of the script, of which one gets the
comment. -/
theorem commented_annotate
    {comment : Text}
    (isComment : IsComment comment)
    {script : Text}
    {index : Nat}
    {raw : Text}
    (isLine : (script.splitOn ('\n' : CodePoint))[index]? = some raw)
    (isOpen : Open raw) :
    Commented (index + 1) comment (ofScript script)
      (ofScript (annotate script index comment)) := by
  have oneLine :
      ∀ part ∈ (script.splitOn ('\n' : CodePoint)).modify index (annotated comment),
        ('\n' : CodePoint) ∉ part := by
    intro part member inPart
    obtain ⟨position, isPart⟩ := List.mem_iff_getElem?.mp member
    rw [List.getElem?_modify] at isPart
    obtain ⟨original, isOriginal, rfl⟩ := Option.map_eq_some_iff.mp isPart
    have notIn := Text.not_mem_of_mem_splitOn (List.mem_of_getElem? isOriginal)
    split at inPart
    · rcases List.mem_append.mp inPart with inFront | inComment
      · rcases List.mem_append.mp inFront with inOriginal | inHash
        · exact notIn inOriginal
        · revert inHash
          decide
      · exact isComment.oneLine inComment
    · exact notIn inPart
  have nonempty :
      (script.splitOn ('\n' : CodePoint)).modify index (annotated comment) ≠ [] := by
    rw [Ne, List.modify_eq_nil_iff]
    exact List.splitOn_ne_nil _ _
  have parts :
      (annotate script index comment).splitOn ('\n' : CodePoint) =
        (script.splitOn ('\n' : CodePoint)).modify index (annotated comment) :=
    List.splitOn_intercalate _ oneLine nonempty
  rw [ofScript, ofScript, parts, Nat.add_comm]
  exact commented_numberFrom isComment isLine isOpen 1

end Line

namespace Suppressions

/-- The comment that suppresses ids, with a separator between neighbours. -/
def commentFor (separator : Text) (ids : List Text) : Text :=
  marker ++ (' ' : CodePoint) :: Text.join separator ids

/-- Whether a marker for ids on a line hides a diagnostic. -/
def hides (ids : List Text) (number : Nat) (diagnostic : Diagnostic) : Bool :=
  (diagnostic.location.line == number || diagnostic.location.line == number + 1) &&
    covers ids diagnostic.id

/-- No marker hides a diagnostic about the whole script. -/
theorem hides_eq_false
    (ids : List Text)
    {number : Nat}
    (positive : 0 < number)
    {diagnostic : Diagnostic}
    (isOutside : ¬0 < diagnostic.location.line) :
    hides ids number diagnostic = false := by
  have notHere : (diagnostic.location.line == number) = false := by
    rw [beq_eq_false_iff_ne]
    omega
  have notNext : (diagnostic.location.line == number + 1) = false := by
    rw [beq_eq_false_iff_ne]
    omega
  rw [hides, notHere, notNext]
  rfl

/-- Ids, and what is written between them, that a comment can name. -/
structure Writable (separator : Text) (ids : List Text) : Prop where
  nonempty : ids ≠ []
  areWords : ∀ id ∈ ids, Text.IsWord id
  isSeparator : Text.IsSeparator separator

namespace Writable

variable {separator : Text} {ids : List Text}

/-- The ids of a comment are read as they are written. -/
theorem idsOf?_commentFor
    (writable : Writable separator ids) :
    idsOf? (commentFor separator ids) = some ids := by
  have isMarked : marker.isPrefixOf (commentFor separator ids) := by
    rw [List.isPrefixOf_iff_prefix]
    exact List.prefix_append marker _
  have read :
      Text.words (Text.replaced ',' ' ' ((commentFor separator ids).drop marker.length)) =
        ids := by
    rw [commentFor, List.drop_left]
    have divided :=
      Text.words_append_blanks (List.cons_ne_nil (' ' : CodePoint) []) (by decide) []
        (Text.replaced ',' ' ' (Text.join separator ids))
    exact divided.trans (Text.words_join writable.isSeparator writable.areWords)
  rw [idsOf?, if_pos isMarked]
  simp only [read]
  split
  · exact absurd rfl writable.nonempty
  · rfl

/-- A comment for ids ends in the last character of the last id. -/
theorem isBlank_of_getLast?
    (writable : Writable separator ids)
    {c : CodePoint}
    (isLast : (commentFor separator ids).getLast? = some c) :
    Text.isBlank c = false := by
  obtain ⟨lead, last, member, isJoin⟩ :=
    Text.exists_join_eq_append separator writable.nonempty
  have isWord := writable.areWords last member
  have ends : commentFor separator ids = (marker ++ (' ' : CodePoint) :: lead) ++ last := by
    rw [commentFor, isJoin, List.append_assoc, List.cons_append]
  rw [ends, List.getLast?_append, List.getLast?_eq_some_getLast isWord.nonempty,
    Option.some_or] at isLast
  cases isLast
  exact isWord.visible _ (List.getLast_mem isWord.nonempty)

/-- A marker is one line. -/
theorem oneLine_commentFor
    (writable : Writable separator ids) :
    ('\n' : CodePoint) ∉ commentFor separator ids := by
  intro member
  rcases List.mem_append.mp member with inMarker | inRest
  · revert inMarker
    decide
  · rcases List.mem_cons.mp inRest with isSpace | inIds
    · cases isSpace
    · rcases Text.mem_join inIds with inSeparator | ⟨id, isId, inId⟩
      · rcases writable.isSeparator.separates _ inSeparator with isSpace | isComma
        · cases isSpace
        · cases isComma
      · exact absurd ((writable.areWords id isId).visible _ inId) (by decide)

/-- A marker is a comment. -/
theorem isComment_commentFor
    (writable : Writable separator ids) :
    Line.IsComment (commentFor separator ids) where
  nonempty := List.cons_ne_nil _ _
  starts := by
    intro c isFirst
    cases isFirst
    decide
  ends _ := writable.isBlank_of_getLast?
  oneLine := writable.oneLine_commentFor

end Writable

/-! ## What the marked script suppresses -/

/-- What the comment of a line suppresses. -/
def entryOf? (line : Line) : Option (Nat × List Text) :=
  (idsOf? (line.comment.getD [])).map fun ids => (line.number, ids)

section Marked

variable {number : Nat} {comment : Text} {ids : List Text} {lines marked : List Line}

/-- A marker adds its entry to those of the lines. -/
theorem any_entries_of_commented
    (commented : Line.Commented number comment lines marked)
    (named : idsOf? comment = some ids)
    (holds : Nat × List Text → Bool) :
    (marked.filterMap entryOf?).any holds =
      ((lines.filterMap entryOf?).any holds || holds (number, ids)) := by
  induction commented with
  | @here plain marked rest isNumber uncommented isComment sameBare _ _ =>
      have sameNumber := congrArg Line.number sameBare
      rw [Line.number_bare, Line.number_bare] at sameNumber
      have unmarked : entryOf? plain = none := by
        rw [entryOf?, uncommented]
        rfl
      have isEntry : entryOf? marked = some (number, ids) := by
        rw [entryOf?, isComment, Option.getD_some, named, sameNumber, isNumber]
        rfl
      rw [List.filterMap_cons_none unmarked, List.filterMap_cons_some isEntry, List.any_cons,
        Bool.or_comm]
  | @later lines marked line _ _ inductionHypothesis =>
      cases isEntry : entryOf? line with
      | none =>
          rw [List.filterMap_cons_none isEntry, List.filterMap_cons_none isEntry,
            inductionHypothesis]
      | some entry =>
          rw [List.filterMap_cons_some isEntry, List.filterMap_cons_some isEntry,
            List.any_cons, List.any_cons, inductionHypothesis, Bool.or_assoc]

/-- A marker covers its ids on its line, and nothing else more. -/
theorem coversOn_of_commented
    (commented : Line.Commented number comment lines marked)
    (named : idsOf? comment = some ids)
    (line : Int)
    (id : Text) :
    (({} : Suppressions).loadInline marked).coversOn line id =
      ((({} : Suppressions).loadInline lines).coversOn line id ||
        ((number : Int) == line && covers ids id)) :=
  any_entries_of_commented commented named _

/-- The marked lines suppress what the lines suppress and what the marker hides. -/
theorem suppresses_of_commented
    (commented : Line.Commented number comment lines marked)
    (named : idsOf? comment = some ids)
    (positive : 0 < number)
    (diagnostic : Diagnostic) :
    (({} : Suppressions).loadInline marked).suppresses diagnostic.id diagnostic.location.line =
      ((({} : Suppressions).loadInline lines).suppresses diagnostic.id diagnostic.location.line ||
        hides ids number diagnostic) := by
  have here :
      ((number : Int) == diagnostic.location.line) = (diagnostic.location.line == number) :=
    Bool.beq_comm
  have above :
      ((number : Int) == diagnostic.location.line - 1) =
        (diagnostic.location.line == number + 1) := by
    rw [Bool.eq_iff_iff, beq_iff_eq, beq_iff_eq]
    omega
  unfold suppresses
  rw [coversOn_of_commented commented named, coversOn_of_commented commented named, here, above]
  by_cases isInside : 0 < diagnostic.location.line
  · simp only [isInside, decide_true, Bool.true_and, hides]
    rw [Bool.and_or_distrib_right]
    ac_rfl
  · rw [hides_eq_false ids positive isInside, decide_eq_false isInside, Bool.false_and,
      Bool.false_and, Bool.or_false]
    rfl

/-- A marker hides what it names, and nothing else more. -/
theorem filter_of_commented
    (commented : Line.Commented number comment lines marked)
    (named : idsOf? comment = some ids)
    (positive : 0 < number)
    (diagnostics : List Diagnostic) :
    (({} : Suppressions).loadInline marked).filter diagnostics =
      ((({} : Suppressions).loadInline lines).filter diagnostics).filter fun diagnostic =>
        !hides ids number diagnostic := by
  rw [filter, filter, List.filter_filter]
  congr 1
  funext diagnostic
  rw [suppresses_of_commented commented named positive, Bool.not_or, Bool.and_comm]

end Marked

/-- A script, and the script with a comment for ids on one of its lines. -/
structure Marks
    (script marked : Text)
    (number : Nat)
    (comment : Text)
    (ids : List Text) :
    Prop where
  commented : Line.Commented number comment (Line.ofScript script) (Line.ofScript marked)
  nonempty : comment ≠ []
  named : idsOf? comment = some ids
  positive : 0 < number

/-- A comment for ids that an open line gets marks the script. -/
theorem marks_annotate
    {script raw : Text}
    {index : Nat}
    (isLine : (script.splitOn ('\n' : CodePoint))[index]? = some raw)
    (isOpen : Line.Open raw)
    {separator : Text}
    {ids : List Text}
    (writable : Writable separator ids) :
    Marks script (Line.annotate script index (commentFor separator ids)) (index + 1)
      (commentFor separator ids) ids where
  commented := Line.commented_annotate writable.isComment_commentFor isLine isOpen
  nonempty := writable.isComment_commentFor.nonempty
  named := writable.idsOf?_commentFor
  positive := Nat.succ_pos index

end Suppressions

end MissionLint
