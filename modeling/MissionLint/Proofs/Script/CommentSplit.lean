import Mathlib.Algebra.Ring.Parity
import MissionLint.Script.Line

namespace MissionLint

/-!
# Comments and quoted hashes

A hash starts a comment when it follows an even number of quotation marks.  So the code of a
line is everything up to the first such hash, and whatever is written after that hash in its
place, the code stays the same.
-/

namespace Line

/-! ## Quoted hashes -/

/-- The number of quotation marks in a text. -/
def quotes (text : Text) : Nat :=
  text.count ('"' : CodePoint)

/-- Whether a quoted text is open after a text, which begins inside a quoted text or not. -/
def opensQuote (quoted : Bool) (text : Text) : Bool :=
  quoted ^^ decide (Odd (quotes text))

/-- Every hash in a text follows an odd number of quotation marks. -/
def HashesQuoted (text : Text) : Prop :=
  ∀ before after : Text, text = before ++ ('#' : CodePoint) :: after → Odd (quotes before)

/-- Every hash stands in a quoted text, when the whole begins inside one or not. -/
def HashesQuotedFrom (quoted : Bool) (text : Text) : Prop :=
  ∀ before after : Text,
    text = before ++ ('#' : CodePoint) :: after → opensQuote quoted before = true

/-- Outside a quoted text the two notions are the same. -/
theorem hashesQuotedFrom_false_iff
    {text : Text} :
    HashesQuotedFrom false text ↔ HashesQuoted text := by
  simp [HashesQuotedFrom, HashesQuoted, opensQuote]

/-- A quotation mark in front adds one to the count. -/
theorem quotes_cons
    (c : CodePoint)
    (rest : Text) :
    quotes (c :: rest) = quotes rest + if c == '"' then 1 else 0 :=
  List.count_cons

/-- A quotation mark opens a quoted text or closes it. -/
theorem opensQuote_cons
    (quoted : Bool)
    (c : CodePoint)
    (rest : Text) :
    opensQuote quoted (c :: rest) =
      opensQuote (if c == '"' then !quoted else quoted) rest := by
  rw [opensQuote, opensQuote, quotes_cons]
  cases c == '"' with
  | true =>
      simp only [if_true, Nat.odd_add_one, decide_not, Bool.xor_not, Bool.not_xor]
  | false =>
      simp only [Bool.false_eq_true, if_false, Nat.add_zero]

/-- The empty text has no hash. -/
theorem hashesQuotedFrom_nil
    (quoted : Bool) :
    HashesQuotedFrom quoted [] := by
  intro before after isNil
  simp at isNil

/-- A hash in front is quoted when a quoted text is open, and a quotation mark in front opens or
closes one. -/
theorem hashesQuotedFrom_cons_iff
    {quoted : Bool}
    {c : CodePoint}
    {rest : Text} :
    HashesQuotedFrom quoted (c :: rest) ↔
      (c = '#' → quoted = true) ∧
        HashesQuotedFrom (if c == '"' then !quoted else quoted) rest := by
  constructor
  · intro hashesQuoted
    constructor
    · rintro rfl
      simpa [opensQuote, quotes] using hashesQuoted [] rest rfl
    · rintro before after rfl
      rw [← opensQuote_cons]
      exact hashesQuoted (c :: before) after rfl
  · rintro ⟨first, others⟩ before after isText
    cases before with
    | nil =>
        obtain ⟨isHash, rfl⟩ := List.cons.inj isText
        simpa [opensQuote, quotes] using first isHash
    | cons other before =>
        obtain ⟨rfl, rfl⟩ := List.cons.inj isText
        rw [opensQuote_cons]
        exact others before after rfl

/-! ## Where the code ends -/

/-- A hash outside a quoted text starts the comment. -/
theorem splitCommentFrom_hash
    (rest : Text) :
    splitCommentFrom false ('#' :: rest) = ([], some (Text.strip rest)) :=
  rfl

/-- Any other character is code, and a quotation mark opens or closes a quoted text. -/
theorem splitCommentFrom_cons
    {quoted : Bool}
    {c : CodePoint}
    (continues : c = '#' → quoted = true)
    (rest : Text) :
    splitCommentFrom quoted (c :: rest) =
      let (code, comment) := splitCommentFrom (if c == '"' then !quoted else quoted) rest
      (c :: code, comment) := by
  have goesOn : (c == '#' && !quoted) = false := by
    by_cases isHash : c = '#'
    · simp [continues isHash]
    · simp [isHash]
  rw [splitCommentFrom, goesOn]
  rfl

/-- A text without an unquoted hash is code, and so is the part before the first one. -/
theorem splitCommentFrom_of_hashesQuoted
    {quoted : Bool}
    {code : Text}
    (hashesQuoted : HashesQuotedFrom quoted code) :
    splitCommentFrom quoted code = (code, none) ∧
      ∀ rest, opensQuote quoted code = false →
        splitCommentFrom quoted (code ++ ('#' : CodePoint) :: rest) =
          (code, some (Text.strip rest)) := by
  induction code generalizing quoted with
  | nil =>
      refine ⟨rfl, fun rest closed => ?_⟩
      have unquoted : quoted = false := by
        simpa [opensQuote, quotes] using closed
      rw [unquoted]
      exact splitCommentFrom_hash rest
  | cons c code inductionHypothesis =>
      obtain ⟨continues, others⟩ := hashesQuotedFrom_cons_iff.mp hashesQuoted
      obtain ⟨alone, followed⟩ := inductionHypothesis others
      constructor
      · rw [splitCommentFrom_cons continues, alone]
      · intro rest closed
        rw [opensQuote_cons] at closed
        rw [List.cons_append, splitCommentFrom_cons continues, followed rest closed]

/-- Either no hash starts a comment, or the first one that does divides the text. -/
theorem hashesQuotedFrom_or_exists
    (quoted : Bool)
    (text : Text) :
    HashesQuotedFrom quoted text ∨
      ∃ code rest, text = code ++ ('#' : CodePoint) :: rest ∧ HashesQuotedFrom quoted code ∧
        opensQuote quoted code = false := by
  induction text generalizing quoted with
  | nil =>
      exact .inl (hashesQuotedFrom_nil quoted)
  | cons c rest inductionHypothesis =>
      by_cases continues : c = '#' → quoted = true
      · rcases inductionHypothesis (if c == '"' then !quoted else quoted) with
          hashesQuoted | ⟨code, comment, rfl, hashesQuoted, closed⟩
        · exact .inl (hashesQuotedFrom_cons_iff.mpr ⟨continues, hashesQuoted⟩)
        · refine .inr ⟨c :: code, comment, rfl, ?_, ?_⟩
          · exact hashesQuotedFrom_cons_iff.mpr ⟨continues, hashesQuoted⟩
          · rw [opensQuote_cons]
            exact closed
      · obtain ⟨rfl, unquoted⟩ := Classical.not_imp.mp continues
        refine .inr ⟨[], rest, rfl, hashesQuotedFrom_nil quoted, ?_⟩
        simpa [opensQuote, quotes] using unquoted

/-- The comment of a line starts at the first hash that follows an even number of quotation
marks.  What stands before it is code, also alone or before any other comment. -/
theorem splitComment_is_exact
    (line : Text) :
    let code := (splitComment line).1
    let comment? := (splitComment line).2
    (comment? = none ↔ HashesQuoted line) ∧
    (comment? = none → code = line) ∧
    (∀ comment, comment? = some comment →
      (∃ rest, line = code ++ ('#' : CodePoint) :: rest ∧ comment = Text.strip rest) ∧
      Even (quotes code) ∧
      HashesQuoted code ∧
      ∀ other, splitComment (code ++ ('#' : CodePoint) :: other) =
        (code, some (Text.strip other))) ∧
    splitComment code = (code, none) := by
  simp only [← hashesQuotedFrom_false_iff, splitComment]
  rcases hashesQuotedFrom_or_exists false line with
    hashesQuoted | ⟨code, rest, rfl, hashesQuoted, closed⟩
  · have isCode := (splitCommentFrom_of_hashesQuoted hashesQuoted).1
    simp [isCode, hashesQuoted]
  · obtain ⟨alone, followed⟩ := splitCommentFrom_of_hashesQuoted hashesQuoted
    have commented : ¬HashesQuotedFrom false (code ++ ('#' : CodePoint) :: rest) := by
      intro allQuoted
      have opened := allQuoted code rest rfl
      rw [closed] at opened
      cases opened
    have isEven : Even (quotes code) := by
      simpa [opensQuote] using closed
    rw [followed rest closed]
    refine ⟨by simpa using commented, by simp, ?_, alone⟩
    rintro _ ⟨⟩
    exact ⟨⟨rest, rfl, rfl⟩, isEven, hashesQuoted, fun other => followed other closed⟩

end Line

end MissionLint
