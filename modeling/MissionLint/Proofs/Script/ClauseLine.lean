import MissionLint.Proofs.Script.Shape

namespace MissionLint

/-!
# Lines of clauses

Clauses `when(…)` stand on a line with blanks between them, each with or without a target.
The condition of a clause ends at its parenthesis when a target follows.  Without one it
goes on to the last parenthesis there is, or to one that a target follows: the clause takes
in the clauses after it up to there.
-/

/-- The character after a name and an indent, neither of which it continues. -/
theorem Text.dropWhile_name_indent
    {name indent rest : Text}
    {c : CodePoint}
    (named : ∀ c ∈ name, Text.isNameChar c = true)
    (indented : ∀ c ∈ indent, Text.isIndent c = true)
    (noName : Text.isNameChar c = false)
    (noIndent : Text.isIndent c = false) :
    ((name ++ (indent ++ c :: rest)).dropWhile Text.isNameChar).dropWhile Text.isIndent =
      c :: rest := by
  have stays : (indent ++ c :: rest).dropWhile Text.isNameChar = indent ++ c :: rest := by
    cases indent with
    | nil =>
        simp [noName]
    | cons first others =>
        simp [Text.isNameChar_of_isIndent (indented first List.mem_cons_self)]
  rw [List.dropWhile_append_of_pos named, stays, List.dropWhile_append_of_pos indented]
  simp [noIndent]

namespace WhenClause

/-- A clause to be written: a condition on one line without a closing parenthesis, and the
event that it triggers, if any. -/
structure Written where
  condition : Text
  target? : Option Text
  unclosed : (')' : CodePoint) ∉ condition
  oneLine : ('\n' : CodePoint) ∉ condition
  named : ∀ target ∈ target?, Text.isName target = true

namespace Written

/-- The target in brackets. -/
def bracket (clause : Written) : Text :=
  match clause.target? with
  | none => []
  | some target => "[" ++ target ++ "]"

/-- The clause as it stands on a line. -/
def code (clause : Written) : Text :=
  "when(" ++ clause.condition ++ ")" ++ clause.bracket

end Written

/-- Clauses on one line, with a space between any two. -/
def lineOf (clauses : List Written) : Text :=
  Text.join " " (clauses.map Written.code)

/-- The conditions that are read of a line of clauses: a clause without a target takes in
the one that is read after it. -/
def readAs : List Written → List Text
  | [] => []
  | clause :: rest =>
      match clause.target?, readAs rest with
      | none, next :: others => (clause.condition ++ ") when(" ++ next) :: others
      | _, others => clause.condition :: others

/-! ## The condition of one clause -/

/-- A text in which a condition does not end, whatever follows. -/
def Passes (passed : Text) : Prop :=
  ∀ rest, Trigger.readCondition (passed ++ rest) =
    (passed ++ (Trigger.readCondition rest).1, (Trigger.readCondition rest).2)

/-- A condition does not end in two texts when it ends in neither. -/
theorem Passes.append
    {first second : Text}
    (passesFirst : Passes first)
    (passesSecond : Passes second) :
    Passes (first ++ second) := by
  intro rest
  rw [List.append_assoc, passesFirst, passesSecond]
  simp

/-- A clause does not end within its condition. -/
theorem Written.passes
    (clause : Written) :
    Passes clause.condition := by
  obtain ⟨condition, _, unclosed, oneLine, _⟩ := clause
  intro rest
  dsimp only
  induction condition with
  | nil =>
      rfl
  | cons c others inductionHypothesis =>
      simp only [List.mem_cons, not_or] at unclosed oneLine
      have goesOn : Trigger.endsCondition (c :: (others ++ rest)) = false := by
        unfold Trigger.endsCondition
        split
        case h_1 same =>
          exact absurd (List.cons.inj same).1.symm unclosed.1
        case h_2 =>
          rfl
      rw [List.cons_append, Trigger.readCondition, goesOn,
        inductionHypothesis unclosed.2 oneLine.2]
      simp [Ne.symm oneLine.1]

/-- A condition does not end between two clauses of which the first has no target. -/
theorem passes_between :
    Passes ") when(" :=
  fun _ => rfl

/-- The last mark is the same with more text before it. -/
theorem splitAtLast?_append
    {mark : CodePoint}
    {text before onward : Text}
    (splits : splitAtLast? mark text = some (before, onward))
    (passed : Text) :
    splitAtLast? mark (passed ++ text) = some (passed ++ before, onward) := by
  induction passed with
  | nil =>
      exact splits
  | cons c others inductionHypothesis =>
      rw [List.cons_append, splitAtLast?, inductionHypothesis]
      rfl

/-- What does not end a condition is taken into it. -/
theorem readBody?_append
    {passed rest body left : Text}
    (passes : Passes passed)
    (reads : readBody? rest = some (body, left)) :
    readBody? (passed ++ rest) = some (passed ++ body, left) := by
  unfold readBody? at reads ⊢
  simp only [passes rest] at reads ⊢
  split at reads
  case isTrue closes =>
    cases reads
    rw [if_pos closes]
  case isFalse noParenthesis =>
    obtain ⟨⟨before, onward⟩, splits, isRead⟩ := Option.map_eq_some_iff.mp reads
    cases isRead
    rw [if_neg noParenthesis, splitAtLast?_append splits]
    rfl

/-! ## The clauses of a line -/

/-- A clause is its word, an indent, and a condition in parentheses. -/
theorem read?_eq_some_iff
    {text body left : Text} :
    read? text = some (body, left) ↔
      ∃ indent onward,
        (∀ c ∈ indent, Text.isIndent c = true) ∧
          text = "when" ++ (indent ++ ("(" ++ onward)) ∧
          readBody? onward = some (body, ")" ++ left) := by
  constructor
  · intro reads
    simp only [read?, Option.bind_eq_bind, Option.bind_eq_some_iff, Prod.exists] at reads
    obtain ⟨afterWord, readsWord, onward, readsParenthesis, taken, afterBody, readsBody, _,
      readsEnd, isFound⟩ := reads
    cases isFound
    obtain ⟨indent, indented, isAfterWord⟩ := Reader.exists_of_literal?_skipIndent readsParenthesis
    refine ⟨indent, onward, indented, ?_, ?_⟩
    · rw [Reader.eq_append_of_literal? readsWord, isAfterWord]
    · rw [readsBody, Reader.eq_append_of_literal? readsEnd]
  · rintro ⟨indent, onward, indented, rfl, readsBody⟩
    have skips : Reader.skipIndent (indent ++ ("(" ++ onward)) = "(" ++ onward :=
      Reader.skipIndent_append indented (Text.ends_before_mark rfl rfl onward)
    simp only [read?, Reader.literal?_append, skips, readsBody, Option.bind_eq_bind,
      Option.bind_some]
    rfl

/-- A clause is read at the start of a text, and some conditions after it. -/
def ReadsAs (text body : Text) (others : List Text) : Prop :=
  ∃ left,
    text = "when(" ++ (body ++ (")" ++ left)) ∧
      readBody? (body ++ (")" ++ left)) = some (body, ")" ++ left) ∧
      ∀ before position,
        (Occurrence.searchFrom read? before position left).map Occurrence.value = others

/-- Nothing is read from a name before a closing bracket. -/
theorem read?_eq_none_of_bracket
    {name indent rest : Text}
    (named : ∀ c ∈ name, Text.isNameChar c = true)
    (indented : ∀ c ∈ indent, Text.isIndent c = true) :
    read? (name ++ (indent ++ ("]" ++ rest))) = none := by
  cases reads : read? (name ++ (indent ++ ("]" ++ rest))) with
  | none =>
      rfl
  | some found =>
      obtain ⟨body, left⟩ := found
      obtain ⟨gap, onward, isGap, isText, _⟩ := read?_eq_some_iff.mp reads
      have afterName :
          ((name ++ (indent ++ ("]" ++ rest))).dropWhile Text.isNameChar).dropWhile Text.isIndent =
            "]" ++ rest :=
        Text.dropWhile_name_indent named indented (by decide) (by decide)
      have afterWord :
          (("when" ++ (gap ++ ("(" ++ onward))).dropWhile Text.isNameChar).dropWhile Text.isIndent =
            "(" ++ onward :=
        Text.dropWhile_name_indent (by decide) isGap (by decide) (by decide)
      rw [isText, afterWord] at afterName
      cases afterName

/-- Nothing is read from a target in brackets. -/
theorem exists_searchFrom_target
    {target : Text}
    (named : ∀ c ∈ target, Text.isNameChar c = true)
    (more : Text)
    (before : Option CodePoint)
    (position : Nat) :
    ∃ after, Occurrence.searchFrom read? before position (target ++ ("]" ++ more)) =
      Occurrence.searchFrom read? (some ']') after more := by
  induction target generalizing before position with
  | nil =>
      exact ⟨_, Occurrence.searchFrom_of_unread rfl _ _⟩
  | cons c others inductionHypothesis =>
      have othersNamed : ∀ later ∈ others, Text.isNameChar later = true :=
        fun later member => named later (List.mem_cons_of_mem c member)
      have unread : read? (c :: (others ++ ("]" ++ more))) = none :=
        read?_eq_none_of_bracket named (List.forall_mem_nil _)
      rw [List.cons_append, Occurrence.searchFrom_of_unread unread]
      exact inductionHypothesis othersNamed _ _

namespace ReadsAs

variable {text body : Text}
  {others : List Text}

/-- A clause at a boundary is found with the conditions after it. -/
theorem values
    (reads : ReadsAs text body others)
    {before : Option CodePoint}
    (apart : before.any Text.isNameChar = false)
    (position : Nat) :
    (Occurrence.searchFrom read? before position text).map Occurrence.value = body :: others := by
  obtain ⟨left, rfl, readsBody, onward⟩ := reads
  have isRead : read? ("when(" ++ (body ++ (")" ++ left))) = some (body, left) :=
    read?_eq_some_iff.mpr ⟨[], _, List.forall_mem_nil _, rfl, readsBody⟩
  have isBoundary : Occurrence.isBoundary before 'w' = true := by
    rw [Occurrence.isBoundary, apart]
    rfl
  have isText :
      ("when(" : Text) ++ (body ++ (")" ++ left)) =
        ('w' : CodePoint) :: (("hen(" ++ body ++ ")") ++ left) := by
    rw [List.append_assoc, List.append_assoc]
    rfl
  rw [isText] at isRead ⊢
  rw [Occurrence.searchFrom_take isBoundary isRead, List.map_cons, onward]

/-- A clause with a target is read as it is written. -/
theorem targeted
    {clause : Written}
    (hasTarget : clause.target?.isSome = true)
    {more : Text}
    (onward : ∀ before position,
      (Occurrence.searchFrom read? before position more).map Occurrence.value = others) :
    ReadsAs (clause.code ++ more) clause.condition others := by
  obtain ⟨target, isTarget⟩ := Option.isSome_iff_exists.mp hasTarget
  refine ⟨"[" ++ (target ++ ("]" ++ more)), ?_, ?_, ?_⟩
  · simp [Written.code, Written.bracket, isTarget]
  · have ends (rest : Text) : readBody? (")" ++ ("[" ++ rest)) = some ([], ")" ++ ("[" ++ rest)) :=
      rfl
    have reads := readBody?_append clause.passes (ends (target ++ ("]" ++ more)))
    rwa [List.append_nil] at reads
  · intro before position
    have named := clause.named target isTarget
    obtain ⟨after, isSearch⟩ := exists_searchFrom_target
      (fun c member => Text.isNameChar_of_isName named member) more (some '[') (position + 1)
    have skips :
        Occurrence.searchFrom read? before position ("[" ++ (target ++ ("]" ++ more))) =
          Occurrence.searchFrom read? (some '[') (position + 1) (target ++ ("]" ++ more)) :=
      Occurrence.searchFrom_of_unread rfl before position
    rw [skips, isSearch, onward]

/-- A clause without a target at the end of a line is read as it is written. -/
theorem last
    {clause : Written}
    (noTarget : clause.target? = none) :
    ReadsAs clause.code clause.condition [] := by
  refine ⟨[], ?_, ?_, ?_⟩
  · simp [Written.code, Written.bracket, noTarget]
  · have ends : readBody? (")" : Text) = some ([], (")" : Text)) :=
      rfl
    have reads := readBody?_append clause.passes ends
    rwa [List.append_nil] at reads
  · intro before position
    rw [Occurrence.searchFrom]
    rfl

/-- A clause without a target takes in the clause after it. -/
theorem untargeted
    (reads : ReadsAs text body others)
    {clause : Written}
    (noTarget : clause.target? = none) :
    ReadsAs (clause.code ++ (" " ++ text)) (clause.condition ++ ") when(" ++ body) others := by
  obtain ⟨left, rfl, readsBody, onward⟩ := reads
  refine ⟨left, ?_, ?_, onward⟩
  · simp only [Written.code, Written.bracket, noTarget, List.append_nil, List.append_assoc]
    rfl
  · have takesIn := readBody?_append (clause.passes.append passes_between) readsBody
    rwa [← List.append_assoc] at takesIn

end ReadsAs

/-- A clause with a target is read as it is. -/
theorem readAs_cons_of_isSome
    {clause : Written}
    (hasTarget : clause.target?.isSome = true)
    (rest : List Written) :
    readAs (clause :: rest) = clause.condition :: readAs rest := by
  obtain ⟨target, isTarget⟩ := Option.isSome_iff_exists.mp hasTarget
  rw [readAs, isTarget]

/-- A clause without a target takes in the one that is read after it. -/
theorem readAs_cons_of_none
    {clause : Written}
    (noTarget : clause.target? = none)
    {rest : List Written}
    {next : Text}
    {others : List Text}
    (isNext : readAs rest = next :: others) :
    readAs (clause :: rest) = (clause.condition ++ ") when(" ++ next) :: others := by
  rw [readAs, noTarget, isNext]

/-- The last clause is read as it is. -/
theorem readAs_singleton
    (clause : Written) :
    readAs [clause] = [clause.condition] := by
  cases isTarget : clause.target? <;>
    simp [readAs, isTarget]

/-- Something is read wherever there is a clause. -/
theorem exists_readAs_cons
    (clause : Written)
    (rest : List Written) :
    ∃ body others, readAs (clause :: rest) = body :: others := by
  rw [readAs]
  split <;>
    exact ⟨_, _, rfl⟩

/-- A line of two clauses and more starts with the first, and a blank follows it. -/
theorem lineOf_cons_cons
    (clause next : Written)
    (rest : List Written) :
    lineOf (clause :: next :: rest) = clause.code ++ (" " ++ lineOf (next :: rest)) :=
  Text.join_cons_cons _ _ _ _

/-- The conditions of a line of clauses are read from its start. -/
theorem readsAs_lineOf
    (clauses : List Written)
    {body : Text}
    {others : List Text}
    (areRead : readAs clauses = body :: others) :
    ReadsAs (lineOf clauses) body others := by
  induction clauses generalizing body others with
  | nil =>
      cases areRead
  | cons clause rest inductionHypothesis =>
      cases rest with
      | nil =>
          have single : lineOf [clause] = clause.code := by
            rw [lineOf, Text.join, List.map_singleton, List.intercalate_singleton]
          rw [readAs_singleton] at areRead
          cases areRead
          rw [single]
          cases isTarget : clause.target? with
          | none =>
              exact .last isTarget
          | some target =>
              have reads : ReadsAs (clause.code ++ []) clause.condition [] :=
                .targeted (by simp [isTarget]) fun before position => by
                  rw [Occurrence.searchFrom]
                  rfl
              rwa [List.append_nil] at reads
      | cons next rest =>
          obtain ⟨nextBody, nextOthers, isNext⟩ := exists_readAs_cons next rest
          have readsNext := inductionHypothesis isNext
          rw [lineOf_cons_cons]
          cases isTarget : clause.target? with
          | none =>
              rw [readAs_cons_of_none isTarget isNext] at areRead
              cases areRead
              exact readsNext.untargeted isTarget
          | some target =>
              have hasTarget : clause.target?.isSome = true := by
                rw [isTarget]
                rfl
              rw [readAs_cons_of_isSome hasTarget, isNext] at areRead
              cases areRead
              refine .targeted hasTarget fun before position => ?_
              have skips :
                  Occurrence.searchFrom read? before position (" " ++ lineOf (next :: rest)) =
                    Occurrence.searchFrom read? (some ' ') (position + 1)
                      (lineOf (next :: rest)) :=
                Occurrence.searchFrom_of_unread rfl before position
              rw [skips, readsNext.values rfl]

/-- A line of clauses is read as given. -/
theorem inCode_lineOf
    (clauses : List Written) :
    inCode (lineOf clauses) = readAs clauses := by
  cases clauses with
  | nil =>
      cbv
  | cons clause rest =>
      obtain ⟨body, others, areRead⟩ := exists_readAs_cons clause rest
      rw [areRead]
      exact (readsAs_lineOf _ areRead).values rfl 0

end WhenClause

end MissionLint
