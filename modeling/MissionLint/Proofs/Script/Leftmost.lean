import MissionLint.Proofs.Script.Remainder

namespace MissionLint

/-!
# Leftmost occurrences

The search for a shape goes from left to right.  What it finds is determined by the
text alone: occurrences start on boundaries, they do not overlap, and no boundary on
which the shape can be read is passed over, unless it lies inside an occurrence.
-/

namespace Occurrence

/-- A position on which an occurrence may start: a character that can start a name and
does not continue one. -/
structure IsBoundaryAt (text : Text) (position : Nat) : Prop where
  starts : ∃ c, text[position]? = some c ∧ Text.isNameStart c = true
  fresh : position = 0 ∨ ∃ c, text[position - 1]? = some c ∧ Text.isNameChar c = false

/-- The leftmost occurrences in a text from a position on. -/
structure LeftmostFrom
    (read? : Reader Value)
    (text : Text)
    (position : Nat)
    (found : List (Occurrence Value)) :
    Prop where
  onward : ∀ occurrence ∈ found, position ≤ occurrence.start
  increasing : found.Pairwise fun earlier later => earlier.start < later.start
  apart : found.Pairwise fun earlier later => earlier.stop ≤ later.start
  onBoundaries : ∀ occurrence ∈ found, IsBoundaryAt text occurrence.start
  inText : ∀ occurrence ∈ found, occurrence.stop ≤ text.length
  reads : ∀ occurrence ∈ found,
    read? (text.drop occurrence.start) = some (occurrence.value, text.drop occurrence.stop)
  complete : ∀ sought, position ≤ sought → IsBoundaryAt text sought →
    (read? (text.drop sought)).isSome = true →
      ∃ occurrence ∈ found,
        occurrence.start = sought ∨ occurrence.start < sought ∧ sought < occurrence.stop

variable {read? : Reader Value}
  {text : Text}
  {position : Nat}
  {found : List (Occurrence Value)}

/-- At the end of a text nothing is found. -/
theorem leftmostFrom_end
    (ended : text.drop position = []) :
    LeftmostFrom read? text position found ↔ found = [] := by
  have noBoundary {sought : Nat} (isLater : position ≤ sought) : ¬IsBoundaryAt text sought := by
    rintro ⟨⟨c, isHere, _⟩, _⟩
    have inText := (List.getElem?_eq_some_iff.mp isHere).1
    have atEnd := List.drop_eq_nil_iff.mp ended
    omega
  constructor
  · intro leftmost
    refine List.eq_nil_iff_forall_not_mem.mpr fun occurrence member => ?_
    exact noBoundary (leftmost.onward occurrence member)
      (leftmost.onBoundaries occurrence member)
  · rintro rfl
    refine ⟨by simp, .nil, .nil, by simp, by simp, by simp, ?_⟩
    intro sought isLater isBoundary
    exact absurd isBoundary (noBoundary isLater)

/-- Nothing starts on a position that is no boundary, or on which nothing is read. -/
theorem leftmostFrom_pass
    (passed : IsBoundaryAt text position → read? (text.drop position) = none) :
    LeftmostFrom read? text position found ↔ LeftmostFrom read? text (position + 1) found := by
  constructor
  · intro leftmost
    have startsLater (occurrence) (member : occurrence ∈ found) :
        position + 1 ≤ occurrence.start := by
      have isOnward := leftmost.onward occurrence member
      rcases Nat.lt_or_eq_of_le isOnward with isLater | isHere
      · exact isLater
      · have unread := passed (isHere ▸ leftmost.onBoundaries occurrence member)
        have reads := leftmost.reads occurrence member
        rw [← isHere, unread] at reads
        cases reads
    exact { leftmost with
      onward := startsLater
      complete := fun sought isLater => leftmost.complete sought (by omega) }
  · intro leftmost
    refine { leftmost with
      onward := fun occurrence member => by
        have := leftmost.onward occurrence member
        omega
      complete := ?_ }
    intro sought isLater isBoundary isRead
    rcases Nat.lt_or_eq_of_le isLater with isAfter | rfl
    · exact leftmost.complete sought isAfter isBoundary isRead
    · rw [passed isBoundary] at isRead
      cases isRead

/-- What is read on a boundary is the next occurrence, and the others start after it. -/
theorem leftmostFrom_take
    {value : Value}
    {rest : Text}
    (isBoundary : IsBoundaryAt text position)
    (isRead : read? (text.drop position) = some (value, rest))
    (isEnd : rest <:+ text.drop position)
    {width : Nat}
    (isWidth : width = (text.drop position).length - rest.length) :
    LeftmostFrom read? text position found ↔
      ∃ later, found = ⟨position, width, value⟩ :: later ∧
        LeftmostFrom read? text (position + (width - 1) + 1) later := by
  have fits : position < text.length := by
    obtain ⟨c, isHere, _⟩ := isBoundary.starts
    exact (List.getElem?_eq_some_iff.mp isHere).1
  have restLength := isEnd.length_le
  rw [List.length_drop] at restLength isWidth
  constructor
  · intro leftmost
    cases found with
    | nil =>
        have nothing := leftmost.complete position le_rfl isBoundary (by simp [isRead])
        simp at nothing
    | cons first later =>
        have others := List.pairwise_cons.mp leftmost.increasing
        have isFirst : first.start = position := by
          obtain ⟨occurrence, member, covers⟩ :=
            leftmost.complete position le_rfl isBoundary (by simp [isRead])
          have firstOnward := leftmost.onward first List.mem_cons_self
          have isOnward := leftmost.onward occurrence member
          rcases List.mem_cons.mp member with rfl | isLater
          · omega
          · have := others.1 occurrence isLater
            omega
        have firstFits := leftmost.inText first List.mem_cons_self
        have firstReads := leftmost.reads first List.mem_cons_self
        rw [isFirst, isRead] at firstReads
        obtain ⟨rfl, isRest⟩ := Prod.mk.inj (Option.some.inj firstReads)
        have sameWidth : first.width = width := by
          have restIs := congrArg List.length isRest
          rw [List.length_drop] at restIs
          simp only [stop] at firstFits restIs
          omega
        refine ⟨later, ?_, ?_, others.2, leftmost.apart.of_cons, ?_, ?_, ?_, ?_⟩
        · rw [← isFirst, ← sameWidth]
        · intro occurrence member
          have startsAfter := others.1 occurrence member
          have apart := (List.pairwise_cons.mp leftmost.apart).1 occurrence member
          simp only [stop] at apart
          omega
        · exact fun occurrence member =>
            leftmost.onBoundaries occurrence (List.mem_cons_of_mem first member)
        · exact fun occurrence member =>
            leftmost.inText occurrence (List.mem_cons_of_mem first member)
        · exact fun occurrence member =>
            leftmost.reads occurrence (List.mem_cons_of_mem first member)
        · intro sought isLater soughtBoundary soughtRead
          obtain ⟨occurrence, member, covers⟩ :=
            leftmost.complete sought (by omega) soughtBoundary soughtRead
          rcases List.mem_cons.mp member with rfl | inLater
          · simp only [stop] at covers
            omega
          · exact ⟨occurrence, inLater, covers⟩
  · rintro ⟨later, rfl, leftmost⟩
    have isRest : rest = text.drop (position + width) := by
      have isDrop := List.suffix_iff_eq_drop.mp isEnd
      rw [List.length_drop, ← isWidth, List.drop_drop] at isDrop
      exact isDrop
    refine ⟨?_, ?_, ?_, ?_, ?_, ?_, ?_⟩
    · refine List.forall_mem_cons.mpr ⟨le_rfl, fun occurrence member => ?_⟩
      have := leftmost.onward occurrence member
      omega
    · refine List.pairwise_cons.mpr ⟨fun occurrence member => ?_, leftmost.increasing⟩
      have := leftmost.onward occurrence member
      dsimp only
      omega
    · refine List.pairwise_cons.mpr ⟨fun occurrence member => ?_, leftmost.apart⟩
      have := leftmost.onward occurrence member
      simp only [stop]
      omega
    · exact List.forall_mem_cons.mpr ⟨isBoundary, leftmost.onBoundaries⟩
    · refine List.forall_mem_cons.mpr ⟨?_, leftmost.inText⟩
      simp only [stop]
      omega
    · refine List.forall_mem_cons.mpr ⟨?_, leftmost.reads⟩
      simp only [stop]
      rw [isRead, isRest]
    · intro sought isLater soughtBoundary soughtRead
      by_cases covered : sought < position + (width - 1) + 1
      · refine ⟨_, List.mem_cons_self, ?_⟩
        simp only [stop]
        omega
      · obtain ⟨occurrence, member, covers⟩ :=
          leftmost.complete sought (by omega) soughtBoundary soughtRead
        exact ⟨occurrence, List.mem_cons_of_mem _ member, covers⟩

/-- The character before a position. -/
def charBefore (text : Text) (position : Nat) : Option CodePoint :=
  if position = 0 then none else text[position - 1]?

/-- The characters around a position decide whether it is a boundary. -/
theorem isBoundary_iff
    {c : CodePoint}
    {rest : Text}
    (isHere : text.drop position = c :: rest) :
    isBoundary (charBefore text position) c = true ↔ IsBoundaryAt text position := by
  have isFirst : text[position]? = some c := by
    rw [← List.head?_drop, isHere]
    rfl
  have fits := (List.getElem?_eq_some_iff.mp isFirst).1
  have follows :
      (charBefore text position).any Text.isNameChar = false ↔
        position = 0 ∨ ∃ c, text[position - 1]? = some c ∧ Text.isNameChar c = false := by
    unfold charBefore
    split
    case isTrue atStart =>
      simp [atStart]
    case isFalse inside =>
      rw [List.getElem?_eq_getElem (by omega : position - 1 < text.length)]
      simp [inside]
  simp only [isBoundary, Bool.and_eq_true, Bool.not_eq_true', follows]
  constructor
  · rintro ⟨starts, fresh⟩
    exact ⟨⟨c, isFirst, starts⟩, fresh⟩
  · rintro ⟨⟨first, isThere, starts⟩, fresh⟩
    rw [isFirst] at isThere
    cases isThere
    exact ⟨starts, fresh⟩

/-- What is left of a text some steps further on, and the character before it. -/
theorem step_of_drop
    {c : CodePoint}
    {rest : Text}
    (isHere : text.drop position = c :: rest)
    (steps : Nat) :
    text.drop (position + steps + 1) = rest.drop steps ∧
      charBefore text (position + steps + 1) = (c :: rest)[steps]? := by
  constructor
  · rw [Nat.add_assoc, ← List.drop_drop, isHere]
    rfl
  · rw [← isHere, List.getElem?_drop]
    simp [charBefore]

/-- The search from a position on finds the leftmost occurrences, and nothing else is
leftmost. -/
theorem leftmostFrom_iff
    (leaves : ∀ text, Reader.LeavesEnd Prod.snd text (read? text))
    {before : Option CodePoint}
    {onward : Text}
    (isOnward : text.drop position = onward)
    (isBefore : charBefore text position = before) :
    LeftmostFrom read? text position found ↔ found = searchFrom read? before position onward := by
  fun_induction searchFrom read? before position onward generalizing found with
  | case1 =>
      exact leftmostFrom_end isOnward
  | case2 before position c rest boundary value remaining reads width step =>
      rename_i inductionHypothesis
      have isRead : read? (text.drop position) = some (value, remaining) := by
        rw [isOnward, reads]
      have isWidth : width = (text.drop position).length - remaining.length := by
        rw [isOnward]
      obtain ⟨isNext, isNextBefore⟩ := step_of_drop isOnward step
      rw [← isBefore, isBoundary_iff isOnward] at boundary
      rw [leftmostFrom_take boundary isRead (leaves _ _ isRead) isWidth]
      constructor
      · rintro ⟨later, rfl, leftmost⟩
        rw [(inductionHypothesis isNext isNextBefore).mp leftmost]
      · intro isFound
        exact ⟨_, isFound, (inductionHypothesis isNext isNextBefore).mpr rfl⟩
  | case3 before position c rest boundary unread inductionHypothesis =>
      obtain ⟨isNext, isNextBefore⟩ := step_of_drop isOnward 0
      rw [leftmostFrom_pass fun _ => isOnward ▸ unread]
      exact inductionHypothesis isNext isNextBefore
  | case4 before position c rest noBoundary inductionHypothesis =>
      obtain ⟨isNext, isNextBefore⟩ := step_of_drop isOnward 0
      rw [← isBefore, isBoundary_iff isOnward] at noBoundary
      rw [leftmostFrom_pass fun isBoundary => absurd isBoundary noBoundary]
      exact inductionHypothesis isNext isNextBefore

end Occurrence

namespace Rule

/-- A rule reads nothing but its extent. -/
def read? (rule : Rule) : Reader Unit := fun text =>
  (rule.rest? text).map fun remaining => ((), remaining)

/-- The search for a rule is leftmost matching, for every rule and every text.  What it
finds starts on boundaries, in strictly increasing order; each occurrence is what the rule
takes there and ends before the next one starts; and a boundary on which the rule matches,
even if it takes no character, is the start of an occurrence or lies strictly inside one.
No other list of occurrences is like that. -/
theorem search_is_leftmost
    {rule : Rule}
    (listed : rule ∈ all)
    (text : Text) :
    Occurrence.LeftmostFrom rule.read? text 0 (rule.search text) ∧
      ∀ found, Occurrence.LeftmostFrom rule.read? text 0 found → found = rule.search text := by
  have leaves (text : Text) : Reader.LeavesEnd Prod.snd text (rule.read? text) :=
    (leavesEnd_rest? rule listed text).map fun _ => rfl
  have isSearch (found : List (Occurrence Unit)) :
      Occurrence.LeftmostFrom rule.read? text 0 found ↔ found = rule.search text :=
    Occurrence.leftmostFrom_iff leaves rfl rfl
  exact ⟨(isSearch _).mpr rfl, fun found => (isSearch found).mp⟩

/-- A rule that takes a whole statement, in which a boundary lies, and a rule that takes no
character of the same text. -/
theorem search_is_leftmost_statements :
    let text : Text := "ab cd;ef"
    let statement := ofRun "assigned" (· != ';')
    let indent := ofRun "ws" Text.isIndent
    statement ∈ all ∧ indent ∈ all ∧
      Occurrence.LeftmostFrom statement.read? text 0 [⟨0, 5, ()⟩, ⟨6, 2, ()⟩] ∧
      Occurrence.LeftmostFrom indent.read? text 0 [⟨0, 0, ()⟩, ⟨3, 0, ()⟩, ⟨6, 0, ()⟩] := by
  intro text statement indent
  have listsStatement : statement ∈ all := by
    simp [all, statement]
  have listsIndent : indent ∈ all := by
    simp [all, indent]
  have statements : statement.search text = [⟨0, 5, ()⟩, ⟨6, 2, ()⟩] := by
    decide +kernel
  have indents : indent.search text = [⟨0, 0, ()⟩, ⟨3, 0, ()⟩, ⟨6, 0, ()⟩] := by
    decide +kernel
  refine ⟨listsStatement, listsIndent, ?_, ?_⟩
  · rw [← statements]
    exact (search_is_leftmost listsStatement text).1
  · rw [← indents]
    exact (search_is_leftmost listsIndent text).1

end Rule

end MissionLint
