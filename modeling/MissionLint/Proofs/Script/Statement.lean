import MissionLint.Proofs.Script.Remainder
import MissionLint.Proofs.Script.Tail

namespace MissionLint

/-!
# Assignments statement by statement

A semicolon ends every part of an assignment before it, as the end of the text would, and
no part of one after it reaches back over it.  So the assignments of a line are those of
the statements between its semicolons, and no statement has more than one: its value goes
on to the end of the statement.
-/

namespace Occurrence

/-- An occurrence that is found further to the right. -/
def moved (offset : Nat) (occurrence : Occurrence Value) : Occurrence Value :=
  { occurrence with start := occurrence.start + offset }

/-- The column moves with the occurrence. -/
theorem column_moved
    (offset : Nat)
    (occurrence : Occurrence Value) :
    (occurrence.moved offset).column = occurrence.column + offset := by
  simp only [column, moved, Nat.add_right_comm]

/-- Moving twice is moving by the sum. -/
theorem map_moved_map_moved
    (first second : Nat)
    (found : List (Occurrence Value)) :
    (found.map (moved first)).map (moved second) = found.map (moved (first + second)) := by
  rw [List.map_map]
  congr 1
  funext occurrence
  simp only [Function.comp_apply, moved, Nat.add_assoc]

variable (read? : Reader Value)

/-- A search from a later position finds the same further to the right. -/
theorem searchFrom_add
    (before : Option CodePoint)
    (position offset : Nat)
    (text : Text) :
    searchFrom read? before (position + offset) text =
      (searchFrom read? before position text).map (moved offset) := by
  fun_induction searchFrom read? before position text with
  | case1 =>
      rw [searchFrom]
      rfl
  | case2 before position c rest isBoundary value remaining reads width step inductionHypothesis =>
      have isNext : position + offset + step + 1 = position + step + 1 + offset := by
        omega
      rw [searchFrom, if_pos isBoundary, reads]
      simp only [width, step] at isNext inductionHypothesis ⊢
      rw [isNext, inductionHypothesis]
      rfl
  | case3 before position c rest isBoundary unread inductionHypothesis =>
      rw [searchFrom, if_pos isBoundary, unread, Nat.add_right_comm]
      exact inductionHypothesis
  | case4 before position c rest noBoundary inductionHypothesis =>
      rw [searchFrom, if_neg noBoundary, Nat.add_right_comm]
      exact inductionHypothesis

/-- All that counts of the character before a text is whether a name can go on after it. -/
theorem searchFrom_before
    {before other : Option CodePoint}
    (same : before.any Text.isNameChar = other.any Text.isNameChar)
    (position : Nat)
    (text : Text) :
    searchFrom read? before position text = searchFrom read? other position text := by
  cases text with
  | nil =>
      rw [searchFrom, searchFrom]
  | cons c rest =>
      rw [searchFrom, searchFrom, isBoundary, isBoundary, same]

end Occurrence

namespace Assignment

/-- What is read of an assignment does not depend on what comes after a semicolon. -/
theorem ignores_read?
    {tail : Text}
    (starts : tail.head? = some (';' : CodePoint)) :
    Reader.Ignores tail read? := by
  have atSemicolon {holds : CodePoint → Prop} (holdsThere : holds ';') :
      ∀ c ∈ tail.head?, holds c := by
    intro c isHead
    rw [starts] at isHead
    cases isHead
    exact holdsThere
  have ignoresName : Reader.Ignores tail Reader.name? :=
    Reader.ignores_name? (atSemicolon rfl)
  have skips (text : Text) : Reader.skipIndent (text ++ tail) = Reader.skipIndent text ++ tail :=
    Reader.dropWhile_append_tail (atSemicolon rfl) text
  have readsColon (text : Text) :
      Reader.notDoubled? ':' (text ++ tail) = (Reader.notDoubled? ':' text).map (· ++ tail) :=
    Reader.notDoubled?_append_tail (atSemicolon (by decide)) text
  have readsValue (text : Text) :
      Reader.statement (text ++ tail) =
        ((Reader.statement text).1, (Reader.statement text).2 ++ tail) :=
    Reader.statement_append_tail (atSemicolon rfl) text
  intro text
  simp only [read?, ignoresName text]
  rcases Reader.name? text with _ | ⟨name, afterName⟩
  · rfl
  simp only [Option.map_some, Option.bind_eq_bind, Option.bind_some, skips, readsColon]
  rcases Reader.notDoubled? ':' (Reader.skipIndent afterName) with _ | afterColon
  · rfl
  simp only [Option.map_some, Option.bind_some, skips, readsValue]
  rfl

/-- The assignments of a text are those on both sides of a semicolon in it. -/
theorem search_append
    (front back : Text) :
    Occurrence.search read? (front ++ ";" ++ back) =
      Occurrence.search read? front ++
        (Occurrence.search read? back).map (.moved (front.length + 1)) := by
  have afterSemicolon (before : Option CodePoint) (position : Nat) :
      Occurrence.searchFrom read? before position (";" ++ back) =
        Occurrence.searchFrom read? (some ';') (position + 1) back :=
    Occurrence.searchFrom_of_unread rfl before position
  have afresh (position : Nat) :
      Occurrence.searchFrom read? (some ';') position back =
        Occurrence.searchFrom read? none position back :=
    Occurrence.searchFrom_before read? (by decide) position back
  rw [List.append_assoc, Occurrence.search, Occurrence.searchFrom_append (ignores_read? rfl),
    afterSemicolon, afresh, Nat.add_assoc, Occurrence.searchFrom_add]
  rfl

/-- The value of an assignment goes on to the end of a statement. -/
theorem eq_nil_of_read?
    {statement rest : Text}
    {assignment : Assignment}
    (absent : (';' : CodePoint) ∉ statement)
    (reads : read? statement = some (assignment, rest)) :
    rest = [] := by
  simp only [read?, Option.bind_eq_bind, Option.bind_eq_some_iff, Prod.exists] at reads
  obtain ⟨name, afterName, readsName, afterColon, readsColon, isFound⟩ := reads
  cases isFound
  have isEnd : Reader.skipIndent afterColon <:+ statement := by
    have endsName : afterName <:+ statement :=
      Reader.leavesEnd_name? _ readsName
    have endsColon : afterColon <:+ Reader.skipIndent afterName :=
      Reader.leavesEnd_notDoubled? _ readsColon
    exact (List.dropWhile_suffix _).trans <| endsColon.trans <|
      (List.dropWhile_suffix _).trans endsName
  have noSemicolon : (';' : CodePoint) ∉ Reader.skipIndent afterColon :=
    fun member => absent (isEnd.subset member)
  rw [Reader.statement_eq noSemicolon]

/-- A statement has at most one assignment. -/
theorem length_searchFrom_le_one
    {statement : Text}
    (absent : (';' : CodePoint) ∉ statement)
    (before : Option CodePoint)
    (position : Nat) :
    (Occurrence.searchFrom read? before position statement).length ≤ 1 := by
  fun_induction Occurrence.searchFrom read? before position statement with
  | case1 =>
      exact Nat.zero_le 1
  | case2 before position c rest isBoundary value remaining reads width step =>
      have isWhole : step = rest.length := by
        simp only [step, width, eq_nil_of_read? absent reads, List.length_nil, List.length_cons]
        omega
      have atEnd : rest.drop step = [] := by
        rw [isWhole, List.drop_length]
      simp [atEnd, Occurrence.searchFrom]
  | case3 before position c rest isBoundary unread inductionHypothesis =>
      exact inductionHypothesis fun member => absent (List.mem_cons_of_mem c member)
  | case4 before position c rest noBoundary inductionHypothesis =>
      exact inductionHypothesis fun member => absent (List.mem_cons_of_mem c member)

/-- The assignments of statements that stand one after the other from an offset on, with a
semicolon between neighbours. -/
def placedFrom : Nat → List Text → List (Occurrence Assignment)
  | _, [] => []
  | offset, statement :: rest =>
      (Occurrence.search read? statement).map (.moved offset) ++
        placedFrom (offset + statement.length + 1) rest

/-- A search of joined statements finds what a search of each finds, further to the right. -/
theorem map_moved_search_join
    (offset : Nat)
    (statements : List Text) :
    (Occurrence.search read? (Text.join ";" statements)).map (.moved offset) =
      placedFrom offset statements := by
  induction statements generalizing offset with
  | nil =>
      rw [Text.join, List.intercalate_nil, Occurrence.search, Occurrence.searchFrom]
      rfl
  | cons statement rest inductionHypothesis =>
      cases rest with
      | nil =>
          rw [Text.join, List.intercalate_singleton, placedFrom, placedFrom, List.append_nil]
      | cons next rest =>
          have isJoin :
              Text.join ";" (statement :: next :: rest) =
                statement ++ ";" ++ Text.join ";" (next :: rest) := by
            rw [Text.join_cons_cons, List.append_assoc]
          rw [isJoin, search_append, List.map_append, Occurrence.map_moved_map_moved,
            inductionHypothesis, Nat.add_comm (statement.length + 1)]
          rfl

/-- Assignments are separable at semicolons.  On both sides of a semicolon they are what they
would be without the other side, those after it further to the right, and so are their columns;
a text without one has at most one assignment; so the assignments of a line are those of its
statements. -/
theorem search_splits_at_semicolons :
    (∀ front back : Text,
      Occurrence.search read? (front ++ ";" ++ back) =
        Occurrence.search read? front ++
          (Occurrence.search read? back).map (.moved (front.length + 1)) ∧
      (Occurrence.search read? (front ++ ";" ++ back)).map Occurrence.column =
        (Occurrence.search read? front).map Occurrence.column ++
          (Occurrence.search read? back).map fun found => found.column + (front.length + 1)) ∧
      (∀ statement : Text, (';' : CodePoint) ∉ statement →
        (Occurrence.search read? statement).length ≤ 1) ∧
      ∀ code : Text,
        Occurrence.search read? code = placedFrom 0 (code.splitOn (';' : CodePoint)) := by
  refine ⟨fun front back => ⟨search_append front back, ?_⟩, fun statement absent => ?_,
    fun code => ?_⟩
  · rw [search_append, List.map_append, List.map_map]
    exact congrArg _ (List.map_congr_left fun found _ => Occurrence.column_moved _ found)
  · exact length_searchFrom_le_one absent none 0
  · have isJoin : Text.join ";" (code.splitOn (';' : CodePoint)) = code :=
      List.intercalate_splitOn _
    have isPlaced := map_moved_search_join 0 (code.splitOn (';' : CodePoint))
    rw [isJoin] at isPlaced
    have stays : Occurrence.moved 0 = (id : Occurrence Assignment → Occurrence Assignment) :=
      rfl
    rwa [stays, List.map_id] at isPlaced

/-- A value with colons in it is one assignment, and an empty value ends at a semicolon. -/
theorem search_splits_at_semicolons_colons :
    (';' : CodePoint) ∉ ("x : y:1" : Text) ∧
      (Occurrence.search read? "x : y:1").length ≤ 1 ∧
      Occurrence.search read? "a:;b:1" = [⟨0, 2, ⟨"a", ""⟩⟩, ⟨3, 3, ⟨"b", "1"⟩⟩] := by
  have absent : (';' : CodePoint) ∉ ("x : y:1" : Text) := by
    decide
  refine ⟨absent, search_splits_at_semicolons.2.1 _ absent, ?_⟩
  calc
    Occurrence.search read? "a:;b:1"
      = Occurrence.search read? "a:" ++ (Occurrence.search read? "b:1").map (Occurrence.moved 3) :=
        (search_splits_at_semicolons.1 "a:" "b:1").1
    _ = [⟨0, 2, ⟨"a", ""⟩⟩, ⟨3, 3, ⟨"b", "1"⟩⟩] := by
        decide +kernel

end Assignment

end MissionLint
