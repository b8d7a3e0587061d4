import MissionLint.Proofs.Script.CarriageReturn
import MissionLint.Proofs.Script.Blocks

namespace MissionLint

/-!
# Collecting blocks line by line

What a line does to the open block depends on its shape only: an opener starts a
block, a command joins the open block, and without an open block nothing but an
opener counts.
-/

namespace Text

/-- A text below another has its own lines. -/
theorem splitOn_append_break
    (front back : Text) :
    (front ++ "\n" ++ back).splitOn ('\n' : CodePoint) =
      front.splitOn ('\n' : CodePoint) ++ back.splitOn ('\n' : CodePoint) := by
  rw [List.append_assoc]
  exact List.splitOn_append_cons_self front back

/-- Nothing is trimmed after a character that stays. -/
theorem trimEndWhile_concat
    (drops : CodePoint → Bool)
    {last : CodePoint}
    (kept : drops last = false)
    (body : Text) :
    trimEndWhile drops (body ++ [last]) = body ++ [last] := by
  simp [trimEndWhile, kept]

/-- A character that stays is not dropped. -/
theorem mem_dropWhile
    {drops : CodePoint → Bool}
    {c : CodePoint}
    {text : Text}
    (member : c ∈ text)
    (kept : drops c = false) :
    c ∈ text.dropWhile drops := by
  have parts : text.takeWhile drops ++ text.dropWhile drops = text :=
    List.takeWhile_append_dropWhile
  rw [← parts] at member
  rcases List.mem_append.mp member with dropped | stays
  · have isDropped := List.mem_takeWhile_imp dropped
    simp [kept] at isDropped
  · exact stays

/-- A character that stays is not trimmed. -/
theorem mem_trimEndWhile
    {drops : CodePoint → Bool}
    {c : CodePoint}
    {text : Text}
    (member : c ∈ text)
    (kept : drops c = false) :
    c ∈ trimEndWhile drops text :=
  List.mem_reverse.mpr (mem_dropWhile (List.mem_reverse.mpr member) kept)

/-- A visible character is not stripped. -/
theorem mem_strip
    {c : CodePoint}
    {text : Text}
    (member : c ∈ text)
    (visible : isBlank c = false) :
    c ∈ strip text :=
  mem_trimEndWhile (mem_dropWhile member visible) visible

/-- What is trimmed is an end of characters that go. -/
theorem exists_eq_trimEndWhile_append
    (drops : CodePoint → Bool)
    (text : Text) :
    ∃ tail, text = trimEndWhile drops text ++ tail ∧ ∀ c ∈ tail, drops c = true := by
  refine ⟨(text.reverse.takeWhile drops).reverse, ?_, ?_⟩
  · have parts : text.reverse.takeWhile drops ++ text.reverse.dropWhile drops = text.reverse :=
      List.takeWhile_append_dropWhile
    rw [trimEndWhile, ← List.reverse_append, parts, List.reverse_reverse]
  · intro c member
    exact List.mem_takeWhile_imp (List.mem_reverse.mp member)

/-- Nothing is dropped before a character that is kept. -/
theorem trimEndWhile_append_cons
    {drops : CodePoint → Bool}
    {c : CodePoint}
    (kept : drops c = false)
    (front back : Text) :
    trimEndWhile drops (front ++ c :: back) = front ++ c :: trimEndWhile drops back := by
  simp only [trimEndWhile, List.reverse_append, List.reverse_cons, List.append_assoc]
  rw [List.dropWhile_append]
  cases back.reverse.dropWhile drops with
  | nil =>
      simp [kept]
  | cons last rest =>
      simp

/-- Blanks at the end of a text are stripped. -/
theorem strip_append
    {tail : Text}
    (blank : ∀ c ∈ tail, isBlank c = true)
    (text : Text) :
    strip (text ++ tail) = strip text := by
  unfold strip trimWhile
  rw [List.dropWhile_append]
  cases text.dropWhile isBlank with
  | nil =>
      simp [List.dropWhile_eq_nil_iff.mpr blank]
  | cons c rest =>
      have blankReversed : ∀ c ∈ tail.reverse, isBlank c = true := fun c member =>
        blank c (List.mem_reverse.mp member)
      simp [trimEndWhile, List.dropWhile_append_of_pos blankReversed]

section Blanks

variable {drops : CodePoint → Bool}
  (blank : ∀ c, drops c = true → isBlank c = true)

include blank

/-- Trimming white space first does not change what is stripped. -/
theorem strip_trimEndWhile
    (text : Text) :
    strip (trimEndWhile drops text) = strip text := by
  obtain ⟨tail, shape, dropped⟩ := exists_eq_trimEndWhile_append drops text
  calc
    strip (trimEndWhile drops text) = strip (trimEndWhile drops text ++ tail) :=
      (strip_append (fun c member => blank c (dropped c member)) _).symm
    _ = strip text := by
      rw [← shape]

/-- Dropping white space first does not change what is stripped. -/
theorem strip_dropWhile
    (text : Text) :
    strip (text.dropWhile drops) = strip text := by
  induction text with
  | nil =>
      rfl
  | cons c rest inductionHypothesis =>
      cases dropped : drops c with
      | false =>
          simp [dropped]
      | true =>
          simpa [dropped, strip, trimWhile, blank c dropped] using inductionHypothesis

end Blanks

/-- Stripping twice is stripping once. -/
theorem strip_strip
    (text : Text) :
    strip (strip text) = strip text := by
  have atEnd := strip_trimEndWhile (fun _ blank => blank) (text.dropWhile isBlank)
  exact atEnd.trans (strip_dropWhile (fun _ blank => blank) text)

end Text

namespace Line

/-- Lines that follow others are numbered on. -/
theorem numberFrom_append
    (first : Nat)
    (raws others : List Text) :
    numberFrom first (raws ++ others) =
      numberFrom first raws ++ numberFrom (first + raws.length) others := by
  induction raws generalizing first with
  | nil =>
      rfl
  | cons raw rest inductionHypothesis =>
      simp only [List.cons_append, numberFrom, inductionHypothesis, List.length_cons]
      rw [Nat.add_right_comm, Nat.add_assoc]

/-- A text without a hash is all code. -/
theorem splitCommentFrom_of_uncommented
    {text : Text}
    (uncommented : ('#' : CodePoint) ∉ text)
    (quoted : Bool) :
    splitCommentFrom quoted text = (text, none) := by
  induction text generalizing quoted with
  | nil =>
      rfl
  | cons c rest inductionHypothesis =>
      simp only [List.mem_cons, not_or] at uncommented
      have noHash : (c == '#') = false :=
        beq_eq_false_iff_ne.mpr (Ne.symm uncommented.1)
      rw [splitCommentFrom, noHash, inductionHypothesis uncommented.2]
      rfl

/-- The code of a line without a hash is all but the carriage returns at its end. -/
theorem code_ofRaw
    {raw : Text}
    (uncommented : ('#' : CodePoint) ∉ raw)
    (number : Nat) :
    (ofRaw number raw).code = Text.trimEndWhile (· == '\r') raw := by
  obtain ⟨tail, shape, _⟩ := Text.exists_eq_trimEndWhile_append (· == '\r') raw
  have stillUncommented : ('#' : CodePoint) ∉ Text.trimEndWhile (· == '\r') raw := by
    intro member
    rw [shape] at uncommented
    exact uncommented (List.mem_append_left tail member)
  simp only [ofRaw, splitComment, splitCommentFrom_of_uncommented stillUncommented]

/-- The code of a line without a hash and without a carriage return at its end is the line. -/
theorem code_ofRaw_concat
    {body : Text}
    {last : CodePoint}
    (uncommented : ('#' : CodePoint) ∉ body ++ [last])
    (visible : (last == '\r') = false)
    (number : Nat) :
    (ofRaw number (body ++ [last])).code = body ++ [last] := by
  rw [code_ofRaw uncommented]
  exact Text.trimEndWhile_concat (· == '\r') visible body

/-- The code of an opener is the opener. -/
theorem code_ofRaw_opener
    {name : Text}
    (named : Text.isName name = true)
    (number : Nat) :
    (ofRaw number (name ++ "::")).code = name ++ "::" := by
  have shape : name ++ ("::" : Text) = (name ++ ":") ++ [(':' : CodePoint)] := by
    simp [Text.ofString, Text.ofCharacters]
  have uncommented : ('#' : CodePoint) ∉ name ++ ("::" : Text) := by
    rw [List.mem_append, not_or]
    exact ⟨Text.not_mem_of_isName named (by decide), by decide⟩
  rw [shape] at uncommented ⊢
  exact code_ofRaw_concat uncommented (by decide) number

/-- A text that an open block takes as a command. -/
structure IsCommand (raw : Text) : Prop where
  code_eq : ∀ number, (ofRaw number raw).code = raw
  notBlank : Text.strip raw ≠ []
  notOpener : Opener.ofCode? raw = none
  untyped : Outline.isTypedDeclaration raw = false

/-- The codes of command lines are the lines. -/
theorem map_code_numberFrom
    {raws : List Text}
    (commands : ∀ raw ∈ raws, IsCommand raw)
    (first : Nat) :
    (numberFrom first raws).map Line.code = raws := by
  induction raws generalizing first with
  | nil =>
      rfl
  | cons raw rest inductionHypothesis =>
      have others := inductionHypothesis fun later member =>
        commands later (List.mem_cons_of_mem raw member)
      rw [numberFrom, List.map_cons, others, (commands raw List.mem_cons_self).code_eq]

end Line

namespace Outline

/-- Without an open block lines without openers are passed over. -/
theorem blocksFrom_none_append
    {raws : List Text}
    (noOpener : ∀ raw ∈ raws, ∀ number, Opener.ofCode? (Line.ofRaw number raw).code = none)
    (first : Nat)
    (rest : List Line) :
    blocksFrom none (Line.numberFrom first raws ++ rest) = blocksFrom none rest := by
  induction raws generalizing first with
  | nil =>
      rfl
  | cons raw others inductionHypothesis =>
      have passed := inductionHypothesis
        (fun later member => noOpener later (List.mem_cons_of_mem raw member)) (first + 1)
      rw [Line.numberFrom, List.cons_append, blocksFrom, noOpener raw List.mem_cons_self, passed]
      exact ite_self _

/-- An open block takes commands one after another. -/
theorem blocksFrom_some_append
    {raws : List Text}
    (commands : ∀ raw ∈ raws, Line.IsCommand raw)
    (block : Event)
    (first : Nat)
    (rest : List Line) :
    blocksFrom (some block) (Line.numberFrom first raws ++ rest) =
      blocksFrom
        (some { block with commands := block.commands ++ Line.numberFrom first raws }) rest := by
  induction raws generalizing block first with
  | nil =>
      simp [Line.numberFrom]
  | cons raw others inductionHypothesis =>
      have command := commands raw List.mem_cons_self
      have notBlank : (Line.ofRaw first raw).isBlank = false := by
        simp [Line.isBlank, command.code_eq, command.notBlank]
      rw [Line.numberFrom, List.cons_append, blocksFrom, notBlank, command.code_eq,
        command.notOpener, command.untyped]
      simp only [Bool.false_eq_true, if_false]
      rw [inductionHypothesis fun later member =>
        commands later (List.mem_cons_of_mem raw member)]
      simp

/-- An opener ends the open block and starts its own. -/
theorem blocksFrom_opener
    {name : Text}
    (named : Text.isName name = true)
    (current : Option Event)
    (number : Nat)
    (rest : List Line) :
    blocksFrom current (Line.ofRaw number (name ++ "::") :: rest) =
      current.toList ++ blocksFrom (some ⟨name, number, [], none⟩) rest := by
  have code := Line.code_ofRaw_opener named number
  have notBlank : (Line.ofRaw number (name ++ "::")).isBlank = false := by
    have visible : (':' : CodePoint) ∈ Text.strip (name ++ "::") :=
      Text.mem_strip (List.mem_append_right name (by decide)) (by decide)
    rw [Line.isBlank, code]
    simpa using List.ne_nil_of_mem visible
  cases current <;>
    rw [blocksFrom, notBlank, code, Opener.ofCode?_write named] <;>
    rfl

end Outline

end MissionLint
