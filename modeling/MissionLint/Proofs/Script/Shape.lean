import Mathlib.Data.List.TakeWhile
import MissionLint.Script.Outline

namespace MissionLint

/-!
# Reading back openers and guards

An opener and a guard that are written from a name and a condition are read as
what they were written from.  A line with any other character than those of an
opener is none, and a line without a parenthesis has no trigger.
-/

namespace Text

/-- Two texts and more are joined with a separator after the first. -/
theorem join_cons_cons
    (separator first second : Text)
    (rest : List Text) :
    join separator (first :: second :: rest) =
      first ++ (separator ++ join separator (second :: rest)) := by
  rw [join, join, List.intercalate_cons_cons, List.append_assoc]

/-- Every character of joined texts is in one of them or in the separator. -/
theorem mem_join
    {separator : Text}
    {texts : List Text}
    {c : CodePoint}
    (member : c ∈ join separator texts) :
    c ∈ separator ∨ ∃ text ∈ texts, c ∈ text := by
  induction texts with
  | nil =>
      cases member
  | cons first rest inductionHypothesis =>
      cases rest with
      | nil =>
          rw [join, List.intercalate_singleton] at member
          exact .inr ⟨first, List.mem_cons_self, member⟩
      | cons second others =>
          rw [join_cons_cons, List.mem_append, List.mem_append] at member
          rcases member with inFirst | inSeparator | inRest
          · exact .inr ⟨first, List.mem_cons_self, inFirst⟩
          · exact .inl inSeparator
          · rcases inductionHypothesis inRest with inSeparator | ⟨text, isText, inText⟩
            · exact .inl inSeparator
            · exact .inr ⟨text, List.mem_cons_of_mem first isText, inText⟩

/-- No name starts with indentation. -/
theorem isIndent_of_isNameStart
    {c : CodePoint}
    (starts : isNameStart c = true) :
    isIndent c = false := by
  cases indent : isIndent c with
  | false =>
      rfl
  | true =>
      simp only [isIndent, Bool.or_eq_true, beq_iff_eq] at indent
      rcases indent with rfl | rfl <;>
        cases starts

/-- What can start a name can go on with it. -/
theorem isNameChar_of_isNameStart
    {c : CodePoint}
    (starts : isNameStart c = true) :
    isNameChar c = true := by
  simp only [isNameStart, Bool.or_eq_true] at starts
  rcases starts with letter | underscore
  · cases c with
    | character c =>
        have isLetter : c.isAlpha = true := letter
        simp [isNameChar, CodePoint.isAlphanum, CodePoint.satisfies, Char.isAlphanum, isLetter]
    | surrogate lone =>
        cases letter
  · simp [isNameChar, underscore]

/-- A name has no indentation. -/
theorem isNameChar_of_isIndent
    {c : CodePoint}
    (indent : isIndent c = true) :
    isNameChar c = false := by
  simp only [isIndent, Bool.or_eq_true, beq_iff_eq] at indent
  rcases indent with rfl | rfl <;>
    rfl

/-- A name has characters of names only. -/
theorem isNameChar_of_isName
    {name : Text}
    (named : isName name = true)
    {c : CodePoint}
    (member : c ∈ name) :
    isNameChar c = true := by
  cases name with
  | nil =>
      cases named
  | cons first rest =>
      simp only [isName, Bool.and_eq_true, List.all_eq_true] at named
      rcases List.mem_cons.mp member with rfl | inRest
      · exact isNameChar_of_isNameStart named.1
      · exact named.2 c inRest

/-- A name has no other characters. -/
theorem not_mem_of_isName
    {name : Text}
    (named : isName name = true)
    {c : CodePoint}
    (other : isNameChar c = false) :
    c ∉ name := by
  intro member
  simp [isNameChar_of_isName named member] at other

/-- A text that starts with a name starts without indentation. -/
theorem isIndent_of_head?_name
    {name rest : Text}
    (named : isName name = true)
    {c : CodePoint}
    (isFirst : c ∈ (name ++ rest).head?) :
    isIndent c = false := by
  cases name with
  | nil =>
      cases named
  | cons first others =>
      cases isFirst
      simp only [isName, Bool.and_eq_true] at named
      exact isIndent_of_isNameStart named.1

/-- A run of a class of characters ends before a mark that is not of the class. -/
theorem ends_before_mark
    {belongs : CodePoint → Bool}
    {mark : Text}
    {c : CodePoint}
    (starts : mark.head? = some c)
    (ends : belongs c = false)
    (rest : Text) :
    ∀ first ∈ (mark ++ rest).head?, belongs first = false := by
  obtain ⟨others, rfl⟩ := List.head?_eq_some_iff.mp starts
  intro first isFirst
  cases isFirst
  exact ends

/-- A name ends before an indent, be it empty, when what follows cannot continue it. -/
theorem isNameChar_of_head?_indent
    {indent rest : Text}
    (indented : ∀ c ∈ indent, isIndent c = true)
    (noName : ∀ c ∈ rest.head?, isNameChar c = false)
    {c : CodePoint}
    (isFirst : c ∈ (indent ++ rest).head?) :
    isNameChar c = false := by
  cases indent with
  | nil =>
      exact noName c isFirst
  | cons first others =>
      cases isFirst
      exact isNameChar_of_isIndent (indented c List.mem_cons_self)

end Text

namespace Reader

/-- A text is covered when nothing is left of it. -/
theorem whole?_eq_some_iff
    {read? : Reader Value}
    {text : Text}
    {value : Value} :
    whole? read? text = some value ↔ read? text = some (value, []) := by
  unfold whole?
  split
  case h_1 reads =>
    simp [reads]
  case h_2 unread =>
    simp only [reduceCtorEq, false_iff]
    exact unread value

/-- Nothing is skipped of a text that starts with code. -/
theorem skipIndent_cons
    {first : CodePoint}
    (code : Text.isIndent first = false)
    (rest : Text) :
    skipIndent (first :: rest) = first :: rest := by
  simp [skipIndent, code]

/-- Nothing is skipped of a name. -/
theorem skipIndent_name
    {name : Text}
    (named : Text.isName name = true)
    (rest : Text) :
    skipIndent (name ++ rest) = name ++ rest := by
  cases name with
  | nil =>
      cases named
  | cons first others =>
      simp only [Text.isName, Bool.and_eq_true] at named
      exact skipIndent_cons (Text.isIndent_of_isNameStart named.1) _

/-- An indent is skipped up to the code after it. -/
theorem skipIndent_append
    {indent text : Text}
    (indented : ∀ c ∈ indent, Text.isIndent c = true)
    (ends : ∀ c ∈ text.head?, Text.isIndent c = false) :
    skipIndent (indent ++ text) = text := by
  rw [skipIndent, List.dropWhile_append_of_pos indented]
  cases text with
  | nil =>
      rfl
  | cons c rest =>
      exact skipIndent_cons (ends c rfl) rest

/-- Every text is an indent and what is left without it. -/
theorem exists_indent
    (text : Text) :
    ∃ indent, (∀ c ∈ indent, Text.isIndent c = true) ∧ text = indent ++ skipIndent text :=
  ⟨text.takeWhile Text.isIndent, fun _ => List.mem_takeWhile_imp,
    List.takeWhile_append_dropWhile.symm⟩

/-- A name ends before a character that cannot continue it. -/
theorem name?_append
    {name : Text}
    (named : Text.isName name = true)
    {rest : Text}
    (ends : ∀ c, rest.head? = some c → Text.isNameChar c = false) :
    name? (name ++ rest) = some (name, rest) := by
  cases name with
  | nil =>
      cases named
  | cons first others =>
      simp only [Text.isName, Bool.and_eq_true, List.all_eq_true] at named
      have stops : rest.takeWhile Text.isNameChar = [] ∧ rest.dropWhile Text.isNameChar = rest := by
        cases rest with
        | nil =>
            exact ⟨rfl, rfl⟩
        | cons c others =>
            simp [ends c rfl]
      simp only [List.cons_append, name?, named.1, if_true]
      rw [List.takeWhile_append_of_pos named.2, List.dropWhile_append_of_pos named.2, stops.1,
        stops.2, List.append_nil]

/-- Without a semicolon everything is one statement. -/
theorem statement_eq
    {text : Text}
    (absent : (';' : CodePoint) ∉ text) :
    statement text = (text, []) := by
  have noSemicolon : ∀ c ∈ text, (c != ';') = true := fun c member =>
    bne_iff_ne.mpr (ne_of_mem_of_not_mem member absent)
  simp only [statement, run, List.takeWhile_eq_self_iff.mpr noSemicolon,
    List.dropWhile_eq_nil_iff.mpr noSemicolon]

/-- A literal is the front of its text. -/
theorem eq_append_of_literal?
    {expected text rest : Text}
    (reads : literal? expected text = some rest) :
    text = expected ++ rest := by
  unfold literal? at reads
  split at reads
  case isTrue starts =>
    cases reads
    exact (List.prefix_iff_eq_append.mp (List.isPrefixOf_iff_prefix.mp starts)).symm
  case isFalse =>
    cases reads

/-- A literal is read in front of any text. -/
theorem literal?_append
    (expected rest : Text) :
    literal? expected (expected ++ rest) = some rest := by
  simp [literal?]

/-- A literal may follow an indent. -/
theorem exists_of_literal?_skipIndent
    {expected text rest : Text}
    (reads : literal? expected (skipIndent text) = some rest) :
    ∃ indent, (∀ c ∈ indent, Text.isIndent c = true) ∧ text = indent ++ (expected ++ rest) := by
  obtain ⟨indent, indented, isText⟩ := exists_indent text
  rw [eq_append_of_literal? reads] at isText
  exact ⟨indent, indented, isText⟩

/-- A word that is read is one of the words, and the text starts with it. -/
theorem exists_of_word?
    {words : List (Text × Value)}
    {text rest : Text}
    {value : Value}
    (reads : word? words text = some (value, rest)) :
    ∃ word, (word, value) ∈ words ∧ text = word ++ rest := by
  obtain ⟨⟨word, _⟩, member, readsWord⟩ := List.exists_of_findSome?_eq_some reads
  obtain ⟨_, readsLiteral, isRead⟩ := Option.map_eq_some_iff.mp readsWord
  cases isRead
  exact ⟨word, member, eq_append_of_literal? readsLiteral⟩

/-- What is read as a name is the front of its text, and a name. -/
theorem eq_append_of_name?
    {text name rest : Text}
    (reads : name? text = some (name, rest)) :
    text = name ++ rest ∧ Text.isName name = true := by
  unfold name? at reads
  split at reads
  · cases reads
  case h_2 first others =>
    split at reads
    case isTrue starts =>
      cases reads
      refine ⟨by simp, ?_⟩
      simp [Text.isName, starts]
    case isFalse =>
      cases reads

end Reader

namespace Opener

/-- An opener with all that stands on its line. -/
@[ext]
structure WholeLine where
  lead : Text
  name : Text
  trail : Text
  led : ∀ c ∈ lead, Text.isIndent c = true
  named : Text.isName name = true
  trailed : ∀ c ∈ trail, Text.isIndent c = true

/-- The code of the line. -/
def WholeLine.code (line : WholeLine) : Text :=
  line.lead ++ (line.name ++ ("::" ++ line.trail))

/-- A line that opens a block is read as such, and nothing is left. -/
theorem read?_code
    (line : WholeLine) :
    read? line.code = some (line.name, []) := by
  have afterLead : Reader.skipIndent line.code = line.name ++ ("::" ++ line.trail) :=
    Reader.skipIndent_append line.led fun _ => Text.isIndent_of_head?_name line.named
  have readsName :
      Reader.name? (line.name ++ ("::" ++ line.trail)) =
        some (line.name, ("::" : Text) ++ line.trail) :=
    Reader.name?_append line.named (Text.ends_before_mark rfl rfl line.trail)
  have noMore : Reader.skipIndent line.trail = [] :=
    List.dropWhile_eq_nil_iff.mpr line.trailed
  simp only [read?, afterLead, readsName, Option.bind_eq_bind, Option.bind_some,
    Reader.literal?_append, noMore]
  rfl

/-- A code opens a block when it is that of such a line. -/
theorem ofCode?_eq_some_iff
    {code name : Text} :
    ofCode? code = some name ↔ ∃ line : WholeLine, line.code = code ∧ line.name = name := by
  rw [ofCode?, Reader.whole?_eq_some_iff]
  constructor
  · intro reads
    simp only [read?, Option.bind_eq_bind, Option.bind_eq_some_iff, Prod.exists] at reads
    obtain ⟨taken, afterName, readsName, trail, readsColons, isRead⟩ := reads
    obtain ⟨isName, noMore⟩ := Prod.mk.inj (Option.some.inj isRead)
    obtain ⟨lead, led, isCode⟩ := Reader.exists_indent code
    obtain ⟨isAfterLead, named⟩ := Reader.eq_append_of_name? readsName
    refine ⟨⟨lead, taken, trail, led, named, List.dropWhile_eq_nil_iff.mp noMore⟩, ?_, isName⟩
    rw [isCode, isAfterLead, Reader.eq_append_of_literal? readsColons]
    rfl
  · rintro ⟨line, rfl, rfl⟩
    exact read?_code line

/-- A written opener is read as its name. -/
theorem ofCode?_write
    {name : Text}
    (named : Text.isName name = true) :
    ofCode? (name ++ "::") = some name :=
  ofCode?_eq_some_iff.mpr ⟨⟨[], name, [], by simp, named, by simp⟩, by simp [WholeLine.code], rfl⟩

/-- An opener consists of indents, a name and colons. -/
theorem characters_of_ofCode?
    {code name : Text}
    (opens : ofCode? code = some name)
    {c : CodePoint}
    (member : c ∈ code) :
    Text.isIndent c = true ∨ Text.isNameChar c = true ∨ c = ':' := by
  obtain ⟨line, rfl, _⟩ := ofCode?_eq_some_iff.mp opens
  simp only [WholeLine.code, List.mem_append] at member
  rcases member with isLeading | inName | isColon | isTrailing
  · exact .inl (line.led c isLeading)
  · exact .inr (.inl (Text.isNameChar_of_isName line.named inName))
  · refine .inr (.inr ?_)
    simpa [Text.ofString, Text.ofCharacters] using isColon
  · exact .inl (line.trailed c isTrailing)

/-- A code with any other character opens no block. -/
theorem ofCode?_eq_none
    {code : Text}
    {c : CodePoint}
    (member : c ∈ code)
    (other : (Text.isIndent c || Text.isNameChar c || c == ':') = false) :
    ofCode? code = none := by
  cases opens : ofCode? code with
  | none =>
      rfl
  | some name =>
      simp only [Bool.or_eq_false_iff, beq_eq_false_iff_ne] at other
      rcases characters_of_ofCode? opens member with indent | inName | isColon
      · simp [other.1.1] at indent
      · simp [other.1.2] at inName
      · exact absurd isColon other.2

end Opener

/-- A line that does not start with a type declares no variable with a type. -/
theorem Outline.isTypedDeclaration_eq_false
    {code : Text}
    (untyped : VariableType.read? (Reader.skipIndent code) = none) :
    isTypedDeclaration code = false := by
  have notTyped : Reader.whole? Declaration.readTyped? code = none := by
    simp [Reader.whole?, Declaration.readTyped?, untyped]
  unfold isTypedDeclaration Declaration.ofCode?
  rw [notTyped]
  cases reads : Declaration.readUntyped? code with
  | none =>
      simp [Reader.whole?, reads]
  | some result =>
      obtain ⟨declaration, rest⟩ := result
      have unknown : declaration.type = .unknown := by
        simp only [Declaration.readUntyped?, Option.bind_eq_bind, Option.bind_eq_some_iff,
          Prod.exists] at reads
        obtain ⟨name, _, _, _, _, isDeclaration⟩ := reads
        cases isDeclaration
        rfl
      cases rest <;>
        simp [Reader.whole?, reads, unknown]

namespace Occurrence

/-- A search finds nothing where nothing can be read. -/
theorem searchFrom_eq_nil
    {read? : Reader Value}
    {text : Text}
    (unread : ∀ rest, rest <:+ text → read? rest = none)
    (before : Option CodePoint)
    (position : Nat) :
    searchFrom read? before position text = [] := by
  induction text generalizing before position with
  | nil =>
      rw [searchFrom]
  | cons c rest inductionHypothesis =>
      have others := inductionHypothesis
        fun later isLater => unread later (isLater.trans (List.suffix_cons c rest))
      rw [searchFrom, unread (c :: rest) List.suffix_rfl]
      simp [others]

/-- A search moves on where nothing can be read. -/
theorem searchFrom_of_unread
    {read? : Reader Value}
    {c : CodePoint}
    {rest : Text}
    (unread : read? (c :: rest) = none)
    (before : Option CodePoint)
    (position : Nat) :
    searchFrom read? before position (c :: rest) =
      searchFrom read? (some c) (position + 1) rest := by
  rw [searchFrom, unread]
  simp

/-- What is read at a boundary is found there, and the search goes on after it. -/
theorem searchFrom_take
    {read? : Reader Value}
    {before : Option CodePoint}
    {c : CodePoint}
    {others rest : Text}
    {value : Value}
    (isBoundary : isBoundary before c = true)
    (reads : read? (c :: (others ++ rest)) = some (value, rest))
    (position : Nat) :
    searchFrom read? before position (c :: (others ++ rest)) =
      ⟨position, others.length + 1, value⟩ ::
        searchFrom read? (c :: others).getLast? (position + others.length + 1) rest := by
  have isWidth : (c :: (others ++ rest)).length - rest.length = others.length + 1 := by
    simp only [List.length_cons, List.length_append]
    omega
  have isLast : (c :: (others ++ rest))[others.length]? = (c :: others).getLast? := by
    rw [← List.cons_append, List.getElem?_append_left (by simp), List.getLast?_eq_getElem?]
    rfl
  rw [searchFrom, if_pos isBoundary, reads]
  simp only [isWidth, Nat.add_sub_cancel, List.drop_left, isLast]

/-- What covers a whole text is all that occurs in it. -/
theorem values_of_whole
    {read? : Reader Value}
    {first : CodePoint}
    {rest : Text}
    {value : Value}
    (starts : Text.isNameStart first = true)
    (reads : read? (first :: rest) = some (value, [])) :
    values read? (first :: rest) = [value] := by
  have isBoundary : isBoundary none first = true := by
    simp [Occurrence.isBoundary, starts]
  rw [← List.append_nil rest] at reads ⊢
  rw [values, search, searchFrom_take isBoundary reads, searchFrom]
  rfl

end Occurrence

namespace TriggerWord

/-- A trigger word is the front of its text. -/
theorem eq_append_of_read?
    {text rest : Text}
    {word : TriggerWord}
    (reads : read? text = some (word, rest)) :
    text = word.spelling ++ rest := by
  have spelled : ∀ entry ∈ spellings, entry.1 = entry.2.spelling := by
    decide
  obtain ⟨spelling, member, isText⟩ := Reader.exists_of_word? reads
  rw [isText]
  exact congrArg (· ++ rest) (spelled _ member)

end TriggerWord

namespace Trigger

/-- A trigger has a parenthesis. -/
theorem parenthesis_mem_of_read?
    {text rest : Text}
    {trigger : Trigger}
    (reads : read? text = some (trigger, rest)) :
    ('(' : CodePoint) ∈ text := by
  simp only [read?, Option.bind_eq_bind, Option.bind_eq_some_iff, Prod.exists] at reads
  obtain ⟨word, afterWord, readsWord, afterParenthesis, readsParenthesis, _⟩ := reads
  obtain ⟨indent, _, isRest⟩ := Reader.exists_of_literal?_skipIndent readsParenthesis
  rw [TriggerWord.eq_append_of_read? readsWord, isRest]
  exact List.mem_append_right _ (List.mem_append_right _ List.mem_cons_self)

/-- A code without a parenthesis has no trigger. -/
theorem inCode_eq_nil
    {code : Text}
    (absent : ('(' : CodePoint) ∉ code) :
    inCode code = [] := by
  have unread : ∀ rest, rest <:+ code → read? rest = none := by
    intro rest isSuffix
    cases reads : read? rest with
    | none =>
        rfl
    | some result =>
        exact absurd (isSuffix.subset (parenthesis_mem_of_read? reads)) absent
  simp [inCode, Occurrence.values, Occurrence.search, Occurrence.searchFrom_eq_nil unread]

/-- What follows a text does not end a condition in it, unless it goes on with a
bracket. -/
theorem endsCondition_append
    {first : CodePoint}
    {rest tail : Text}
    (noBracket : (Reader.skipSpacing tail).head? ≠ some ('[' : CodePoint)) :
    endsCondition (first :: rest ++ tail) = endsCondition (first :: rest) := by
  have sameHead :
      ((Reader.skipSpacing (rest ++ tail)).head? == some ('[' : CodePoint)) =
        ((Reader.skipSpacing rest).head? == some ('[' : CodePoint)) := by
    unfold Reader.skipSpacing at noBracket ⊢
    rw [List.dropWhile_append]
    cases spaced : rest.dropWhile Text.isSpacing with
    | nil =>
        simpa using noBracket
    | cons c others =>
        simp
  rw [List.cons_append]
  unfold endsCondition
  split <;>
    simp_all

/-- A condition is read up to the parenthesis and the bracket that follow it. -/
theorem readCondition_append
    {condition : Text}
    (oneLine : ('\n' : CodePoint) ∉ condition)
    (unended : ∀ rest, rest <:+ condition → endsCondition rest = false)
    (tail : Text) :
    readCondition (condition ++ (")[" ++ tail)) = (condition, ")[" ++ tail) := by
  induction condition with
  | nil =>
      rfl
  | cons c rest inductionHypothesis =>
      simp only [List.mem_cons, not_or] at oneLine
      have others := inductionHypothesis oneLine.2
        fun later isLater => unended later (isLater.trans (List.suffix_cons c rest))
      have closes :
          (Reader.skipSpacing (")[" ++ tail)).head? = some (')' : CodePoint) :=
        rfl
      have goesOn : endsCondition (c :: rest ++ (")[" ++ tail)) = false := by
        rw [endsCondition_append (by rw [closes]; decide)]
        exact unended _ List.suffix_rfl
      rw [List.cons_append] at goesOn ⊢
      rw [readCondition, goesOn, others]
      simp [Ne.symm oneLine.1]

/-- A trigger as it is written. -/
def code (trigger : Trigger) : Text :=
  trigger.word.spelling ++ "(" ++ trigger.condition ++ ")[" ++ trigger.target ++ "]"

/-- A written trigger is read as it was written, whatever follows. -/
theorem read?_code
    {trigger : Trigger}
    (oneLine : ('\n' : CodePoint) ∉ trigger.condition)
    (unended : ∀ rest, rest <:+ trigger.condition → endsCondition rest = false)
    (named : Text.isName trigger.target = true)
    (rest : Text) :
    read? (trigger.code ++ rest) = some (trigger, rest) := by
  obtain ⟨word, condition, target⟩ := trigger
  have shape :
      code ⟨word, condition, target⟩ ++ rest =
        word.spelling ++ ("(" ++ (condition ++ (")[" ++ (target ++ ("]" ++ rest))))) := by
    simp [code]
  have afterWord (rest : Text) :
      TriggerWord.read? (word.spelling ++ ("(" ++ rest)) = some (word, "(" ++ rest) := by
    cases word <;>
      rfl
  have afterParenthesis (rest : Text) :
      Reader.literal? "(" (Reader.skipIndent ("(" ++ rest)) = some rest :=
    rfl
  have afterCondition (rest : Text) :
      Reader.literal? ")" (")[" ++ rest) = some (('[' : CodePoint) :: rest) :=
    rfl
  have afterBracket (rest : Text) :
      Reader.literal? "[" (Reader.skipIndent (('[' : CodePoint) :: rest)) = some rest :=
    rfl
  have afterTarget : Reader.literal? "]" (Reader.skipIndent ("]" ++ rest)) = some rest :=
    rfl
  have endsName : ∀ c, ("]" ++ rest : Text).head? = some c → Text.isNameChar c = false :=
    Text.ends_before_mark rfl rfl rest
  simp only [shape, read?, afterWord, afterParenthesis, afterCondition, afterBracket, afterTarget,
    readCondition_append oneLine unended, Reader.skipIndent_name named,
    Reader.name?_append named endsName, Option.bind_eq_bind, Option.bind_some]
  rfl

/-- The code of a guard. -/
def guardCode (condition target : Text) : Text :=
  "when(" ++ condition ++ ")[" ++ target ++ "]"

/-- A written guard is read as its condition and its target. -/
theorem inCode_guardCode
    {condition target : Text}
    (oneLine : ('\n' : CodePoint) ∉ condition)
    (unended : ∀ rest, rest <:+ condition → endsCondition rest = false)
    (named : Text.isName target = true) :
    inCode (guardCode condition target) = [⟨.onWhen, condition, target⟩] := by
  let trigger : Trigger := ⟨.onWhen, condition, target⟩
  have reads : read? trigger.code = some (trigger, []) := by
    have readsBefore : read? (trigger.code ++ []) = some (trigger, []) :=
      read?_code oneLine unended named []
    rwa [List.append_nil] at readsBefore
  exact Occurrence.values_of_whole (by decide) reads

end Trigger

end MissionLint
