import MissionLint.Proofs.Script.Collection

namespace MissionLint

/-!
# Declarations and openers as whole lines

A declaration and an opener cover their line.  The readers commit to the first type word, to
the longest name and to everything before a semicolon, and never go back.  They lose no line
by it: the lines that they recognise are exactly those that can be written from a type, a
name, a body and indents.  A line determines all of its parts, and none is both a declaration
and an opener.
-/

namespace Text

/-- A run of characters of a class, which what follows does not continue, is determined by
the whole text. -/
theorem append_inj_of_run
    {belongs : CodePoint → Bool}
    {one other oneRest otherRest : Text}
    (same : one ++ oneRest = other ++ otherRest)
    (oneBelongs : ∀ c ∈ one, belongs c = true)
    (otherBelongs : ∀ c ∈ other, belongs c = true)
    (oneEnds : ∀ c ∈ oneRest.head?, belongs c = false)
    (otherEnds : ∀ c ∈ otherRest.head?, belongs c = false) :
    one = other ∧ oneRest = otherRest := by
  have sameRun : one = other := by
    have taken := congrArg (List.takeWhile belongs) same
    rw [Reader.takeWhile_append_tail oneEnds, Reader.takeWhile_append_tail otherEnds,
      List.takeWhile_eq_self_iff.mpr oneBelongs,
      List.takeWhile_eq_self_iff.mpr otherBelongs] at taken
    exact taken
  subst sameRun
  exact ⟨rfl, List.append_cancel_left same⟩

end Text

namespace Reader

/-- An indent that is not empty is skipped up to the code after it. -/
theorem skipSomeIndent?_append
    {indent text : Text}
    (indented : ∀ c ∈ indent, Text.isIndent c = true)
    (apart : indent ≠ [])
    (ends : ∀ c ∈ text.head?, Text.isIndent c = false) :
    skipSomeIndent? (indent ++ text) = some text := by
  cases indent with
  | nil =>
      exact absurd rfl apart
  | cons first others =>
      have othersIndented : ∀ c ∈ others, Text.isIndent c = true := fun c member =>
        indented c (List.mem_cons_of_mem first member)
      rw [List.cons_append, skipSomeIndent?, if_pos (indented first List.mem_cons_self),
        skipIndent_append othersIndented ends]

/-- What is skipped is an indent that is not empty. -/
theorem exists_of_skipSomeIndent?
    {text rest : Text}
    (reads : skipSomeIndent? text = some rest) :
    ∃ indent, (∀ c ∈ indent, Text.isIndent c = true) ∧ indent ≠ [] ∧ text = indent ++ rest := by
  unfold skipSomeIndent? at reads
  split at reads
  · cases reads
  case h_2 first others =>
    split at reads
    case isTrue isIndent =>
      cases reads
      obtain ⟨indent, indented, isOthers⟩ := exists_indent others
      refine ⟨first :: indent, ?_, List.cons_ne_nil first indent, congrArg (first :: ·) isOthers⟩
      exact List.forall_mem_cons.mpr ⟨isIndent, indented⟩
    case isFalse =>
      cases reads

/-- A character is not doubled when another one or nothing follows it. -/
theorem notDoubled?_eq_some_iff
    {expected : CodePoint}
    {text rest : Text} :
    notDoubled? expected text = some rest ↔
      text = expected :: rest ∧ rest.head? ≠ some expected := by
  cases text with
  | nil =>
      simp [notDoubled?]
  | cons first others =>
      simp only [notDoubled?, Option.ite_none_right_eq_some, Bool.and_eq_true, beq_iff_eq,
        bne_iff_ne, Option.some.injEq, List.cons.injEq]
      constructor
      · rintro ⟨⟨isExpected, single⟩, rfl⟩
        exact ⟨⟨isExpected, rfl⟩, single⟩
      · rintro ⟨⟨isExpected, rfl⟩, single⟩
        exact ⟨⟨isExpected, single⟩, rfl⟩

end Reader

namespace VariableType

/-- The name of a type is a name. -/
theorem isName_name
    (type : VariableType) :
    Text.isName type.name = true := by
  cases type <;>
    rfl

/-- Different types have different names. -/
theorem name_injective :
    Function.Injective name := by
  intro one other
  cases one <;> cases other <;>
    decide

/-- The name of a type is read as the type. -/
theorem read?_name
    {type : VariableType}
    (typed : type ≠ .unknown)
    (rest : Text) :
    read? (type.name ++ rest) = some (type, rest) := by
  cases type with
  | unknown =>
      exact absurd rfl typed
  | _ =>
      rfl

/-- What is read as a type is its name. -/
theorem eq_append_of_read?
    {type : VariableType}
    {text rest : Text}
    (reads : read? text = some (type, rest)) :
    type ≠ .unknown ∧ text = type.name ++ rest := by
  have spelled : ∀ entry ∈ words, entry.2 ≠ .unknown ∧ entry.1 = entry.2.name := by
    decide
  obtain ⟨word, member, isText⟩ := Reader.exists_of_word? reads
  obtain ⟨typed, isName⟩ := spelled _ member
  exact ⟨typed, isName ▸ isText⟩

end VariableType

namespace Declaration

/-! ## What stands after the equals sign -/

/-- The end of a declaration: nothing, or a semicolon and an indent. -/
def closing : Option Text → Text
  | none => []
  | some indent => ';' :: indent

/-- Different closings are written differently. -/
theorem closing_injective :
    Function.Injective closing := by
  intro one other same
  cases one <;> cases other <;>
    simp_all [closing]

/-- A closing starts with a semicolon. -/
theorem semicolon_of_head?_closing
    {closing? : Option Text}
    {c : CodePoint}
    (isFirst : c ∈ (closing closing?).head?) :
    c = ';' := by
  cases closing? with
  | none =>
      cases isFirst
  | some indent =>
      cases isFirst
      rfl

/-- Every text has a body without semicolons and a closing. -/
theorem exists_body
    (text : Text) :
    ∃ body closing?, (';' : CodePoint) ∉ body ∧ text = body ++ closing closing? := by
  have absent : (';' : CodePoint) ∉ (Reader.statement text).1 := fun member =>
    absurd (List.mem_takeWhile_imp member) Bool.false_ne_true
  have parts : text = (Reader.statement text).1 ++ (Reader.statement text).2 :=
    List.takeWhile_append_dropWhile.symm
  cases onward : (Reader.statement text).2 with
  | nil =>
      rw [onward] at parts
      exact ⟨_, none, absent, parts⟩
  | cons c indent =>
      have isSemicolon : (c != ';') = false := by
        have stops := List.head?_dropWhile_not (· != (';' : CodePoint)) text
        rw [show text.dropWhile (· != (';' : CodePoint)) = c :: indent from onward] at stops
        exact stops
      obtain rfl : c = ';' := by
        simpa using isSemicolon
      rw [onward] at parts
      exact ⟨_, some indent, absent, parts⟩

/-- A value is read up to the closing, and the indent of both is skipped. -/
theorem readValue_append
    {body : Text}
    (oneStatement : (';' : CodePoint) ∉ body)
    (closing? : Option Text) :
    readValue (body ++ closing closing?) =
      (Reader.skipIndent body, closing?.elim [] Reader.skipIndent) := by
  have afterIndent :
      Reader.skipIndent (body ++ closing closing?) =
        Reader.skipIndent body ++ closing closing? := by
    apply Reader.dropWhile_append_tail
    intro c isFirst
    rw [semicolon_of_head?_closing isFirst]
    rfl
  have stillOne : (';' : CodePoint) ∉ Reader.skipIndent body := fun member =>
    oneStatement ((List.dropWhile_suffix _).subset member)
  have isStatement :
      Reader.statement (Reader.skipIndent body ++ closing closing?) =
        (Reader.skipIndent body, closing closing?) := by
    rw [Reader.statement_append_tail fun _ => semicolon_of_head?_closing,
      Reader.statement_eq stillOne]
    rfl
  simp only [readValue, afterIndent, isStatement]
  cases closing? <;>
    rfl

/-! ## Declarations as they are written -/

/-- A declaration from its name on. -/
@[ext]
structure Binding where
  name : Text
  space : Text
  body : Text
  closing? : Option Text
  named : Text.isName name = true
  spaced : ∀ c ∈ space, Text.isIndent c = true
  oneStatement : (';' : CodePoint) ∉ body
  closed : ∀ indent ∈ closing?, ∀ c ∈ indent, Text.isIndent c = true

/-- A declaration with a type, with all that stands on its line. -/
@[ext]
structure TypedLine where
  lead : Text
  type : VariableType
  gap : Text
  binding : Binding
  led : ∀ c ∈ lead, Text.isIndent c = true
  typed : type ≠ .unknown
  spaced : ∀ c ∈ gap, Text.isIndent c = true
  apart : gap ≠ []

namespace Binding

/-- What stands after the equals sign. -/
def rest (binding : Binding) : Text :=
  binding.body ++ closing binding.closing?

/-- The code of the binding. -/
def code (binding : Binding) : Text :=
  binding.name ++ (binding.space ++ ("=" ++ binding.rest))

/-- What is declared under a type. -/
def declaration (binding : Binding) (type : VariableType) : Declaration :=
  ⟨type, binding.name, Text.strip binding.body⟩

end Binding

/-- A declaration without a type, with all that stands on its line.  The equals sign is not
doubled. -/
@[ext]
structure UntypedLine where
  lead : Text
  binding : Binding
  led : ∀ c ∈ lead, Text.isIndent c = true
  single : binding.rest.head? ≠ some '='

namespace TypedLine

/-- The code of the line. -/
def code (line : TypedLine) : Text :=
  line.lead ++ (line.type.name ++ (line.gap ++ line.binding.code))

/-- What the line declares. -/
def declaration (line : TypedLine) : Declaration :=
  line.binding.declaration line.type

end TypedLine

namespace UntypedLine

/-- The code of the line. -/
def code (line : UntypedLine) : Text :=
  line.lead ++ line.binding.code

/-- What the line declares. -/
def declaration (line : UntypedLine) : Declaration :=
  line.binding.declaration .unknown

end UntypedLine

/-! ## Reading what is written -/

namespace Binding

/-- The name of a binding ends where the space before the equals sign starts. -/
theorem isNameChar_of_head?_space
    (binding : Binding)
    {c : CodePoint}
    (isFirst : c ∈ (binding.space ++ ("=" ++ binding.rest)).head?) :
    Text.isNameChar c = false :=
  Text.isNameChar_of_head?_indent binding.spaced
    (Text.ends_before_mark rfl rfl binding.rest) isFirst

/-- The name of a binding is read as it is. -/
theorem name?_code
    (binding : Binding) :
    Reader.name? binding.code = some (binding.name, binding.space ++ ("=" ++ binding.rest)) :=
  Reader.name?_append binding.named fun _ => binding.isNameChar_of_head?_space

/-- The space before the equals sign is skipped. -/
theorem skipIndent_space
    (binding : Binding) :
    Reader.skipIndent (binding.space ++ ("=" ++ binding.rest)) = "=" ++ binding.rest :=
  Reader.skipIndent_append binding.spaced (Text.ends_before_mark rfl rfl binding.rest)

/-- The value of a binding is its body, and nothing is left. -/
theorem readValue_rest
    (binding : Binding) :
    readValue binding.rest = (Reader.skipIndent binding.body, []) := by
  rw [rest, readValue_append binding.oneStatement]
  cases closes : binding.closing? with
  | none =>
      rfl
  | some indent =>
      exact congrArg _ (List.dropWhile_eq_nil_iff.mpr (binding.closed indent closes))

/-- The indent of a body is stripped anyway. -/
theorem strip_body
    (body : Text) :
    Text.strip (Reader.skipIndent body) = Text.strip body :=
  Text.strip_dropWhile
    (fun _ indent => Text.isBlank_of_isSpacing (Text.isSpacing_of_isIndent indent)) body

/-- What is read as a name, an equals sign and a value up to the end is a binding. -/
theorem exists_of_reads
    {text name afterName afterEquals : Text}
    (readsName : Reader.name? text = some (name, afterName))
    (readsEquals : Reader.skipIndent afterName = "=" ++ afterEquals)
    (noMore : (readValue afterEquals).2 = []) :
    ∃ binding : Binding,
      binding.code = text ∧ binding.rest = afterEquals ∧
        ∀ type, binding.declaration type = ⟨type, name, Text.strip (readValue afterEquals).1⟩ := by
  obtain ⟨isText, named⟩ := Reader.eq_append_of_name? readsName
  obtain ⟨space, spaced, isAfterName⟩ := Reader.exists_indent afterName
  obtain ⟨body, closing?, oneStatement, isRest⟩ := exists_body afterEquals
  rw [isRest, readValue_append oneStatement] at noMore
  have closed : ∀ indent ∈ closing?, ∀ c ∈ indent, Text.isIndent c = true := by
    intro indent closes
    rw [closes] at noMore
    exact List.dropWhile_eq_nil_iff.mp noMore
  refine ⟨⟨name, space, body, closing?, named, spaced, oneStatement, closed⟩, ?_, isRest.symm, ?_⟩
  · rw [isText, isAfterName, readsEquals, isRest]
    rfl
  · intro type
    rw [isRest, readValue_append oneStatement, strip_body]
    rfl

end Binding

/-- A typed line is read as it is. -/
theorem readTyped?_code
    (line : TypedLine) :
    readTyped? line.code = some (line.declaration, []) := by
  have afterLead :
      Reader.skipIndent line.code = line.type.name ++ (line.gap ++ line.binding.code) :=
    Reader.skipIndent_append line.led fun _ => Text.isIndent_of_head?_name line.type.isName_name
  have afterGap :
      Reader.skipSomeIndent? (line.gap ++ line.binding.code) = some line.binding.code :=
    Reader.skipSomeIndent?_append line.spaced line.apart
      fun _ => Text.isIndent_of_head?_name line.binding.named
  simp only [readTyped?, afterLead, VariableType.read?_name line.typed, Option.bind_eq_bind,
    Option.bind_some, afterGap, Binding.name?_code, Binding.skipIndent_space,
    Reader.literal?_append, Binding.readValue_rest, Binding.strip_body]
  rfl

/-- What is read as a typed declaration up to the end is a typed line. -/
theorem exists_of_readTyped?
    {code : Text}
    {declaration : Declaration}
    (reads : readTyped? code = some (declaration, [])) :
    ∃ line : TypedLine, line.code = code ∧ line.declaration = declaration := by
  simp only [readTyped?, Option.bind_eq_bind, Option.bind_eq_some_iff, Prod.exists] at reads
  obtain ⟨type, afterType, readsType, afterGap, readsGap, name, afterName, readsName, afterEquals,
    readsEquals, isRead⟩ := reads
  obtain ⟨isDeclaration, noMore⟩ := Prod.mk.inj (Option.some.inj isRead)
  obtain ⟨lead, led, isCode⟩ := Reader.exists_indent code
  obtain ⟨typed, isAfterLead⟩ := VariableType.eq_append_of_read? readsType
  obtain ⟨gap, spaced, apart, isAfterType⟩ := Reader.exists_of_skipSomeIndent? readsGap
  obtain ⟨binding, isAfterGap, _, declares⟩ :=
    Binding.exists_of_reads readsName (Reader.eq_append_of_literal? readsEquals) noMore
  refine ⟨⟨lead, type, gap, binding, led, typed, spaced, apart⟩, ?_, ?_⟩
  · rw [isCode, isAfterLead, isAfterType, ← isAfterGap]
    rfl
  · exact (declares type).trans isDeclaration

/-- A line without a type is read as it is. -/
theorem readUntyped?_code
    (line : UntypedLine) :
    readUntyped? line.code = some (line.declaration, []) := by
  have afterLead : Reader.skipIndent line.code = line.binding.code :=
    Reader.skipIndent_append line.led fun _ => Text.isIndent_of_head?_name line.binding.named
  have readsEquals :
      Reader.notDoubled? '=' ("=" ++ line.binding.rest) = some line.binding.rest :=
    Reader.notDoubled?_eq_some_iff.mpr ⟨rfl, line.single⟩
  simp only [readUntyped?, afterLead, Option.bind_eq_bind, Option.bind_some, Binding.name?_code,
    Binding.skipIndent_space, readsEquals, Binding.readValue_rest, Binding.strip_body]
  rfl

/-- What is read as a declaration without a type up to the end is a line without one. -/
theorem exists_of_readUntyped?
    {code : Text}
    {declaration : Declaration}
    (reads : readUntyped? code = some (declaration, [])) :
    ∃ line : UntypedLine, line.code = code ∧ line.declaration = declaration := by
  simp only [readUntyped?, Option.bind_eq_bind, Option.bind_eq_some_iff, Prod.exists] at reads
  obtain ⟨name, afterName, readsName, afterEquals, readsEquals, isRead⟩ := reads
  obtain ⟨isDeclaration, noMore⟩ := Prod.mk.inj (Option.some.inj isRead)
  obtain ⟨lead, led, isCode⟩ := Reader.exists_indent code
  obtain ⟨isAfterName, single⟩ := Reader.notDoubled?_eq_some_iff.mp readsEquals
  obtain ⟨binding, isAfterLead, isRest, declares⟩ :=
    Binding.exists_of_reads readsName isAfterName noMore
  refine ⟨⟨lead, binding, led, isRest ▸ single⟩, ?_, ?_⟩
  · rw [isCode, ← isAfterLead]
    rfl
  · exact (declares .unknown).trans isDeclaration

/-- The codes of typed declarations are those of typed lines. -/
theorem whole?_readTyped?_iff
    {code : Text}
    {declaration : Declaration} :
    Reader.whole? readTyped? code = some declaration ↔
      ∃ line : TypedLine, line.code = code ∧ line.declaration = declaration := by
  rw [Reader.whole?_eq_some_iff]
  constructor
  · exact exists_of_readTyped?
  · rintro ⟨line, rfl, rfl⟩
    exact readTyped?_code line

/-- The codes of declarations without a type are those of lines without one. -/
theorem whole?_readUntyped?_iff
    {code : Text}
    {declaration : Declaration} :
    Reader.whole? readUntyped? code = some declaration ↔
      ∃ line : UntypedLine, line.code = code ∧ line.declaration = declaration := by
  rw [Reader.whole?_eq_some_iff]
  constructor
  · exact exists_of_readUntyped?
  · rintro ⟨line, rfl, rfl⟩
    exact readUntyped?_code line

/-- A line of code declares what it declares with a type, and only when it cannot be written
with a type, what it declares without one. -/
theorem ofCode?_eq_some_iff
    {code : Text}
    {declaration : Declaration} :
    ofCode? code = some declaration ↔
      (∃ line : TypedLine, line.code = code ∧ line.declaration = declaration) ∨
        (¬∃ line : TypedLine, line.code = code) ∧
          ∃ line : UntypedLine, line.code = code ∧ line.declaration = declaration := by
  unfold ofCode?
  split
  case h_1 found reads =>
    obtain ⟨line, isCode, isFound⟩ := whole?_readTyped?_iff.mp reads
    have written : ∃ line : TypedLine, line.code = code :=
      ⟨line, isCode⟩
    rw [← whole?_readTyped?_iff, reads]
    simp [written]
  case h_2 unread =>
    have unwritten : ¬∃ line : TypedLine, line.code = code := by
      rintro ⟨line, isCode⟩
      have reads := whole?_readTyped?_iff.mpr ⟨line, isCode, rfl⟩
      simp [unread] at reads
    rw [← whole?_readTyped?_iff, unread, whole?_readUntyped?_iff]
    simp [unwritten]

/-! ## A line determines its parts -/

/-- A binding can be read in one way only. -/
theorem Binding.code_injective :
    Function.Injective Binding.code := by
  intro one other same
  obtain ⟨sameName, afterName⟩ :=
    Text.append_inj_of_run same (fun _ => Text.isNameChar_of_isName one.named)
      (fun _ => Text.isNameChar_of_isName other.named)
      (fun _ => one.isNameChar_of_head?_space) (fun _ => other.isNameChar_of_head?_space)
  obtain ⟨sameSpace, afterSpace⟩ :=
    Text.append_inj_of_run afterName one.spaced other.spaced
      (Text.ends_before_mark rfl rfl one.rest) (Text.ends_before_mark rfl rfl other.rest)
  have inBody (binding : Binding) : ∀ c ∈ binding.body, (c != ';') = true := fun c member =>
    bne_iff_ne.mpr (ne_of_mem_of_not_mem member binding.oneStatement)
  have atClosing (binding : Binding) :
      ∀ c ∈ (closing binding.closing?).head?, (c != ';') = false := by
    intro c isFirst
    rw [semicolon_of_head?_closing isFirst]
    rfl
  obtain ⟨sameBody, sameClosing⟩ :=
    Text.append_inj_of_run (List.append_cancel_left afterSpace) (inBody one) (inBody other)
      (atClosing one) (atClosing other)
  exact Binding.ext sameName sameSpace sameBody (closing_injective sameClosing)

/-- The type of a line ends where the gap after it starts. -/
theorem TypedLine.isNameChar_of_head?_gap
    (line : TypedLine)
    {c : CodePoint}
    (isFirst : c ∈ (line.gap ++ line.binding.code).head?) :
    Text.isNameChar c = false := by
  obtain ⟨first, others, isGap⟩ := List.exists_cons_of_ne_nil line.apart
  rw [isGap] at isFirst
  cases isFirst
  exact Text.isNameChar_of_isIndent (line.spaced c (isGap ▸ List.mem_cons_self))

/-- A typed line can be read in one way only. -/
theorem TypedLine.code_injective :
    Function.Injective TypedLine.code := by
  intro one other same
  obtain ⟨sameLead, afterLead⟩ :=
    Text.append_inj_of_run same one.led other.led
      (fun _ => Text.isIndent_of_head?_name one.type.isName_name)
      (fun _ => Text.isIndent_of_head?_name other.type.isName_name)
  obtain ⟨sameType, afterType⟩ :=
    Text.append_inj_of_run afterLead (fun _ => Text.isNameChar_of_isName one.type.isName_name)
      (fun _ => Text.isNameChar_of_isName other.type.isName_name)
      (fun _ => one.isNameChar_of_head?_gap) (fun _ => other.isNameChar_of_head?_gap)
  obtain ⟨sameGap, sameBinding⟩ :=
    Text.append_inj_of_run afterType one.spaced other.spaced
      (fun _ => Text.isIndent_of_head?_name one.binding.named)
      (fun _ => Text.isIndent_of_head?_name other.binding.named)
  exact TypedLine.ext sameLead (VariableType.name_injective sameType) sameGap
    (Binding.code_injective sameBinding)

/-- A line without a type can be read in one way only. -/
theorem UntypedLine.code_injective :
    Function.Injective UntypedLine.code := by
  intro one other same
  obtain ⟨sameLead, sameBinding⟩ :=
    Text.append_inj_of_run same one.led other.led
      (fun _ => Text.isIndent_of_head?_name one.binding.named)
      (fun _ => Text.isIndent_of_head?_name other.binding.named)
  exact UntypedLine.ext sameLead (Binding.code_injective sameBinding)

/-- No line is both: after one word and an indent the first has a name and the second an equals
sign. -/
theorem TypedLine.code_ne
    (typed : TypedLine)
    (untyped : UntypedLine) :
    typed.code ≠ untyped.code := by
  intro same
  obtain ⟨_, afterLead⟩ :=
    Text.append_inj_of_run same typed.led untyped.led
      (fun _ => Text.isIndent_of_head?_name typed.type.isName_name)
      (fun _ => Text.isIndent_of_head?_name untyped.binding.named)
  obtain ⟨_, afterWord⟩ :=
    Text.append_inj_of_run afterLead (fun _ => Text.isNameChar_of_isName typed.type.isName_name)
      (fun _ => Text.isNameChar_of_isName untyped.binding.named)
      (fun _ => typed.isNameChar_of_head?_gap)
      (fun _ => untyped.binding.isNameChar_of_head?_space)
  obtain ⟨_, afterIndent⟩ :=
    Text.append_inj_of_run afterWord typed.spaced untyped.binding.spaced
      (fun _ => Text.isIndent_of_head?_name typed.binding.named)
      (Text.ends_before_mark rfl rfl untyped.binding.rest)
  have readsName := typed.binding.name?_code
  rw [afterIndent] at readsName
  cases readsName

/-- A code declares nothing when it is the code of neither kind of line. -/
theorem ofCode?_eq_none_iff
    {code : Text} :
    ofCode? code = none ↔
      (¬∃ line : TypedLine, line.code = code) ∧ ¬∃ line : UntypedLine, line.code = code := by
  constructor
  · intro declaresNothing
    have unwritten (declaration : Declaration) : ofCode? code ≠ some declaration := by
      simp [declaresNothing]
    constructor
    · rintro ⟨line, isCode⟩
      exact unwritten line.declaration (ofCode?_eq_some_iff.mpr (.inl ⟨line, isCode, rfl⟩))
    · rintro ⟨line, isCode⟩
      have untyped : ¬∃ typed : TypedLine, typed.code = code := by
        rintro ⟨typed, isTyped⟩
        exact typed.code_ne line (isTyped.trans isCode.symm)
      exact unwritten line.declaration
        (ofCode?_eq_some_iff.mpr (.inr ⟨untyped, line, isCode, rfl⟩))
  · rintro ⟨noTyped, noUntyped⟩
    cases declares : ofCode? code with
    | none =>
        rfl
    | some declaration =>
        rcases ofCode?_eq_some_iff.mp declares with ⟨line, isCode, _⟩ | ⟨_, line, isCode, _⟩
        · exact absurd ⟨line, isCode⟩ noTyped
        · exact absurd ⟨line, isCode⟩ noUntyped

end Declaration

/-- A line that opens a block can be read in one way only. -/
theorem Opener.WholeLine.code_injective :
    Function.Injective Opener.WholeLine.code := by
  intro one other same
  obtain ⟨sameLead, afterLead⟩ :=
    Text.append_inj_of_run same one.led other.led
      (fun _ => Text.isIndent_of_head?_name one.named)
      (fun _ => Text.isIndent_of_head?_name other.named)
  obtain ⟨sameName, afterName⟩ :=
    Text.append_inj_of_run afterLead (fun _ => Text.isNameChar_of_isName one.named)
      (fun _ => Text.isNameChar_of_isName other.named)
      (Text.ends_before_mark rfl rfl one.trail) (Text.ends_before_mark rfl rfl other.trail)
  exact Opener.WholeLine.ext sameLead sameName (List.append_cancel_left afterName)

/-- A declaration has an equals sign. -/
theorem Declaration.equals_mem_of_ofCode?
    {code : Text}
    {declaration : Declaration}
    (declares : ofCode? code = some declaration) :
    ('=' : CodePoint) ∈ code := by
  have inBinding (binding : Binding) : ('=' : CodePoint) ∈ binding.code :=
    List.mem_append_right _ (List.mem_append_right _ List.mem_cons_self)
  rcases ofCode?_eq_some_iff.mp declares with ⟨line, rfl, _⟩ | ⟨_, line, rfl, _⟩
  · exact List.mem_append_right _
      (List.mem_append_right _ (List.mem_append_right _ (inBinding line.binding)))
  · exact List.mem_append_right _ (inBinding line.binding)

/-- The lines that are read as declarations with a type, as declarations without one and as
openers are exactly those that can be written as such, each from its own parts only, and a
line is read as what it was written from. -/
theorem whole_lines_are_read_exactly :
    (∀ code : Text,
      (∀ declaration : Declaration,
        (Declaration.ofCode? code = some declaration ∧ declaration.type ≠ .unknown ↔
          ∃ line : Declaration.TypedLine,
            line.code = code ∧ line.declaration = declaration) ∧
        (Declaration.ofCode? code = some declaration ∧ declaration.type = .unknown ↔
          (¬∃ line : Declaration.TypedLine, line.code = code) ∧
            ∃ line : Declaration.UntypedLine,
              line.code = code ∧ line.declaration = declaration)) ∧
      (Declaration.ofCode? code = none ↔
        (¬∃ line : Declaration.TypedLine, line.code = code) ∧
          ¬∃ line : Declaration.UntypedLine, line.code = code) ∧
      (∀ name, Opener.ofCode? code = some name ↔
        ∃ line : Opener.WholeLine, line.code = code ∧ line.name = name) ∧
      (Opener.ofCode? code = none ∨ Declaration.ofCode? code = none)) ∧
    Function.Injective Declaration.TypedLine.code ∧
    Function.Injective Declaration.UntypedLine.code ∧
    Function.Injective Opener.WholeLine.code ∧
    ∀ (typed : Declaration.TypedLine) (untyped : Declaration.UntypedLine),
      typed.code ≠ untyped.code := by
  refine ⟨?_, Declaration.TypedLine.code_injective, Declaration.UntypedLine.code_injective,
    Opener.WholeLine.code_injective, Declaration.TypedLine.code_ne⟩
  intro code
  refine ⟨?_, Declaration.ofCode?_eq_none_iff, fun name => Opener.ofCode?_eq_some_iff, ?_⟩
  · intro declaration
    rw [Declaration.ofCode?_eq_some_iff]
    constructor <;> constructor
    · rintro ⟨typedLine | ⟨_, line, _, rfl⟩, typed⟩
      · exact typedLine
      · exact absurd rfl typed
    · rintro ⟨line, isCode, rfl⟩
      exact ⟨.inl ⟨line, isCode, rfl⟩, line.typed⟩
    · rintro ⟨⟨line, _, rfl⟩ | untypedLine, untyped⟩
      · exact absurd untyped line.typed
      · exact untypedLine
    · rintro ⟨unwritten, line, isCode, rfl⟩
      exact ⟨.inr ⟨unwritten, line, isCode, rfl⟩, rfl⟩
  · cases declares : Declaration.ofCode? code with
    | none =>
        exact .inr rfl
    | some declaration =>
        exact .inl (Opener.ofCode?_eq_none (Declaration.equals_mem_of_ofCode? declares) (by decide))

/-- After a type the equals sign may be doubled: the second one starts the body. -/
example :
    Declaration.ofCode? "int Door == 5 ; " = some ⟨.int, "Door", "= 5"⟩ ∧
      Declaration.ofCode? "Door == 5 ; " = none ∧
        Declaration.ofCode? "integer Door = 5" = none := by
  decide +kernel

end MissionLint
