import MissionLint.Proofs.Numeral.Conversion
import MissionLint.Proofs.Script.WholeLine
import MissionLint.Proofs.Section.ReadBack
import MissionLint.Proofs.Text.Distinct

namespace MissionLint

/-!
# Variables of a written section

A section writes each variable on a line of its own, before all events.  The line is read
back as a declaration of the variable.  The first declaration of a name counts, so nothing
that the events write can take its place.
-/

/-- A declaration is read back from its text. -/
theorem Declaration.ofCode?_write
    {type : VariableType}
    (typed : type ≠ .unknown)
    {name value : Text}
    (named : Text.isName name = true)
    (oneStatement : (';' : CodePoint) ∉ value) :
    ofCode? (type.name ++ " " ++ name ++ "=" ++ value) =
      some ⟨type, name, Text.strip value⟩ := by
  let binding : Binding := ⟨name, [], value, none, named, by simp, oneStatement, by simp⟩
  let line : TypedLine := ⟨[], type, " ", binding, by simp, typed, by decide, by decide⟩
  have isCode : line.code = type.name ++ " " ++ name ++ "=" ++ value := by
    simp [line, binding, TypedLine.code, Binding.code, Binding.rest, closing]
  exact ofCode?_eq_some_iff.mpr (.inl ⟨line, isCode, rfl⟩)

/-- White space around an initial value does not change it. -/
theorem InitialValue.ofText_strip
    (type : VariableType)
    (text : Text) :
    ofText type (Text.strip text) = ofText type text := by
  simp only [ofText, Text.strip_strip]

namespace ScriptSection

/-- A key always gives a type, its own or that of the value. -/
theorem splitKey_ne_unknown
    (key : Text)
    (value : SectionValue) :
    (splitKey key value).1 ≠ .unknown := by
  have ofValue : value.type ≠ .unknown := by
    unfold SectionValue.type
    split <;>
      simp
  have ofWord {word : Text} {type : VariableType} (isType : VariableType.ofWord? word = some type) :
      type ≠ .unknown := by
    have known : ∀ entry ∈ VariableType.words, entry.2 ≠ .unknown := by
      decide
    obtain ⟨before, after, shape, _⟩ := List.lookup_eq_some_iff.mp isType
    exact known (word, type) (by simp [shape])
  unfold splitKey
  split
  · split
    case h_1 isType =>
      exact ofWord isType
    case h_2 =>
      exact ofValue
  · exact ofValue

/-- A variable that can be written on one line: it has a name and a written value, and the
value ends neither the line nor the declaration. -/
structure IsReadable (entry : Text × SectionValue) (written : Text) : Prop where
  named : Text.isName (splitKey entry.1 entry.2).2 = true
  isWritten : entry.2.write = .ok written
  oneStatement : (';' : CodePoint) ∉ written
  uncommented : ('#' : CodePoint) ∉ written
  oneLine : ('\n' : CodePoint) ∉ written

/-- The variable that a section declares on a line with a written value. -/
def declaredOn (number : Nat) (entry : Text × SectionValue) (written : Text) : Variable where
  name := (splitKey entry.1 entry.2).2
  type := (splitKey entry.1 entry.2).1
  line := number
  initial := .ofText (splitKey entry.1 entry.2).1 written

/-- The variables that are declared from a line on, one to a line. -/
def declarationsFrom : Nat → List (Text × SectionValue) → Except DigitLimit (List Variable)
  | _, [] => .ok []
  | number, entry :: rest => do
      let written ← entry.2.write
      return declaredOn number entry written :: (← declarationsFrom (number + 1) rest)

/-- The variables that a section declares. -/
def declarations (script : ScriptSection) : Except DigitLimit (List Variable) :=
  declarationsFrom 1 script.declared

namespace IsReadable

variable {entry : Text × SectionValue} {written : Text}
  (readable : IsReadable entry written)

include readable

/-- A mark that is neither in names nor in the value is not in the line of a variable. -/
theorem not_mem_variableLine
    {mark : CodePoint}
    (noName : Text.isNameChar mark = false)
    (noPunctuation : mark ∉ (" =" : Text))
    (notInValue : mark ∉ written) :
    mark ∉ variableLine entry written := by
  have notInType :=
    Text.not_mem_of_isName (splitKey entry.1 entry.2).1.isName_name noName
  have notInName := Text.not_mem_of_isName readable.named noName
  intro member
  simp only [variableLine, List.mem_append, notInType, notInName, notInValue, or_false,
    false_or] at member
  exact noPunctuation (List.mem_append.mpr member)

/-- The line of a variable has no comment. -/
theorem uncommented_variableLine :
    ('#' : CodePoint) ∉ variableLine entry written :=
  readable.not_mem_variableLine (by decide) (by decide) readable.uncommented

/-- The code of a line is its text without carriage returns at the end of the value. -/
theorem code_eq
    (number : Nat) :
    (Line.ofRaw number (variableLine entry written)).code =
      (splitKey entry.1 entry.2).1.name ++ " " ++ (splitKey entry.1 entry.2).2 ++ "=" ++
        Text.trimEndWhile (· == '\r') written := by
  have shape (value : Text) :
      (splitKey entry.1 entry.2).1.name ++ " " ++ (splitKey entry.1 entry.2).2 ++ "=" ++ value =
        ((splitKey entry.1 entry.2).1.name ++ " " ++ (splitKey entry.1 entry.2).2) ++
          ('=' : CodePoint) :: value :=
    List.append_assoc _ _ _
  rw [Line.code_ofRaw readable.uncommented_variableLine, shape,
    ← Text.trimEndWhile_append_cons (by decide), ← shape]
  rfl

/-- The line of a variable declares it.  The line loses the carriage returns at the end of the
value, and these are blanks, without which values are read. -/
theorem declarationsFrom_cons
    (number : Nat)
    (rest : List Line) :
    Outline.declarationsFrom false (Line.ofRaw number (variableLine entry written) :: rest) =
      declaredOn number entry written :: Outline.declarationsFrom false rest := by
  have equals := equals_mem_code readable.uncommented_variableLine number
  have notBlank : (Line.ofRaw number (variableLine entry written)).isBlank = false :=
    List.isEmpty_eq_false_iff.mpr (List.ne_nil_of_mem (Text.mem_strip equals (by decide)))
  have notOpener := variableLine_not_opener readable.uncommented_variableLine number
  have typed := splitKey_ne_unknown entry.1 entry.2
  have declares :
      Declaration.ofCode? (Line.ofRaw number (variableLine entry written)).code =
        some ⟨(splitKey entry.1 entry.2).1, (splitKey entry.1 entry.2).2,
          Text.strip written⟩ := by
    obtain ⟨tail, shape, _⟩ := Text.exists_eq_trimEndWhile_append (· == '\r') written
    have oneStatement : (';' : CodePoint) ∉ Text.trimEndWhile (· == '\r') written := by
      intro member
      apply readable.oneStatement
      rw [shape]
      exact List.mem_append_left tail member
    have returnsBlank (c : CodePoint) (isReturn : (c == '\r') = true) : Text.isBlank c = true := by
      rw [eq_of_beq isReturn]
      decide
    rw [readable.code_eq, Declaration.ofCode?_write typed readable.named oneStatement,
      Text.strip_trimEndWhile returnsBlank]
  simp only [Outline.declarationsFrom, notBlank, notOpener, declares, Option.isSome_none,
    Bool.false_eq_true, if_false, Bool.not_false, Bool.or_true, if_true,
    InitialValue.ofText_strip]
  rfl

end IsReadable

/-- Variables that can be written have lines that do not break, and the lines declare them one
after another. -/
theorem exists_declarationsFrom_variableLines
    {entries : List (Text × SectionValue)}
    (readable : ∀ entry ∈ entries, ∃ written, IsReadable entry written)
    (first : Nat) :
    ∃ lines declarations,
      variableLines entries = .ok lines ∧ declarationsFrom first entries = .ok declarations ∧
        (∀ line ∈ lines, ('\n' : CodePoint) ∉ line) ∧
        declarations.map Variable.name = entries.map (fun entry => (splitKey entry.1 entry.2).2) ∧
        ∀ rest, Outline.declarationsFrom false (Line.numberFrom first lines ++ rest) =
          declarations ++ Outline.declarationsFrom false rest := by
  induction entries generalizing first with
  | nil =>
      exact ⟨[], [], rfl, rfl, by simp, rfl, fun _ => rfl⟩
  | cons entry others inductionHypothesis =>
      obtain ⟨⟨written, isReadable⟩, othersReadable⟩ := List.forall_mem_cons.mp readable
      obtain ⟨lines, declarations, areLines, areDeclared, oneLine, names, declares⟩ :=
        inductionHypothesis othersReadable (first + 1)
      refine ⟨variableLine entry written :: lines,
        declaredOn first entry written :: declarations, ?_, ?_, ?_, ?_, fun rest => ?_⟩
      · refine variableLines_eq_ok_iff.mpr (.cons ⟨written, isReadable.isWritten, rfl⟩ ?_)
        exact variableLines_eq_ok_iff.mp areLines
      · rw [declarationsFrom, isReadable.isWritten, areDeclared]
        rfl
      · refine List.forall_mem_cons.mpr ⟨?_, oneLine⟩
        exact isReadable.not_mem_variableLine (by decide) (by decide) isReadable.oneLine
      · rw [List.map_cons, names]
        rfl
      · rw [Line.numberFrom, List.cons_append, isReadable.declarationsFrom_cons, declares]
        rfl

/-- A declared variable stands in the place of its entry. -/
theorem exists_getElem?_declarationsFrom
    {first : Nat}
    {entries : List (Text × SectionValue)}
    {declarations : List Variable}
    (areDeclared : declarationsFrom first entries = .ok declarations)
    {index : Nat}
    {entry : Text × SectionValue}
    (isEntry : entries[index]? = some entry) :
    ∃ written, entry.2.write = .ok written ∧
      declarations[index]? = some (declaredOn (first + index) entry written) := by
  induction entries generalizing first index declarations with
  | nil =>
      simp at isEntry
  | cons other rest inductionHypothesis =>
      obtain ⟨written, isWritten, goesOn⟩ := Outcome.exists_of_bind areDeclared
      obtain ⟨others, areOthers, isAll⟩ := Outcome.exists_of_bind goesOn
      cases isAll
      cases index with
      | zero =>
          cases isEntry
          exact ⟨written, isWritten, rfl⟩
      | succ index =>
          obtain ⟨later, isLater, isDeclared⟩ := inductionHypothesis areOthers isEntry
          refine ⟨later, isLater, ?_⟩
          rw [List.getElem?_cons_succ, isDeclared, Nat.add_right_comm, Nat.add_assoc]

/-- A text starts with the lines that are joined first, as long as these do not break. -/
theorem exists_splitOn_join
    {parts : List Text}
    (oneLine : ∀ part ∈ parts, ('\n' : CodePoint) ∉ part)
    (others : List Text) :
    ∃ rest, (Text.join "\n" (parts ++ others)).splitOn ('\n' : CodePoint) = parts ++ rest := by
  induction parts with
  | nil =>
      exact ⟨_, rfl⟩
  | cons part more inductionHypothesis =>
      obtain ⟨rest, split⟩ := inductionHypothesis fun later isLater =>
        oneLine later (List.mem_cons_of_mem part isLater)
      have whole : part.splitOn ('\n' : CodePoint) = [part] :=
        List.splitOn_eq_singleton (oneLine part List.mem_cons_self)
      by_cases last : more ++ others = []
      · obtain ⟨rfl, rfl⟩ := List.append_eq_nil_iff.mp last
        refine ⟨[], ?_⟩
        simpa [Text.join, List.intercalate] using whole
      · refine ⟨rest, ?_⟩
        have shape :
            Text.join "\n" (part :: (more ++ others)) =
              part ++ ('\n' : CodePoint) :: Text.join "\n" (more ++ others) := by
          rw [Text.join, List.intercalate_cons_of_ne_nil last, List.append_assoc]
          rfl
        rw [List.cons_append, shape, List.splitOn_append_cons_self, whole, split]
        rfl

/-- The variables of a section are the first ones of its script, in order. -/
theorem exists_isPrefix_declarations
    {script : ScriptSection}
    (readable : ∀ entry ∈ script.declared, ∃ written, IsReadable entry written)
    (distinct : (script.declared.map fun entry => (splitKey entry.1 entry.2).2).Nodup) :
    ∃ text declarations,
      script.toScript = .ok text ∧ script.declarations = .ok declarations ∧
        declarations <+: (Outline.ofScript text).declared := by
  obtain ⟨lines, declarations, areLines, areDeclared, oneLine, names, declares⟩ :=
    exists_declarationsFrom_variableLines readable 1
  refine ⟨_, declarations, toScript_eq_ok_iff.mpr ⟨lines, areLines, rfl⟩, areDeclared, ?_⟩
  obtain ⟨rest, split⟩ := exists_splitOn_join oneLine (script.events.flatMap SectionEvent.toLines)
  have declared :
      (Outline.ofScript
          (Text.join "\n" (lines ++ script.events.flatMap SectionEvent.toLines))).declared =
        Outline.firstDeclarations
          (declarations ++
            Outline.declarationsFrom false (Line.numberFrom (1 + lines.length) rest)) := by
    simp only [Outline.ofScript, Outline.ofLines, Line.ofScript, split, Line.numberFrom_append,
      declares]
  rw [← names] at distinct
  rw [declared, Outline.firstDeclarations, eraseDupsBy_append, eraseDupsBy_eq_self distinct]
  exact List.prefix_append _ _

/-- The initial value of a declared variable is what its written value is for its type. -/
theorem exists_initial_of_isPrefix
    {script : ScriptSection}
    {declarations declared : List Variable}
    (areDeclared : script.declarations = .ok declarations)
    (isPrefix : declarations <+: declared)
    {index : Nat}
    {entry : Text × SectionValue}
    (isEntry : script.declared[index]? = some entry) :
    ∃ written, entry.2.write = .ok written ∧
      declared[index]?.map Variable.initial =
        some (.ofText (splitKey entry.1 entry.2).1 written) := by
  obtain ⟨others, rfl⟩ := isPrefix
  obtain ⟨written, isWritten, isDeclared⟩ := exists_getElem?_declarationsFrom areDeclared isEntry
  obtain ⟨inBounds, _⟩ := List.getElem?_eq_some_iff.mp isDeclared
  refine ⟨written, isWritten, ?_⟩
  rw [List.getElem?_append_left inBounds, isDeclared]
  rfl

/-- A written integer is read as that integer. -/
theorem ofText_of_write_integer
    {value : Int}
    {written : Text}
    (isWritten : (SectionValue.number (.integer value)).write = .ok written) :
    InitialValue.ofText .int written = .integer value := by
  have fits : value.natAbs < 10 ^ digitLimit := by
    have returns : (Numeral.writeInteger value).isOk = true :=
      Outcome.isOk_eq_true_iff.mpr ⟨written, isWritten⟩
    simpa [Numeral.isOk_writeInteger] using returns
  have isText : written = Text.ofInt value := by
    have returns : Numeral.writeInteger value = .ok written := isWritten
    unfold Numeral.writeInteger at returns
    split at returns <;>
      cases returns
    rfl
  have stripped : Text.strip (Text.ofInt value) = Text.ofInt value :=
    Numeral.trimWhile_ofInt (fun _ => Text.isBlank_of_isAnyDigit) (by decide) value
  simp only [isText, InitialValue.ofText, stripped, Numeral.readInteger_ofInt fits]

/-- A written flag is read as that flag. -/
theorem ofText_of_write_flag
    {value : Bool}
    {written : Text}
    (isWritten : (SectionValue.number (.flag value)).write = .ok written) :
    InitialValue.ofText .bool written = .flag value := by
  cases value <;> cases isWritten <;>
    rfl

/-- The variables of a section survive when it is written and read, whatever its events
are: they are the first variables of the script, in order and one to a line, and each has
its name, its type and the value that its written value is for that type.  Integers, which are
within the digit limit when they can be written, and flags come back as they were. -/
theorem variables_survive
    (script : ScriptSection)
    (readable : ∀ entry ∈ script.declared, ∃ written, IsReadable entry written)
    (distinct : (script.declared.map fun entry => (splitKey entry.1 entry.2).2).Nodup) :
    ∃ text declarations,
      script.toScript = .ok text ∧ script.declarations = .ok declarations ∧
        let declared := (Outline.ofScript text).declared
        declarations <+: declared ∧
          (∀ (index : Nat) (key : Text) (value : Int),
            script.declared[index]? = some (key, .number (.integer value)) →
            (splitKey key (.number (.integer value))).1 = .int →
              declared[index]?.map Variable.initial = some (.integer value)) ∧
          ∀ (index : Nat) (key : Text) (value : Bool),
            script.declared[index]? = some (key, .number (.flag value)) →
            (splitKey key (.number (.flag value))).1 = .bool →
              declared[index]?.map Variable.initial = some (.flag value) := by
  obtain ⟨text, declarations, isText, areDeclared, isPrefix⟩ :=
    exists_isPrefix_declarations readable distinct
  refine ⟨text, declarations, isText, areDeclared, isPrefix, ?_, ?_⟩
  · intro index key value isEntry isInteger
    obtain ⟨written, isWritten, initial⟩ := exists_initial_of_isPrefix areDeclared isPrefix isEntry
    rw [initial, isInteger, ofText_of_write_integer isWritten]
  · intro index key value isEntry isFlag
    obtain ⟨written, isWritten, initial⟩ := exists_initial_of_isPrefix areDeclared isPrefix isEntry
    rw [initial, isFlag, ofText_of_write_flag isWritten]

/-- A section with a typed and an untyped key, whose event declares one of the names again. -/
def doorSection : ScriptSection where
  declared := [("int Door", .number (.integer (-5))), (" Open ", .number (.flag true))]
  events := [⟨"Start", none, [⟨"int Door=9\nOpen=false", []⟩]⟩]

/-- The first declarations of the section's script are its own. -/
theorem variables_survive_doorSection :
    (∀ entry ∈ doorSection.declared, ∃ written, IsReadable entry written) ∧
      doorSection.declared.map (fun entry => (splitKey entry.1 entry.2).2) =
        ["Door", "Open"] ∧
      ∃ text declarations,
        doorSection.toScript = .ok text ∧ doorSection.declarations = .ok declarations ∧
          let declared := (Outline.ofScript text).declared
          declarations <+: declared ∧
            declared[0]?.map Variable.initial = some (.integer (-5)) ∧
            declared[1]?.map Variable.initial = some (.flag true) := by
  have readable : ∀ entry ∈ doorSection.declared, ∃ written, IsReadable entry written := by
    refine List.forall_mem_cons.mpr ⟨⟨"-5", ?_⟩, List.forall_mem_singleton.mpr ⟨"true", ?_⟩⟩
    · exact ⟨by decide, by rfl, by decide, by decide, by decide⟩
    · exact ⟨by decide, by rfl, by decide, by decide, by decide⟩
  have names :
      doorSection.declared.map (fun entry => (splitKey entry.1 entry.2).2) =
        ["Door", "Open"] := by
    decide
  obtain ⟨text, declarations, isText, areDeclared, isPrefix, integers, flags⟩ :=
    variables_survive doorSection readable (by rw [names]; decide)
  exact ⟨readable, names, text, declarations, isText, areDeclared, isPrefix,
    integers 0 "int Door" (-5) rfl rfl, flags 1 " Open " true rfl rfl⟩

end ScriptSection

end MissionLint
