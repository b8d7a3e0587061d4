import MissionLint.Proofs.Script.Ownership
import MissionLint.Proofs.Text.Distinct

namespace MissionLint

/-!
# The variables of a script

A script declares a variable on every line that is a declaration with a type, and on every
line that is one without a type as long as no block has been opened.  Of several declarations
of a name the first one counts, whatever their types are and in whatever blocks they stand.
-/

namespace Outline

/-- A line with code that opens no block is a declaration. -/
structure IsDeclaration (line : Line) (declaration : Declaration) : Prop where
  isCode : line.isBlank = false
  notOpener : Opener.ofCode? line.code = none
  declares : Declaration.ofCode? line.code = some declaration

/-- A line comes before every opener among some lines. -/
def BeforeOpeners (lines : List Line) (line : Line) : Prop :=
  ∀ opener ∈ lines, (Opener.ofCode? opener.code).isSome = true → line.number < opener.number

/-- A line among some lines declares a variable: it is a declaration with a type, or one
without a type before the first opener. -/
structure Declares (lines : List Line) (line : Line) (declaration : Declaration) : Prop where
  isLine : line ∈ lines
  isDeclaration : IsDeclaration line declaration
  counts : declaration.type ≠ .unknown ∨ BeforeOpeners lines line

/-- The variable that a declaration on a line declares. -/
def variableOn (line : Line) (declaration : Declaration) : Variable where
  name := declaration.name
  type := declaration.type
  line := line.number
  initial := .ofText declaration.type declaration.value

/-- A variable is what the first line that declares its name declares. -/
def IsFirstDeclared (lines : List Line) (declared : Variable) : Prop :=
  ∃ line declaration,
    Declares lines line declaration ∧
      declared = variableOn line declaration ∧
      ∀ other otherDeclaration,
        Declares lines other otherDeclaration →
          otherDeclaration.name = declared.name → line.number ≤ other.number

/-! ## Collecting declarations -/

/-- Declarations are in the order of their lines, with at most one on a line. -/
theorem lines_declarationsFrom_sublist
    (inside : Bool)
    (lines : List Line) :
    ((declarationsFrom inside lines).map Variable.line).Sublist (lines.map Line.number) := by
  fun_induction declarationsFrom inside lines with
  | case1 inside =>
      exact .slnil
  | case2 inside line rest isBlank inductionHypothesis =>
      exact inductionHypothesis.cons _
  | case3 inside line rest isCode opens inductionHypothesis =>
      exact inductionHypothesis.cons _
  | case4 inside line rest isCode notOpener declaration declares counts inductionHypothesis =>
      exact inductionHypothesis.cons_cons _
  | case5 inside line rest isCode notOpener declaration declares skipped inductionHypothesis =>
      exact inductionHypothesis.cons _
  | case6 inside line rest isCode notOpener declaresNothing inductionHypothesis =>
      exact inductionHypothesis.cons _

/-- What some lines declare when a block may be open before them: a declaration without a type
counts when none is open and none is opened earlier. -/
def Collects (inside : Bool) (lines : List Line) (declared : Variable) : Prop :=
  ∃ line ∈ lines, ∃ declaration,
    IsDeclaration line declaration ∧
      (declaration.type ≠ .unknown ∨ inside = false ∧ BeforeOpeners lines line) ∧
      declared = variableOn line declaration

section Step

variable {first : Line} {rest : List Line}
  (sorted : (first :: rest).Pairwise fun earlier later => earlier.number < later.number)

include sorted

/-- What lines declare when the first one is no opener. -/
theorem collects_cons_of_not_opener
    (notOpener : Opener.ofCode? first.code = none)
    (inside : Bool)
    (declared : Variable) :
    Collects inside (first :: rest) declared ↔
      (∃ declaration,
        IsDeclaration first declaration ∧
          (declaration.type ≠ .unknown ∨ inside = false) ∧
          declared = variableOn first declaration) ∨
        Collects inside rest declared := by
  have sameOpeners (line : Line) :
      BeforeOpeners (first :: rest) line ↔ BeforeOpeners rest line := by
    simp [BeforeOpeners, notOpener]
  have isBefore : BeforeOpeners rest first := fun opener member _ =>
    List.rel_of_pairwise_cons sorted member
  simp only [Collects, List.exists_mem_cons_iff, sameOpeners, isBefore, and_true]

/-- After an opener only declarations with a type count. -/
theorem collects_cons_of_opener
    (opens : (Opener.ofCode? first.code).isSome = true)
    (inside : Bool)
    (declared : Variable) :
    Collects inside (first :: rest) declared ↔ Collects true rest declared := by
  have noDeclaration (declaration : Declaration) : ¬IsDeclaration first declaration := by
    intro isDeclaration
    simp [isDeclaration.notOpener] at opens
  have notBefore {line : Line} (isLater : line ∈ rest) : ¬BeforeOpeners (first :: rest) line := by
    intro isBefore
    exact Nat.lt_asymm (isBefore first List.mem_cons_self opens)
      (List.rel_of_pairwise_cons sorted isLater)
  simp only [Collects, List.exists_mem_cons_iff, noDeclaration, false_and, exists_false, false_or,
    Bool.true_eq_false, or_false]
  refine exists_congr fun line => and_congr_right fun isLater => ?_
  simp only [notBefore isLater, and_false, or_false]

end Step

/-- The declarations of lines are what they declare. -/
theorem mem_declarationsFrom_iff
    {lines : List Line}
    (sorted : lines.Pairwise fun earlier later => earlier.number < later.number)
    (inside : Bool)
    (declared : Variable) :
    declared ∈ declarationsFrom inside lines ↔ Collects inside lines declared := by
  fun_induction declarationsFrom inside lines with
  | case1 inside =>
      simp [Collects]
  | case2 inside line rest isBlank inductionHypothesis =>
      rw [inductionHypothesis sorted.of_cons,
        collects_cons_of_not_opener sorted (Opener.ofCode?_of_isBlank isBlank), iff_or_self]
      rintro ⟨declaration, isDeclaration, _⟩
      simp [isDeclaration.isCode] at isBlank
  | case3 inside line rest isCode opens inductionHypothesis =>
      rw [inductionHypothesis sorted.of_cons, collects_cons_of_opener sorted opens]
  | case4 inside line rest isCode notOpener declaration declares counts inductionHypothesis =>
      have opensNothing : Opener.ofCode? line.code = none := by
        simpa using notOpener
      rw [List.mem_cons, inductionHypothesis sorted.of_cons,
        collects_cons_of_not_opener sorted opensNothing]
      refine or_congr_left ⟨fun isDeclared => ?_, ?_⟩
      · exact ⟨declaration, ⟨by simpa using isCode, opensNothing, declares⟩, by simpa using counts,
          isDeclared⟩
      · rintro ⟨other, isDeclaration, _, isDeclared⟩
        cases declares.symm.trans isDeclaration.declares
        exact isDeclared
  | case5 inside line rest isCode notOpener declaration declares skipped inductionHypothesis =>
      rw [inductionHypothesis sorted.of_cons,
        collects_cons_of_not_opener sorted (by simpa using notOpener), iff_or_self]
      rintro ⟨other, isDeclaration, otherCounts, _⟩
      cases declares.symm.trans isDeclaration.declares
      simp [otherCounts] at skipped
  | case6 inside line rest isCode notOpener declaresNothing inductionHypothesis =>
      rw [inductionHypothesis sorted.of_cons,
        collects_cons_of_not_opener sorted (by simpa using notOpener), iff_or_self]
      rintro ⟨declaration, isDeclaration, _⟩
      cases declaresNothing.symm.trans isDeclaration.declares

/-! ## First declarations -/

/-- The declarations of a script are on ascending lines. -/
theorem pairwise_line_declarationsFrom
    (script : Text) :
    (declarationsFrom false (Line.ofScript script)).Pairwise
      fun earlier later => earlier.line < later.line := by
  have numbers : ((Line.ofScript script).map Line.number).Pairwise (· < ·) :=
    List.pairwise_map.mpr (pairwise_number_ofScript script)
  exact List.pairwise_map.mp (numbers.sublist (lines_declarationsFrom_sublist false _))

/-- The variables of a script are on ascending lines. -/
theorem pairwise_line_declared
    (script : Text) :
    (ofScript script).declared.Pairwise fun earlier later => earlier.line < later.line :=
  (pairwise_line_declarationsFrom script).sublist (eraseDupsBy_sublist Variable.name _)

/-- No variable is listed twice. -/
theorem nodup_name_declared
    (script : Text) :
    ((ofScript script).declared.map Variable.name).Nodup :=
  nodup_map_eraseDupsBy Variable.name _

/-- A script declares each variable once. -/
theorem variableNamed?_eq_some_iff
    {script name : Text}
    {declared : Variable} :
    (ofScript script).variableNamed? name = some declared ↔
      declared ∈ (ofScript script).declared ∧ declared.name = name :=
  find?_key_eq_some_iff (nodup_name_declared script)

/-- The declarations of a script are those that its lines make. -/
theorem mem_declarationsFrom_ofScript_iff
    {script : Text}
    {declared : Variable} :
    declared ∈ declarationsFrom false (Line.ofScript script) ↔
      ∃ line declaration,
        Declares (Line.ofScript script) line declaration ∧
          declared = variableOn line declaration := by
  rw [mem_declarationsFrom_iff (pairwise_number_ofScript script)]
  constructor
  · rintro ⟨line, isLine, declaration, isDeclaration, counts, isDeclared⟩
    exact ⟨line, declaration, ⟨isLine, isDeclaration, by simpa using counts⟩, isDeclared⟩
  · rintro ⟨line, declaration, declares, isDeclared⟩
    exact ⟨line, declares.isLine, declaration, declares.isDeclaration,
      by simpa using declares.counts, isDeclared⟩

/-- The variables of a script are those that are declared first. -/
theorem mem_declared_iff
    {script : Text}
    {declared : Variable} :
    declared ∈ (ofScript script).declared ↔ IsFirstDeclared (Line.ofScript script) declared := by
  have inOrder := pairwise_line_declarationsFrom script
  have isKept :
      declared ∈ (ofScript script).declared ↔
        (declarationsFrom false (Line.ofScript script)).find?
          (fun other => other.name == declared.name) = some declared :=
    mem_eraseDupsBy_iff
  rw [isKept]
  constructor
  · intro isFirst
    obtain ⟨line, declaration, declares, isDeclared⟩ :=
      mem_declarationsFrom_ofScript_iff.mp (List.mem_of_find?_eq_some isFirst)
    refine ⟨line, declaration, declares, isDeclared, ?_⟩
    intro other otherDeclaration otherDeclares sameName
    have isLater := le_of_find?_eq_some (inOrder.imp Nat.le_of_lt) isFirst
      (mem_declarationsFrom_ofScript_iff.mpr ⟨other, otherDeclaration, otherDeclares, rfl⟩)
      (beq_iff_eq.mpr sameName)
    rwa [isDeclared] at isLater
  · rintro ⟨line, declaration, declares, isDeclared, isFirst⟩
    have member := mem_declarationsFrom_ofScript_iff.mpr ⟨line, declaration, declares, isDeclared⟩
    have isSome :
        ((declarationsFrom false (Line.ofScript script)).find?
          fun other => other.name == declared.name).isSome = true :=
      List.find?_isSome.mpr ⟨declared, member, beq_self_eq_true _⟩
    obtain ⟨found, isFound⟩ := Option.isSome_iff_exists.mp isSome
    have inDeclarations := List.mem_of_find?_eq_some isFound
    have sameName : found.name = declared.name := by
      simpa using List.find?_some isFound
    have notLater : found.line ≤ declared.line :=
      le_of_find?_eq_some (inOrder.imp Nat.le_of_lt) isFound member (beq_self_eq_true _)
    have notEarlier : declared.line ≤ found.line := by
      obtain ⟨other, otherDeclaration, otherDeclares, isOther⟩ :=
        mem_declarationsFrom_ofScript_iff.mp inDeclarations
      rw [isOther] at sameName ⊢
      rw [isDeclared]
      exact isFirst other otherDeclaration otherDeclares sameName
    have linesDiffer :
        ((declarationsFrom false (Line.ofScript script)).map Variable.line).Nodup :=
      List.pairwise_map.mpr (inOrder.imp Nat.ne_of_lt)
    rw [isFound, List.inj_on_of_nodup_map linesDiffer inDeclarations member
      (Nat.le_antisymm notLater notEarlier)]

/-- The table of variables is exact.  A name is in it when some line declares it; its variable
has the number, the type and the value of the first line that does, whatever lines declare it
later; and the variables stand in the order of their lines. -/
theorem declared_ofScript_iff
    (script : Text) :
    (∀ name,
      name ∈ (ofScript script).declared.map Variable.name ↔
        ∃ line declaration,
          Declares (Line.ofScript script) line declaration ∧ declaration.name = name) ∧
      (∀ declared,
        declared ∈ (ofScript script).declared ↔
          IsFirstDeclared (Line.ofScript script) declared) ∧
      (∀ name declared,
        (ofScript script).variableNamed? name = some declared ↔
          declared.name = name ∧ IsFirstDeclared (Line.ofScript script) declared) ∧
      (ofScript script).declared.Pairwise (fun earlier later => earlier.line < later.line) := by
  refine ⟨fun name => ?_, fun declared => mem_declared_iff, fun name declared => ?_,
    pairwise_line_declared script⟩
  · have isKept :
        name ∈ (ofScript script).declared.map Variable.name ↔
          name ∈ (declarationsFrom false (Line.ofScript script)).map Variable.name :=
      mem_map_eraseDupsBy_iff
    rw [isKept, List.mem_map]
    constructor
    · rintro ⟨declared, member, rfl⟩
      obtain ⟨line, declaration, declares, rfl⟩ := mem_declarationsFrom_ofScript_iff.mp member
      exact ⟨line, declaration, declares, rfl⟩
    · rintro ⟨line, declaration, declares, rfl⟩
      exact ⟨variableOn line declaration,
        mem_declarationsFrom_ofScript_iff.mpr ⟨line, declaration, declares, rfl⟩, rfl⟩
  · rw [variableNamed?_eq_some_iff, mem_declared_iff, and_comm]

/-- The first `z` is assigned inside a block, where nothing is declared without a type. -/
example :
    let script : Text := "x = 1\nint y = 2\nA::\nz = 3\nbool x = true\nfloat y = 1\nint z = 4"
    ((ofScript script).declared.map fun declared => (declared.name, declared.type, declared.line)) =
      ([("x", .unknown, 1), ("y", .int, 2), ("z", .int, 7)] :
        List (Text × VariableType × Nat)) := by
  decide +kernel

end Outline

end MissionLint
