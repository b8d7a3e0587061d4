import Mathlib.Data.Set.Card
import Mathlib.Order.Bounds.Basic
import MissionLint.Analysis.Lock
import MissionLint.Proofs.Script.Blocks
import MissionLint.Proofs.Script.Literal
import MissionLint.Proofs.Script.VariableTable

namespace MissionLint

/-!
# The idioms of locks

Each idiom is a condition on all lines of a script at once: that something is written on
some line, or that it is written on none.  The search for locks finds the variables that
follow an idiom, under the first idiom that they follow and with the line that belongs to
it, and puts them in the order of lines and names.
-/

namespace Comparison

/-- A comparison has a name on one side and another operand on the other. -/
def Joins (comparison : Comparison) (name other : Text) : Prop :=
  comparison.left = name ∧ comparison.right = other ∨
    comparison.left = other ∧ comparison.right = name

/-- A comparison has a name on one side and its opposite on the other. -/
theorem opposite?_eq_some_iff
    {comparison : Comparison}
    {name other : Text} :
    comparison.opposite? name = some other ↔ comparison.Joins name other := by
  unfold opposite? Joins
  simp only [beq_iff_eq]
  split
  case isTrue onLeft =>
    simp only [Option.some.injEq, onLeft, true_and, iff_self_or]
    rintro ⟨rfl, isName⟩
    exact isName
  case isFalse notOnLeft =>
    split
    case isTrue onRight =>
      simp [notOnLeft, onRight]
    case isFalse notOnRight =>
      simp [notOnLeft, notOnRight]

end Comparison

namespace LockPattern

/-! ## Cooldowns -/

/-- A line assigns a variable an increment of itself. -/
def IncrementedOn (name : Text) (line : Line) : Prop :=
  ∃ text amount,
    ⟨name, text⟩ ∈ Assignment.inCode line.code ∧
      Increment.ofValue? text = .ok (some (name, amount))

/-- A trigger of a line bounds a variable by `time`, from above or from below. -/
def TimedOn (name : Text) (line : Line) : Prop :=
  ∃ comparison ∈ comparisonsOn line,
    (comparison.operator = .atMost ∨ comparison.operator = .atLeast) ∧
      comparison.Joins name "time"

/-- The cooldown idiom, with the first line that bounds the variable by `time`.  The variable
need not be declared. -/
structure IsCooldown (outline : Outline) (name : Text) (number : Nat) : Prop where
  incremented : ∃ line ∈ outline.lines, IncrementedOn name line
  isLeast :
    IsLeast {number | ∃ line ∈ outline.lines, line.number = number ∧ TimedOn name line} number

/-- The names that are listed for a line are those that it increments. -/
theorem mem_incrementedOn_iff
    {line : Line}
    {names : List Text}
    (returns : incrementedOn line = .ok names)
    {name : Text} :
    name ∈ names ↔ IncrementedOn name line := by
  obtain ⟨read, isRead, isNames⟩ := Outcome.exists_of_bind returns
  cases isNames
  simp only [List.mem_filterMap, id_eq, exists_eq_right, Outcome.mem_mapM_iff isRead]
  constructor
  · rintro ⟨assignment, member, isResult⟩
    obtain ⟨increment, reads, isKept⟩ := Outcome.exists_of_bind isResult
    obtain ⟨isMapped, sameName⟩ := Option.filter_eq_some_iff.mp (Except.ok.inj isKept)
    obtain ⟨⟨incremented, amount⟩, rfl, rfl⟩ := Option.map_eq_some_iff.mp isMapped
    obtain rfl : incremented = assignment.name := eq_of_beq sameName
    exact ⟨assignment.value, amount, member, reads⟩
  · rintro ⟨text, amount, member, reads⟩
    refine ⟨⟨name, text⟩, member, ?_⟩
    rw [reads]
    simp [bind, Except.bind, pure, Except.pure]

/-- A comparison times a name when it bounds the name by the time or the time by it. -/
theorem timedSide?_eq_some_iff
    {comparison : Comparison}
    {name : Text} :
    timedSide? comparison = some name ↔
      (comparison.operator = .atMost ∨ comparison.operator = .atLeast) ∧
        comparison.Joins name "time" := by
  unfold timedSide? Comparison.Joins
  by_cases bounds : comparison.operator = .atMost ∨ comparison.operator = .atLeast
  · simp only [Bool.or_eq_true, beq_iff_eq, bounds, if_true, true_and]
    split
    case isTrue onRight =>
      simp only [Option.some.injEq, onRight, and_true, iff_self_or]
      rintro ⟨onLeft, isName⟩
      rw [onLeft, isName]
    case isFalse notOnRight =>
      split
      case isTrue onLeft =>
        simp [notOnRight, onLeft]
      case isFalse notOnLeft =>
        simp [notOnRight, notOnLeft]
  · simp [bounds]

/-- The candidates of a line are the names that it times, with its number. -/
theorem mem_timedOn_iff
    {line : Line}
    {candidate : Candidate} :
    candidate ∈ timedOn line ↔ line.number = candidate.line ∧ TimedOn candidate.name line := by
  unfold timedOn TimedOn
  simp only [List.mem_filterMap, Option.map_eq_some_iff, timedSide?_eq_some_iff]
  constructor
  · rintro ⟨comparison, member, name, timed, rfl⟩
    exact ⟨rfl, comparison, member, timed⟩
  · rintro ⟨isLine, comparison, member, timed⟩
    exact ⟨comparison, member, candidate.name, timed, by rw [isLine]⟩

/-- The first candidate of a name is the one with the least line, where the candidates are
in the order of their lines. -/
theorem mem_firstOfName_iff
    {candidates : List Candidate}
    (inOrder : candidates.Pairwise fun earlier later => earlier.line ≤ later.line)
    {candidate : Candidate} :
    candidate ∈ firstOfName candidates ↔
      IsLeast {number | ⟨candidate.name, number⟩ ∈ candidates} candidate.line := by
  unfold firstOfName
  rw [mem_eraseDupsBy_iff]
  constructor
  · intro found
    refine ⟨List.mem_of_find?_eq_some found, fun number member => ?_⟩
    exact le_of_find?_eq_some inOrder found member (by simp)
  · rintro ⟨member, isLeast⟩
    have isSome :
        (candidates.find? fun other => other.name == candidate.name).isSome = true :=
      List.find?_isSome.mpr ⟨candidate, member, by simp⟩
    obtain ⟨first, found⟩ := Option.isSome_iff_exists.mp isSome
    have sameName : first.name = candidate.name := by
      simpa using List.find?_some found
    have notLater : first.line ≤ candidate.line :=
      le_of_find?_eq_some inOrder found member (by simp)
    have notEarlier : candidate.line ≤ first.line := by
      have isKnown : ⟨candidate.name, first.line⟩ ∈ candidates := by
        rw [← sameName]
        exact List.mem_of_find?_eq_some found
      exact isLeast isKnown
    have isCandidate : first = candidate := by
      obtain ⟨name, line⟩ := first
      exact congrArg₂ Candidate.mk sameName (Nat.le_antisymm notLater notEarlier)
    rw [found, isCandidate]

/-- The candidates of an idiom are the variables that follow it, each with one line. -/
structure Lists (follows : Text → Nat → Prop) (candidates : List Candidate) : Prop where
  mem_iff : ∀ candidate, candidate ∈ candidates ↔ follows candidate.name candidate.line
  distinct : (candidates.map Candidate.name).Nodup

/-- The cooldowns are the variables that follow their idiom. -/
theorem lists_cooldowns
    {script : Text}
    {cooling : List Candidate}
    (returns : cooldowns (Outline.ofScript script) = .ok cooling) :
    Lists (IsCooldown (Outline.ofScript script)) cooling := by
  obtain ⟨incremented, isIncremented, isCooling⟩ := Outcome.exists_of_bind returns
  cases isCooling
  have inOrder :
      ((Outline.ofScript script).lines.flatMap timedOn).Pairwise
        fun earlier later => earlier.line ≤ later.line := by
    rw [List.pairwise_flatMap]
    constructor
    · intro line _
      refine List.Pairwise.imp_of_mem ?_ (List.pairwise_of_forall fun _ _ => trivial)
      intro earlier later isEarlier isLater _
      rw [← (mem_timedOn_iff.mp isEarlier).1, ← (mem_timedOn_iff.mp isLater).1]
    · refine (Line.pairwise_number_numberFrom 1 _).imp ?_
      intro first second grows earlier isEarlier later isLater
      rw [← (mem_timedOn_iff.mp isEarlier).1, ← (mem_timedOn_iff.mp isLater).1]
      exact Nat.le_of_lt grows
  have isIncrementedName (name : Text) :
      name ∈ incremented.flatten ↔
        ∃ line ∈ (Outline.ofScript script).lines, IncrementedOn name line := by
    rw [List.mem_flatten]
    constructor
    · rintro ⟨names, isResult, member⟩
      obtain ⟨line, isLine, onLine⟩ := (Outcome.mem_mapM_iff isIncremented).mp isResult
      exact ⟨line, isLine, (mem_incrementedOn_iff onLine).mp member⟩
    · rintro ⟨line, isLine, onLine⟩
      obtain ⟨names, isResult⟩ := Outcome.exists_ok_of_mapM isIncremented isLine
      exact ⟨names, (Outcome.mem_mapM_iff isIncremented).mpr ⟨line, isLine, isResult⟩,
        (mem_incrementedOn_iff isResult).mpr onLine⟩
  constructor
  · intro candidate
    rw [List.mem_filter, mem_firstOfName_iff inOrder, List.contains_iff_mem, isIncrementedName]
    simp only [List.mem_flatMap, mem_timedOn_iff]
    exact ⟨fun both => ⟨both.2, both.1⟩, fun follows => ⟨follows.isLeast, follows.incremented⟩⟩
  · exact (List.filter_sublist.map Candidate.name).nodup (nodup_map_eraseDupsBy Candidate.name _)

/-! ## One-time events -/

/-- A line assigns a truth value, in any case, to a variable. -/
def AssignedOn (name word : Text) (line : Line) : Prop :=
  ∃ text, ⟨name, text⟩ ∈ Assignment.inCode line.code ∧ Text.lower text = word

/-- A trigger of a line compares a variable with an operand by equality. -/
def EqualledOn (name other : Text) (line : Line) : Prop :=
  ∃ comparison ∈ comparisonsOn line,
    comparison.operator = .equal ∧ comparison.Joins name other

/-- The idiom of an event that happens once, with the line of the declaration. -/
structure IsOneTimeEvent (outline : Outline) (name : Text) (number : Nat) : Prop where
  flag : ∃ declared,
    outline.variableNamed? name = some declared ∧ declared.type = .bool ∧
      declared.initial = .flag false ∧ declared.line = number
  set : ∃ line ∈ outline.lines, AssignedOn name "true" line
  tested : ∃ line ∈ outline.lines, ∃ other, EqualledOn name other line ∧ Text.lower other = "false"
  neverReset : ∀ line ∈ outline.lines, ¬AssignedOn name "false" line

/-- Only the flag that is not set is false. -/
theorem isFalse_eq_true_iff
    (initial : InitialValue) :
    initial.isFalse = true ↔ initial = .flag false := by
  cases initial with
  | flag value =>
      cases value <;>
        simp [InitialValue.isFalse]
  | integer value =>
      simp [InitialValue.isFalse]
  | real value =>
      simp [InitialValue.isFalse]
  | text value =>
      simp [InitialValue.isFalse]

/-- A line assigns a word to a name when one of its assignments does, in any case of letters. -/
theorem assignsWord_eq_true_iff
    {name word : Text}
    {line : Line} :
    assignsWord name word line = true ↔ AssignedOn name word line := by
  simp only [assignsWord, AssignedOn, List.any_eq_true, Bool.and_eq_true, beq_iff_eq]
  constructor
  · rintro ⟨assignment, member, rfl, isWord⟩
    exact ⟨assignment.value, member, isWord⟩
  · rintro ⟨text, member, isWord⟩
    exact ⟨⟨name, text⟩, member, rfl, isWord⟩

/-- A line compares a name with false when it equates it with that word, in any case of letters. -/
theorem comparesWithFalse_eq_true_iff
    {name : Text}
    {line : Line} :
    comparesWithFalse name line = true ↔
      ∃ other, EqualledOn name other line ∧ Text.lower other = "false" := by
  simp only [comparesWithFalse, EqualledOn, List.any_eq_true, Bool.and_eq_true, beq_iff_eq,
    Option.any_eq_true, Comparison.opposite?_eq_some_iff]
  constructor
  · rintro ⟨comparison, member, isEqual, other, joins, isFalse⟩
    exact ⟨other, ⟨comparison, member, isEqual, joins⟩, isFalse⟩
  · rintro ⟨other, ⟨comparison, member, isEqual, joins⟩, isFalse⟩
    exact ⟨comparison, member, isEqual, other, joins, isFalse⟩

/-- Candidates that are made of declared variables have distinct names. -/
theorem nodup_name_of_declared
    {script : Text}
    {chosen : List Variable}
    (areDeclared : chosen.Sublist (Outline.ofScript script).declared) :
    ((chosen.map fun declared => (⟨declared.name, declared.line⟩ : Candidate)).map
      Candidate.name).Nodup := by
  rw [List.map_map]
  exact (areDeclared.map Variable.name).nodup (Outline.nodup_name_declared script)

/-- The one-time events are the variables that follow their idiom. -/
theorem lists_oneTimeEvents
    (script : Text) :
    Lists (IsOneTimeEvent (Outline.ofScript script)) (oneTimeEvents (Outline.ofScript script)) := by
  constructor
  · rintro ⟨name, number⟩
    unfold oneTimeEvents Outline.variablesOfType
    simp only [List.mem_map, List.mem_filter, Bool.and_eq_true, Bool.not_eq_true', List.any_eq_true,
      List.any_eq_false, assignsWord_eq_true_iff, comparesWithFalse_eq_true_iff,
      isFalse_eq_true_iff, beq_iff_eq, Candidate.mk.injEq]
    constructor
    · rintro ⟨declared, ⟨⟨⟨member, isFlag⟩, isFalse⟩, ⟨isSet, isTested⟩, neverReset⟩, rfl, rfl⟩
      have named := Outline.variableNamed?_eq_some_iff.mpr ⟨member, rfl⟩
      exact ⟨⟨declared, named, isFlag, isFalse, rfl⟩, isSet, isTested, neverReset⟩
    · rintro ⟨⟨declared, named, isFlag, isFalse, rfl⟩, isSet, isTested, neverReset⟩
      obtain ⟨member, rfl⟩ := Outline.variableNamed?_eq_some_iff.mp named
      exact ⟨declared, ⟨⟨⟨member, isFlag⟩, isFalse⟩, ⟨isSet, isTested⟩, neverReset⟩, rfl, rfl⟩
  · apply nodup_name_of_declared
    exact List.filter_sublist.trans (List.filter_sublist.trans List.filter_sublist)

/-! ## Exclusive states -/

/-- A script assigns an integer literal to a variable, or compares the variable with it by
equality in a trigger. -/
def Takes (outline : Outline) (name : Text) (value : Int) : Prop :=
  ∃ line ∈ outline.lines, ∃ text,
    (⟨name, text⟩ ∈ Assignment.inCode line.code ∨ EqualledOn name text line) ∧
      IntegerLiteral.ofText? text = .ok (some value)

/-- The exclusive state idiom, with the line of the declaration. -/
structure IsExclusiveState (outline : Outline) (name : Text) (number : Nat) : Prop where
  integer : ∃ declared,
    outline.variableNamed? name = some declared ∧ declared.type = .int ∧ declared.line = number
  values : 3 ≤ {value | Takes outline name value}.encard

/-- The values of a name on a line are those that it is assigned and those that it is equated
with. -/
theorem mem_valuesOn_iff
    {names : List Text}
    {line : Line}
    {name text : Text} :
    (name, text) ∈ valuesOn names line ↔
      name ∈ names ∧ (⟨name, text⟩ ∈ Assignment.inCode line.code ∨ EqualledOn name text line) := by
  unfold valuesOn EqualledOn
  simp only [List.mem_append, List.mem_filterMap, List.mem_flatMap]
  constructor
  · rintro (⟨assignment, member, isPair⟩ | ⟨comparison, member, isPair⟩)
    · split at isPair
      case isTrue known =>
        cases isPair
        exact ⟨List.contains_iff_mem.mp known, .inl member⟩
      case isFalse =>
        cases isPair
    · split at isPair
      case isTrue isEqual =>
        obtain ⟨known, isKnown, isOpposite⟩ := List.mem_filterMap.mp isPair
        obtain ⟨other, opposite, isSame⟩ := Option.map_eq_some_iff.mp isOpposite
        cases isSame
        exact ⟨isKnown, .inr ⟨comparison, member, eq_of_beq isEqual,
          Comparison.opposite?_eq_some_iff.mp opposite⟩⟩
      case isFalse =>
        cases isPair
  · rintro ⟨known, assigned | ⟨comparison, member, isEqual, joins⟩⟩
    · refine .inl ⟨⟨name, text⟩, assigned, ?_⟩
      simp [known]
    · refine .inr ⟨comparison, member, ?_⟩
      simp [isEqual, known, Comparison.opposite?_eq_some_iff.mpr joins]

/-- A list without repeats is as long as the set of its members is large. -/
theorem le_encard_iff
    {isValue : Int → Prop}
    {values : List Int}
    (mem_iff : ∀ value, value ∈ values ↔ isValue value)
    (count : Nat) :
    count ≤ {value | isValue value}.encard ↔ count ≤ values.eraseDups.length := by
  have members : {value | isValue value} = (values.eraseDups.toFinset : Set Int) := by
    ext value
    simp [mem_iff]
  rw [members, Set.encard_coe_eq_coe_finsetCard,
    List.toFinset_card_of_nodup (nodup_eraseDups values), Nat.cast_le]

/-- The exclusive states are the variables that follow their idiom. -/
theorem lists_exclusiveStates
    {script : Text}
    {exclusive : List Candidate}
    (returns : exclusiveStates (Outline.ofScript script) = .ok exclusive) :
    Lists (IsExclusiveState (Outline.ofScript script)) exclusive := by
  obtain ⟨seen, isSeen, isExclusive⟩ := Outcome.exists_of_bind returns
  cases isExclusive
  have seen_iff {declared : Variable}
      (isInteger : declared ∈ (Outline.ofScript script).variablesOfType .int)
      (value : Int) :
      (declared.name, value) ∈ seen ↔ Takes (Outline.ofScript script) declared.name value := by
    have known := List.mem_map_of_mem (f := Variable.name) isInteger
    rw [IntegerLiteral.mem_integersOf_iff isSeen]
    simp only [List.mem_flatMap, mem_valuesOn_iff, known, true_and]
    constructor
    · rintro ⟨text, ⟨line, isLine, onLine⟩, reads⟩
      exact ⟨line, isLine, text, onLine, reads⟩
    · rintro ⟨line, isLine, text, onLine, reads⟩
      exact ⟨text, ⟨line, isLine, onLine⟩, reads⟩
  constructor
  · rintro ⟨name, number⟩
    simp only [List.mem_map, List.mem_filter, Candidate.mk.injEq, decide_eq_true_eq]
    constructor
    · rintro ⟨declared, ⟨isInteger, manyValues⟩, rfl, rfl⟩
      obtain ⟨member, isInt⟩ := List.mem_filter.mp isInteger
      have named := Outline.variableNamed?_eq_some_iff.mpr ⟨member, rfl⟩
      refine ⟨⟨declared, named, eq_of_beq isInt, rfl⟩, (le_encard_iff ?_ 3).mpr manyValues⟩
      simp [List.mem_filterMap, seen_iff isInteger]
    · rintro ⟨⟨declared, named, isInt, rfl⟩, manyValues⟩
      obtain ⟨member, rfl⟩ := Outline.variableNamed?_eq_some_iff.mp named
      have isInteger : declared ∈ (Outline.ofScript script).variablesOfType .int :=
        List.mem_filter.mpr ⟨member, beq_iff_eq.mpr isInt⟩
      refine ⟨declared, ⟨isInteger, (le_encard_iff ?_ 3).mp manyValues⟩, rfl, rfl⟩
      simp [List.mem_filterMap, seen_iff isInteger]
  · apply nodup_name_of_declared
    exact List.filter_sublist.trans List.filter_sublist

/-! ## The first idiom of a variable -/

/-- A variable follows an idiom, with a line that belongs to it. -/
def Follows (outline : Outline) : LockKind → Text → Nat → Prop
  | .globalCooldown => IsCooldown outline
  | .oneTimeEvent => IsOneTimeEvent outline
  | .exclusiveState => IsExclusiveState outline

/-- The place of an idiom in the order in which they are looked for. -/
def rank : LockKind → Nat
  | .globalCooldown => 0
  | .oneTimeEvent => 1
  | .exclusiveState => 2

/-- A lock describes its variable: it has the first idiom that the variable follows, a line
that belongs to this idiom, and the events that mention the variable. -/
structure Describes (outline : Outline) (pattern : LockPattern) : Prop where
  follows : Follows outline pattern.kind pattern.variableName pattern.line
  isFirst : ∀ kind number,
    rank kind < rank pattern.kind → ¬Follows outline kind pattern.variableName number
  related : pattern.relatedEvents = outline.eventsMentioning pattern.variableName

/-- A variable that follows an idiom is described by some lock. -/
theorem exists_describes
    {outline : Outline}
    {name : Text}
    (follows : ∃ kind number, Follows outline kind name number) :
    ∃ pattern, Describes outline pattern ∧ pattern.variableName = name := by
  obtain ⟨kind, ⟨number, follows⟩, isFirst⟩ :=
    (measure rank).wf.has_min {kind | ∃ number, Follows outline kind name number} follows
  refine ⟨⟨name, number, kind, outline.eventsMentioning name⟩, ⟨follows, ?_, rfl⟩, rfl⟩
  intro other otherNumber earlier followsOther
  exact isFirst other ⟨otherNumber, followsOther⟩ earlier

/-- The locks that candidates of an idiom make. -/
def ofCandidates
    (outline : Outline)
    (kind : LockKind)
    (candidates : List Candidate) :
    List LockPattern :=
  candidates.map fun candidate =>
    ⟨candidate.name, candidate.line, kind, outline.eventsMentioning candidate.name⟩

section Lists

variable {outline : Outline} {kind : LockKind} {candidates : List Candidate}

/-- The lock that is found for a variable among those of one idiom. -/
theorem Lists.find?_eq_some_iff
    (lists : Lists (Follows outline kind) candidates)
    {pattern : LockPattern} :
    (ofCandidates outline kind candidates).find?
        (fun other => other.variableName == pattern.variableName) = some pattern ↔
      pattern.kind = kind ∧ Follows outline kind pattern.variableName pattern.line ∧
        pattern.relatedEvents = outline.eventsMentioning pattern.variableName := by
  have distinct : ((ofCandidates outline kind candidates).map variableName).Nodup := by
    rw [ofCandidates, List.map_map]
    exact lists.distinct
  rw [find?_key_eq_some_iff distinct, and_iff_left rfl, ofCandidates, List.mem_map]
  constructor
  · rintro ⟨candidate, member, rfl⟩
    exact ⟨rfl, (lists.mem_iff candidate).mp member, rfl⟩
  · rintro ⟨isKind, follows, isRelated⟩
    refine ⟨⟨pattern.variableName, pattern.line⟩, (lists.mem_iff _).mpr follows, ?_⟩
    rw [← isKind, ← isRelated]

/-- No lock is found for a variable that does not follow the idiom. -/
theorem Lists.find?_eq_none_iff
    (lists : Lists (Follows outline kind) candidates)
    {name : Text} :
    (ofCandidates outline kind candidates).find? (fun other => other.variableName == name) = none ↔
      ∀ number, ¬Follows outline kind name number := by
  simp only [List.find?_eq_none, ofCandidates, List.forall_mem_map, beq_iff_eq]
  constructor
  · intro absent number follows
    exact absent ⟨name, number⟩ ((lists.mem_iff _).mpr follows) rfl
  · rintro absent candidate member rfl
    exact absent candidate.line ((lists.mem_iff candidate).mp member)

end Lists

/-- Where the idioms come in their order, the first lock of each variable describes it.  A
variable is found in the list of one idiom when the lists before it lack its name. -/
theorem mem_firstOfVariable_iff
    {outline : Outline}
    {cooling oneTime exclusive : List Candidate}
    (listsCooling : Lists (Follows outline .globalCooldown) cooling)
    (listsOneTime : Lists (Follows outline .oneTimeEvent) oneTime)
    (listsExclusive : Lists (Follows outline .exclusiveState) exclusive)
    (pattern : LockPattern) :
    (pattern ∈ (ofCandidates outline .globalCooldown cooling
        ++ ofCandidates outline .oneTimeEvent oneTime
        ++ ofCandidates outline .exclusiveState exclusive).eraseDupsBy
      fun left right => left.variableName == right.variableName) ↔
      Describes outline pattern := by
  rw [mem_eraseDupsBy_iff, List.find?_append, List.find?_append, Option.or_eq_some_iff,
    Option.or_eq_some_iff, Option.or_eq_none_iff, listsCooling.find?_eq_some_iff,
    listsOneTime.find?_eq_some_iff, listsExclusive.find?_eq_some_iff,
    listsCooling.find?_eq_none_iff, listsOneTime.find?_eq_none_iff]
  constructor
  · rintro ((⟨isKind, follows, related⟩ | ⟨noCooldown, isKind, follows, related⟩) |
      ⟨⟨noCooldown, notOneTime⟩, isKind, follows, related⟩)
    all_goals
      refine ⟨isKind ▸ follows, fun kind number earlier => ?_, related⟩
      rw [isKind] at earlier
      cases kind <;>
        simp [rank] at earlier
    · exact noCooldown number
    · exact noCooldown number
    · exact notOneTime number
  · rintro ⟨follows, isFirst, related⟩
    cases isKind : pattern.kind with
    | globalCooldown =>
        rw [isKind] at follows
        exact .inl (.inl ⟨rfl, follows, related⟩)
    | oneTimeEvent =>
        rw [isKind] at follows isFirst
        have noCooldown (number : Nat) := isFirst .globalCooldown number (by decide)
        exact .inl (.inr ⟨noCooldown, rfl, follows, related⟩)
    | exclusiveState =>
        rw [isKind] at follows isFirst
        have noCooldown (number : Nat) := isFirst .globalCooldown number (by decide)
        have notOneTime (number : Nat) := isFirst .oneTimeEvent number (by decide)
        exact .inr ⟨⟨noCooldown, notOneTime⟩, rfl, follows, related⟩

/-! ## The order of locks -/

/-- Locks are ordered by line and then by name. -/
theorem ordered_eq_true_iff
    {left right : LockPattern} :
    ordered left right = true ↔
      left.line < right.line ∨
        left.line = right.line ∧ Text.ordered left.variableName right.variableName = true := by
  simp [ordered]

/-- The order of locks is transitive. -/
theorem ordered_trans
    (first second third : LockPattern)
    (before : ordered first second = true)
    (after : ordered second third = true) :
    ordered first third = true := by
  rw [ordered_eq_true_iff] at before after ⊢
  rcases before with earlier | ⟨sameLine, inOrder⟩
  · exact .inl (by omega)
  · rcases after with earlier | ⟨alsoSameLine, alsoInOrder⟩
    · exact .inl (by omega)
    · exact .inr ⟨sameLine.trans alsoSameLine, Text.ordered_trans _ _ _ inOrder alsoInOrder⟩

/-- Any two locks are ordered. -/
theorem ordered_total
    (left right : LockPattern) :
    (ordered left right || ordered right left) = true := by
  rw [Bool.or_eq_true, ordered_eq_true_iff, ordered_eq_true_iff]
  have names := Text.ordered_total left.variableName right.variableName
  rw [Bool.or_eq_true] at names
  rcases Nat.lt_trichotomy left.line right.line with earlier | sameLine | later
  · exact .inl (.inl earlier)
  · rcases names with inOrder | inOrder
    · exact .inl (.inr ⟨sameLine, inOrder⟩)
    · exact .inr (.inr ⟨sameLine.symm, inOrder⟩)
  · exact .inr (.inl later)

/-- One lock comes before another by its line and then by its name. -/
def Precedes (left right : LockPattern) : Prop :=
  left.line < right.line ∨ left.line = right.line ∧ left.variableName < right.variableName

/-- Of two locks of different variables one precedes the other. -/
theorem precedes_of_ordered
    {left right : LockPattern}
    (inOrder : ordered left right = true)
    (different : left.variableName ≠ right.variableName) :
    Precedes left right := by
  refine (ordered_eq_true_iff.mp inOrder).imp_right ?_
  rintro ⟨sameLine, namesInOrder⟩
  simp only [Text.ordered, decide_eq_true_eq] at namesInOrder
  exact ⟨sameLine, (List.le_iff_lt_or_eq.mp namesInOrder).resolve_right different⟩

/-- Sorted locks of distinct variables are strictly in order. -/
theorem pairwise_precedes_mergeSort
    {patterns : List LockPattern}
    (distinct : (patterns.map variableName).Nodup) :
    (patterns.mergeSort ordered).Pairwise Precedes := by
  have sorted := List.pairwise_mergeSort ordered_trans ordered_total patterns
  have stillDistinct : ((patterns.mergeSort ordered).map variableName).Nodup :=
    ((List.mergeSort_perm patterns ordered).map variableName).nodup_iff.mpr distinct
  have different := List.pairwise_map.mp stillDistinct
  exact (sorted.and different).imp fun both => precedes_of_ordered both.1 both.2

/-- What is found is a sorted list of descriptions, one for each variable. -/
theorem exists_of_find
    {script : Text}
    {patterns : List LockPattern}
    (returns : find (Outline.ofScript script) = .ok patterns) :
    ∃ chosen : List LockPattern,
      patterns = chosen.mergeSort ordered ∧ (chosen.map variableName).Nodup ∧
        ∀ pattern, pattern ∈ chosen ↔ Describes (Outline.ofScript script) pattern := by
  obtain ⟨cooling, isCooling, goesOn⟩ := Outcome.exists_of_bind returns
  obtain ⟨exclusive, isExclusive, isSorted⟩ := Outcome.exists_of_bind goesOn
  exact ⟨_, (Except.ok.inj isSorted).symm, nodup_map_eraseDupsBy variableName _,
    mem_firstOfVariable_iff (lists_cooldowns isCooling) (lists_oneTimeEvents script)
      (lists_exclusiveStates isExclusive)⟩

/-- The search for locks is exact.  Where it returns, a variable is found when it follows an
idiom, and then once, under the first idiom that it follows, with the line that belongs to
the idiom and the events that mention the variable.  The locks are strictly ordered by line
and name. -/
theorem find_classifies
    {script : Text}
    {patterns : List LockPattern}
    (returns : find (Outline.ofScript script) = .ok patterns) :
    (∀ name,
      name ∈ patterns.map variableName ↔
        ∃ kind number, Follows (Outline.ofScript script) kind name number) ∧
      (∀ pattern, pattern ∈ patterns ↔ Describes (Outline.ofScript script) pattern) ∧
      (patterns.map variableName).Nodup ∧
      patterns.Pairwise Precedes := by
  obtain ⟨chosen, rfl, distinct, isChosen⟩ := exists_of_find returns
  have isFound (pattern : LockPattern) :
      pattern ∈ chosen.mergeSort ordered ↔ Describes (Outline.ofScript script) pattern := by
    rw [List.mem_mergeSort, isChosen]
  refine ⟨fun name => ?_, isFound, ?_, pairwise_precedes_mergeSort distinct⟩
  · rw [List.mem_map]
    constructor
    · rintro ⟨pattern, member, rfl⟩
      exact ⟨pattern.kind, pattern.line, ((isFound pattern).mp member).follows⟩
    · intro follows
      obtain ⟨pattern, describes, isName⟩ := exists_describes follows
      exact ⟨pattern, (isFound pattern).mpr describes, isName⟩
  · exact ((List.mergeSort_perm chosen ordered).map variableName).nodup_iff.mpr distinct

/-- A script whose counter follows two idioms and whose flag follows a third one. -/
def waveScript : Text :=
  "int Wave=0\nbool Done=false\nwhen(time>=Wave)[Spawn]\nwhen(False==Done)[Spawn]\n"
    ++ "Spawn::\nWave:Wave+30;\nDone:True;\nWave:1;\nwhen(Wave==2)[Spawn];\nWave:3;"

/-- The counter takes three values, but it is found as a cooldown, with the line that bounds
it by `time`, and not as an exclusive state. -/
theorem find_waveScript :
    Follows (.ofScript waveScript) .exclusiveState "Wave" 1 ∧
      ∃ patterns,
        find (.ofScript waveScript) = .ok patterns ∧
          ⟨"Wave", 3, .globalCooldown, ["Spawn"]⟩ ∈ patterns ∧
          ⟨"Wave", 1, .exclusiveState, ["Spawn"]⟩ ∉ patterns ∧
          ("Done" : Text) ∈ patterns.map variableName ∧
          patterns.Pairwise Precedes := by
  obtain ⟨isCooling, isExclusive, isOneTime, mentioned⟩ :
      cooldowns (.ofScript waveScript) = .ok [⟨"Wave", 3⟩] ∧
        exclusiveStates (.ofScript waveScript) = .ok [⟨"Wave", 1⟩] ∧
        ⟨"Done", 2⟩ ∈ oneTimeEvents (.ofScript waveScript) ∧
        [("Spawn" : Text)] = (Outline.ofScript waveScript).eventsMentioning "Wave" := by
    decide +kernel
  have returns : ∃ patterns, find (.ofScript waveScript) = .ok patterns := by
    rw [find, isCooling, isExclusive]
    exact ⟨_, rfl⟩
  have cools := ((lists_cooldowns isCooling).mem_iff ⟨"Wave", 3⟩).mp List.mem_cons_self
  have excludes := ((lists_exclusiveStates isExclusive).mem_iff ⟨"Wave", 1⟩).mp List.mem_cons_self
  have happensOnce := ((lists_oneTimeEvents waveScript).mem_iff ⟨"Done", 2⟩).mp isOneTime
  obtain ⟨patterns, returns⟩ := returns
  obtain ⟨isNamed_iff, isFound_iff, _, inOrder⟩ := find_classifies returns
  refine ⟨excludes, patterns, returns, ?_, ?_, ?_, inOrder⟩
  · refine (isFound_iff _).mpr ⟨cools, ?_, mentioned⟩
    intro kind number earlier
    exact absurd earlier (Nat.not_lt_zero _)
  · intro member
    exact ((isFound_iff _).mp member).isFirst .globalCooldown 3 (by decide) cools
  · exact (isNamed_iff "Done").mpr ⟨.oneTimeEvent, 2, happensOnce⟩

end LockPattern

end MissionLint
