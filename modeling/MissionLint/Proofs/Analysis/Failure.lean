import MissionLint.Settings
import MissionLint.EventGraph.Cycle
import MissionLint.Analysis.Deadlock
import MissionLint.Analysis.Load
import MissionLint.Analysis.Lock
import MissionLint.Analysis.Machine
import MissionLint.Proofs.Script.Blocks
import MissionLint.Proofs.Script.Literal

namespace MissionLint

/-!
# When analyses fail

The outline of a script, its event graph, the cycles of the graph and the deadlock risks
exist for every script, and so does the load with the standard weights.  The locks, the
state machines and the resource flows convert numerals, and a numeral can be too long or
have digits without a value.  The main result says exactly which scripts have none of
that, so that every analysis returns.
-/

namespace LoadMetrics

/-- The standard weights are reals, and adding reals never fails. -/
theorem isOk_ofOutline
    (outline : Outline) :
    (ofOutline {} outline).isOk = true := by
  rfl

end LoadMetrics

namespace Outline

/-- The names of the integer variables. -/
def integerNames (outline : Outline) : List Text :=
  (outline.variablesOfType .int).map Variable.name

end Outline

namespace LockPattern

/-- The increments of a line are found unless one of its values does not convert. -/
theorem isOk_incrementedOn
    (line : Line) :
    (incrementedOn line).isOk =
      (Assignment.inCode line.code).all fun assignment =>
        Increment.converts assignment.value := by
  unfold incrementedOn
  rw [Outcome.isOk_bind_pure, Outcome.isOk_mapM]
  simp only [Outcome.isOk_bind_pure, Increment.isOk_ofValue?]

/-- The cooldowns are found unless a value that is assigned anywhere does not convert. -/
theorem isOk_cooldowns
    (outline : Outline) :
    (cooldowns outline).isOk =
      outline.lines.all fun line =>
        (Assignment.inCode line.code).all fun assignment =>
          Increment.converts assignment.value := by
  unfold cooldowns
  rw [Outcome.isOk_bind_pure, Outcome.isOk_mapM]
  simp only [isOk_incrementedOn]

/-- The exclusive states are found unless an integer that is assigned to or compared with an
integer variable does not convert. -/
theorem isOk_exclusiveStates
    (outline : Outline) :
    (exclusiveStates outline).isOk =
      (outline.lines.flatMap (valuesOn outline.integerNames)).all fun value =>
        IntegerLiteral.converts value.2 := by
  unfold exclusiveStates
  rw [Outcome.isOk_bind_pure, IntegerLiteral.isOk_integersOf]
  rfl

/-- The locks are found exactly when all increments convert, and so does every integer
that an integer variable is assigned or compared with. -/
theorem isOk_find_iff
    (outline : Outline) :
    (find outline).isOk = true ↔
      (∀ line ∈ outline.lines, ∀ assignment ∈ Assignment.inCode line.code,
        Increment.converts assignment.value = true) ∧
      ∀ line ∈ outline.lines, ∀ value ∈ valuesOn outline.integerNames line,
        IntegerLiteral.converts value.2 = true := by
  have parts :
      (find outline).isOk = ((cooldowns outline).isOk && (exclusiveStates outline).isOk) := by
    apply Outcome.isOk_bind
    intro cooling _
    exact Outcome.isOk_bind_pure _ _
  rw [parts, isOk_cooldowns, isOk_exclusiveStates]
  simp only [Bool.and_eq_true, List.all_eq_true, List.mem_flatMap]
  refine and_congr_right fun _ => ⟨?_, ?_⟩
  · intro convertible line isLine value isValue
    exact convertible value ⟨line, isLine, isValue⟩
  · rintro convertible value ⟨line, isLine, isValue⟩
    exact convertible line isLine value isValue

end LockPattern

namespace StateMachine

/-- Every integer that a variable is assigned or compared with converts. -/
structure ValuesConvert (outline : Outline) (name : Text) : Prop where
  assigned :
    ∀ line ∈ outline.lines, ∀ assignment ∈ Assignment.inCode line.code,
      assignment.name = name → IntegerLiteral.converts assignment.value = true
  compared :
    ∀ line ∈ outline.lines, ∀ comparison ∈ LockPattern.comparisonsOn line,
      comparison.operator = .equal →
        ∀ other ∈ comparison.opposite? name, IntegerLiteral.converts other = true

/-- A machine looks at no integer that the search for locks leaves out. -/
theorem valuesConvert_of_valuesOn
    {outline : Outline}
    {name : Text}
    (isInteger : name ∈ outline.integerNames)
    (convertible :
      ∀ line ∈ outline.lines, ∀ value ∈ LockPattern.valuesOn outline.integerNames line,
        IntegerLiteral.converts value.2 = true) :
    ValuesConvert outline name where
  assigned := by
    rintro line isLine assignment isAssigned rfl
    refine convertible line isLine (assignment.name, assignment.value) ?_
    refine List.mem_append_left _ (List.mem_filterMap.mpr ⟨assignment, isAssigned, ?_⟩)
    rw [if_pos (List.contains_iff_mem.mpr isInteger)]
  compared := by
    intro line isLine comparison isComparison isEqual other isOpposite
    refine convertible line isLine (name, other) ?_
    refine List.mem_append_right _ (List.mem_flatMap.mpr ⟨comparison, isComparison, ?_⟩)
    rw [if_pos (by simpa using isEqual)]
    refine List.mem_filterMap.mpr ⟨name, isInteger, ?_⟩
    rw [isOpposite]
    rfl

/-- The first integer is found among texts that convert. -/
theorem isOk_firstInteger?
    {texts : List (Text × Tag)}
    (convertible : ∀ text ∈ texts, IntegerLiteral.converts text.1 = true) :
    (firstInteger? texts).isOk = true := by
  induction texts with
  | nil =>
      rfl
  | cons first rest inductionHypothesis =>
      have goesOn := inductionHypothesis fun text isLater =>
        convertible text (List.mem_cons_of_mem first isLater)
      unfold firstInteger?
      rw [IntegerLiteral.ofText?_of_converts (convertible first List.mem_cons_self)]
      cases found : IntegerLiteral.value? first.1 with
      | none =>
          exact goesOn
      | some value =>
          rfl

/-- Values that convert can be compared with a state. -/
theorem isOk_anyIsState
    (state : Int)
    {values : List Text}
    (convertible : ∀ value ∈ values, IntegerLiteral.converts value = true) :
    (anyIsState state values).isOk = true := by
  induction values with
  | nil =>
      rfl
  | cons first rest inductionHypothesis =>
      have goesOn := inductionHypothesis fun value isLater =>
        convertible value (List.mem_cons_of_mem first isLater)
      unfold anyIsState
      rw [IntegerLiteral.ofText?_of_converts (convertible first List.mem_cons_self)]
      change
        (if IntegerLiteral.value? first == some state then
          pure true
        else
          anyIsState state rest : Except NumeralFault Bool).isOk = true
      split
      · rfl
      · exact goesOn

/-- The comment of a state is found when every value of the variable converts. -/
theorem isOk_commentOf?
    (name : Text)
    (state : Int)
    (above : Option Text)
    {lines : List Line}
    (convertible :
      ∀ line ∈ lines, ∀ assignment ∈ Assignment.inCode line.code,
        assignment.name = name → IntegerLiteral.converts assignment.value = true) :
    (commentOf? name state above lines).isOk = true := by
  induction lines generalizing above with
  | nil =>
      rfl
  | cons line rest inductionHypothesis =>
      have goesOn := inductionHypothesis line.comment fun later isLater =>
        convertible later (List.mem_cons_of_mem line isLater)
      have onLine :
          ∀ value ∈ (Assignment.inCode line.code).filterMap (fun assignment =>
              if assignment.name == name then some assignment.value else none),
            IntegerLiteral.converts value = true := by
        intro value isAssigned
        obtain ⟨assignment, member, isValue⟩ := List.mem_filterMap.mp isAssigned
        split at isValue
        case isTrue sameName =>
          cases isValue
          exact convertible line List.mem_cons_self assignment member (by simpa using sameName)
        case isFalse =>
          cases isValue
      obtain ⟨isHere, decided⟩ := Outcome.isOk_eq_true_iff.mp (isOk_anyIsState state onLine)
      unfold commentOf?
      simp only [decided]
      cases isHere with
      | true =>
          rcases line.comment with _ | ⟨_ | _⟩ <;>
            rfl
      | false =>
          exact goesOn

section Convertible

variable {script name : Text} {names : Table Int Text}

/-- A guard gives a transition or none when every value of the variable converts. -/
theorem isOk_transitionOf?
    (convertible : ValuesConvert (Outline.ofScript script) name)
    {guard : Trigger}
    (isGuard : guard ∈ Outline.guards (Outline.ofScript script).lines) :
    (transitionOf? (Outline.ofScript script) name guard).isOk = true := by
  obtain ⟨line, isLine, onLine⟩ := List.mem_flatMap.mp isGuard
  have before : (stateBefore? guard name).isOk = true := by
    apply isOk_firstInteger?
    intro text isCompared
    obtain ⟨comparison, member, isText⟩ := List.mem_filterMap.mp isCompared
    split at isText
    case isTrue isEqual =>
      obtain ⟨other, isOpposite, rfl⟩ := Option.map_eq_some_iff.mp isText
      have onSameLine : comparison ∈ LockPattern.comparisonsOn line :=
        List.mem_flatMap.mpr ⟨guard, (List.mem_filter.mp onLine).1, member⟩
      exact convertible.compared line isLine comparison onSameLine (by simpa using isEqual) other
        isOpposite
    case isFalse =>
      cases isText
  have after : (stateAfter? (Outline.ofScript script) guard.target name).isOk = true := by
    unfold stateAfter?
    split
    · rfl
    case h_2 block isFirst =>
      apply isOk_firstInteger?
      intro text isAssigned
      obtain ⟨command, isCommand, inCommand⟩ := List.mem_flatMap.mp isAssigned
      obtain ⟨assignment, member, isText⟩ := List.mem_filterMap.mp inCommand
      split at isText
      case isTrue sameName =>
        cases isText
        have isScriptLine :=
          Outline.mem_lines_of_mem_commands (List.mem_of_find?_eq_some isFirst) isCommand
        exact convertible.assigned command isScriptLine assignment member (by simpa using sameName)
      case isFalse =>
        cases isText
  obtain ⟨source, isSource⟩ := Outcome.isOk_eq_true_iff.mp before
  obtain ⟨target, isTarget⟩ := Outcome.isOk_eq_true_iff.mp after
  unfold transitionOf?
  rw [isSource, isTarget]
  rcases source with _ | ⟨source, _⟩
  · rfl
  · rcases target with _ | ⟨target, line⟩ <;>
      rfl

/-- A variable has a machine or none when all its values convert. -/
theorem isOk_ofVariable?
    (convertible : ValuesConvert (Outline.ofScript script) name)
    (initial : Int) :
    (ofVariable? (Outline.ofScript script) names name initial).isOk = true := by
  have transitions : (transitionsOf (Outline.ofScript script) name).isOk = true := by
    unfold transitionsOf
    rw [Outcome.isOk_bind_pure, Outcome.isOk_mapM, List.all_eq_true]
    exact fun guard isGuard => isOk_transitionOf? convertible isGuard
  have named (state : Int) :
      (stateName (Outline.ofScript script) names name state).isOk = true := by
    obtain ⟨comment, isComment⟩ :=
      Outcome.isOk_eq_true_iff.mp (isOk_commentOf? name state none convertible.assigned)
    unfold stateName
    rw [isComment]
    rcases comment with _ | ⟨_ | _⟩ <;>
      rfl
  obtain ⟨found, areFound⟩ := Outcome.isOk_eq_true_iff.mp transitions
  unfold ofVariable?
  rw [areFound]
  change (if found.length < 2 then _ else _ : Except NumeralFault (Option StateMachine)).isOk = true
  split
  · rfl
  · rw [Outcome.isOk_bind_pure, Outcome.isOk_mapM, List.all_eq_true]
    intro state _
    rw [namedState, Outcome.isOk_bind_pure]
    exact named state

/-- The state machines are found whenever the locks are. -/
theorem isOk_find_of_locks
    (returns : (LockPattern.find (Outline.ofScript script)).isOk = true) :
    (find (Outline.ofScript script) names).isOk = true := by
  have convertible := ((LockPattern.isOk_find_iff _).mp returns).2
  unfold find
  rw [Outcome.isOk_bind_pure, Outcome.isOk_mapM, List.all_eq_true]
  intro declared isInteger
  unfold ofDeclared?
  split
  · rfl
  · exact isOk_ofVariable?
      (valuesConvert_of_valuesOn (List.mem_map_of_mem isInteger) convertible) _

end Convertible

end StateMachine

namespace ResourceFlow

/-- The amounts that a line grants and demands convert. -/
structure AmountsConvert (outline : Outline) (line : Line) : Prop where
  granted : ∀ amount ∈ grantedOn line.code, IntegerLiteral.converts amount.2 = true
  demanded : ∀ amount ∈ demandedBy outline line, IntegerLiteral.converts amount.2 = true
  level : (OxygenLevel.firstIn? line.code).all OxygenLevel.converts = true

/-- What a line grants and demands, whether or not the amounts convert. -/
def writtenOn (outline : Outline) (line : Line) : List Entry :=
  let owner := outline.eventAt? line.number
  let amountOf (value : Int) : ResourceAmount := ⟨value, line.number, owner.map Event.name⟩
  if line.isBlank then
    []
  else
    (IntegerLiteral.valuesAmong (grantedOn line.code)).map
        (fun (resource, value) => ⟨resource, .source, amountOf value⟩)
      ++ (IntegerLiteral.valuesAmong (demandedBy outline line)).map
        (fun (resource, value) => ⟨resource, .sink, amountOf value⟩)
      ++ (OxygenLevel.firstIn? line.code).toList.map fun level =>
        ⟨.air, .source, amountOf (Numeral.valueOf level.current)⟩

/-- A line whose amounts convert gives the entries that are written on it. -/
theorem entriesOn_of_amountsConvert
    {outline : Outline}
    {line : Line}
    (convertible : line.isBlank = false → AmountsConvert outline line) :
    entriesOn outline line = .ok (writtenOn outline line) := by
  unfold entriesOn writtenOn
  split
  case isTrue =>
    rfl
  case isFalse hasCode =>
    have amounts := convertible (by simpa using hasCode)
    simp only [IntegerLiteral.integersOf_of_converts amounts.granted,
      IntegerLiteral.integersOf_of_converts amounts.demanded,
      OxygenLevel.inCode?_of_converts amounts.level]
    cases OxygenLevel.firstIn? line.code <;>
      rfl

/-- A line gives entries when it is blank or its amounts convert. -/
theorem isOk_entriesOn_iff
    (outline : Outline)
    (line : Line) :
    (entriesOn outline line).isOk = true ↔
      (line.isBlank = false → AmountsConvert outline line) := by
  constructor
  · intro returns hasCode
    have parts :
        (entriesOn outline line).isOk =
          ((IntegerLiteral.integersOf (grantedOn line.code)).isOk &&
            ((IntegerLiteral.integersOf (demandedBy outline line)).isOk &&
              (OxygenLevel.inCode? line.code).isOk)) := by
      unfold entriesOn
      rw [if_neg (by simp [hasCode])]
      apply Outcome.isOk_bind
      intro granted _
      apply Outcome.isOk_bind
      intro demanded _
      exact Outcome.isOk_bind_pure _ _
    rw [parts, IntegerLiteral.isOk_integersOf, IntegerLiteral.isOk_integersOf,
      OxygenLevel.isOk_inCode?] at returns
    simp only [Bool.and_eq_true, List.all_eq_true] at returns
    exact ⟨returns.1, returns.2.1, returns.2.2⟩
  · intro convertible
    rw [entriesOn_of_amountsConvert convertible]
    rfl

/-- Balances are reported unless one has too many digits to be written. -/
theorem isOk_balanceReport
    (flows : List ResourceFlow) :
    (balanceReport flows).isOk =
      flows.all fun flow => decide (flow.balance.natAbs < 10 ^ digitLimit) := by
  unfold balanceReport
  rw [Outcome.isOk_bind_pure, Outcome.isOk_mapM]
  refine congrArg (fun returns => flows.all returns) (funext fun flow => ?_)
  rw [Outcome.isOk_bind_pure, ← Numeral.isOk_writeInteger]
  cases Numeral.writeInteger flow.balance <;>
    rfl

/-- When all amounts convert, only a balance that cannot be written is left to fail. -/
theorem find_of_amountsConvert
    {outline : Outline}
    (convertible : ∀ line ∈ outline.lines, line.isBlank = false → AmountsConvert outline line) :
    (find outline).isOk =
      (balanceReport
        (Resource.all.map (ofEntries (outline.lines.flatMap (writtenOn outline))))).isOk := by
  unfold find
  rw [Outcome.mapM_eq_ok fun line isLine => entriesOn_of_amountsConvert (convertible line isLine),
    List.flatMap_def]
  exact Outcome.isOk_bind_pure _ _

/-- The resource flows are found exactly when the amounts of every line convert and every
balance fits the limit on integer texts. -/
theorem isOk_find_iff
    (outline : Outline) :
    (find outline).isOk = true ↔
      (∀ line ∈ outline.lines, line.isBlank = false → AmountsConvert outline line) ∧
      ∀ resource,
        (ofEntries (outline.lines.flatMap (writtenOn outline)) resource).balance.natAbs <
          10 ^ digitLimit := by
  have everyResource (resource : Resource) : resource ∈ Resource.all := by
    cases resource <;>
      simp [Resource.all]
  by_cases convertible :
      ∀ line ∈ outline.lines, line.isBlank = false → AmountsConvert outline line
  · rw [find_of_amountsConvert convertible, isOk_balanceReport]
    simpa [everyResource] using fun _ => convertible
  · refine iff_of_false ?_ fun both => convertible both.1
    intro returns
    have entriesRead := Outcome.isOk_of_isOk_bind returns
    rw [Outcome.isOk_mapM, List.all_eq_true] at entriesRead
    exact convertible fun line isLine =>
      (isOk_entriesOn_iff outline line).mp (entriesRead line isLine)

end ResourceFlow

/-- No numeral of a script that an analysis converts is too long or has digits without a
value, and every balance of a resource can be written. -/
structure Outline.NumeralsConvert (outline : Outline) : Prop where
  increments :
    ∀ line ∈ outline.lines, ∀ assignment ∈ Assignment.inCode line.code,
      Increment.converts assignment.value = true
  states :
    ∀ line ∈ outline.lines, ∀ value ∈ LockPattern.valuesOn outline.integerNames line,
      IntegerLiteral.converts value.2 = true
  amounts :
    ∀ line ∈ outline.lines, line.isBlank = false → ResourceFlow.AmountsConvert outline line
  balances :
    ∀ resource,
      (ResourceFlow.ofEntries
        (outline.lines.flatMap (ResourceFlow.writtenOn outline)) resource).balance.natAbs <
          10 ^ digitLimit

/-- Every analysis of a script returns: its outline, the event graph with its cycles, the
deadlock risks, the load with the standard weights, the locks, the state machines whatever
names the states are given, and the resource flows. -/
def AnalysesReturn (script : Text) : Prop :=
  ∃ outline, Outline.ofScript script = outline ∧
    (∃ graph, EventGraph.ofOutline outline = graph ∧ ∃ cycles, graph.cycles = cycles) ∧
    (∃ risks, DeadlockRisk.find outline = risks) ∧
    (∃ metrics, LoadMetrics.ofOutline {} outline = .ok metrics) ∧
    (∃ patterns, LockPattern.find outline = .ok patterns) ∧
    (∀ names, ∃ machines, StateMachine.find outline names = .ok machines) ∧
    ∃ flows, ResourceFlow.find outline = .ok flows

/-- All analyses of a script return exactly when its numerals convert.  The load, unlike
the locks and the resource flows, is always found, and the state machines are found
whenever the locks are. -/
theorem analysesReturn_iff
    (script : Text) :
    (AnalysesReturn script ↔ (Outline.ofScript script).NumeralsConvert) ∧
      (∃ metrics, LoadMetrics.ofOutline {} (Outline.ofScript script) = .ok metrics) ∧
      ((∃ patterns, LockPattern.find (Outline.ofScript script) = .ok patterns) →
        ∀ names, ∃ machines, StateMachine.find (Outline.ofScript script) names = .ok machines) := by
  have load := Outcome.isOk_eq_true_iff.mp (LoadMetrics.isOk_ofOutline (Outline.ofScript script))
  have locks := LockPattern.isOk_find_iff (Outline.ofScript script)
  have flows := ResourceFlow.isOk_find_iff (Outline.ofScript script)
  rw [Outcome.isOk_eq_true_iff] at locks flows
  have machines :
      (∃ patterns, LockPattern.find (Outline.ofScript script) = .ok patterns) →
        ∀ names, ∃ machines, StateMachine.find (Outline.ofScript script) names = .ok machines := by
    intro found names
    exact Outcome.isOk_eq_true_iff.mp
      (StateMachine.isOk_find_of_locks (Outcome.isOk_eq_true_iff.mpr found))
  refine ⟨⟨?_, ?_⟩, load, machines⟩
  · rintro ⟨outline, rfl, _, _, _, locksFound, _, flowsFound⟩
    obtain ⟨increments, states⟩ := locks.mp locksFound
    obtain ⟨amounts, balances⟩ := flows.mp flowsFound
    exact ⟨increments, states, amounts, balances⟩
  · intro convertible
    have locksFound := locks.mpr ⟨convertible.increments, convertible.states⟩
    have flowsFound := flows.mpr ⟨convertible.amounts, convertible.balances⟩
    exact ⟨_, rfl, ⟨_, rfl, _, rfl⟩, ⟨_, rfl⟩, load, locksFound, machines locksFound, flowsFound⟩

/-! ## An amount that is too long -/

section LongAmount

variable {digits : Text}

/-- Digits start with no indent. -/
theorem Numeral.IsDigits.skipIndent_eq
    (isDigits : Numeral.IsDigits digits) :
    Reader.skipIndent digits = digits := by
  apply Text.dropWhile_eq_self
  intro c isFirst
  have noSpacing :=
    Text.isSpacing_of_isAnyDigit (isDigits.digit c (List.mem_of_mem_head? isFirst))
  exact Bool.eq_false_iff.mpr fun indent => by
    simp [Text.isSpacing_of_isIndent indent] at noSpacing

/-- Digits are read as the literal that they are. -/
theorem IntegerLiteral.converts_digits
    (isDigits : Numeral.IsDigits digits) :
    converts digits = Numeral.isConvertible digits := by
  have reads : Reader.digits? digits = some (digits, []) := by
    obtain ⟨c, rest, rfl⟩ := List.exists_cons_of_ne_nil isDigits.nonempty
    simp only [Reader.digits?, Reader.run?, isDigits.digit c List.mem_cons_self, if_true,
      Reader.run, List.takeWhile_eq_self_iff.mpr isDigits.digit,
      List.dropWhile_eq_nil_iff.mpr isDigits.digit]
  have unsigned : readDigits? digits = some (digits, []) := by
    unfold readDigits? Reader.signed?
    split
    · exact absurd rfl (isDigits.ne_of_head? (by decide))
    · exact reads
  have whole : Reader.whole? read? digits = some digits := by
    simp only [Reader.whole?, read?, isDigits.skipIndent_eq, unsigned]
    rfl
  rw [converts, whole, Option.all_some]

/-- A line grants crystals by digits alone. -/
theorem ResourceFlow.grantedOn_crystals
    (isDigits : Numeral.IsDigits digits) :
    grantedOn ("crystals:" ++ digits) = [(.crystals, digits)] := by
  have readsName :
      Reader.name? ("crystals:" ++ digits) =
        some (("crystals" : Text), (':' : CodePoint) :: digits) :=
    Reader.name?_append (by decide : Text.isName "crystals" = true) (by simp; decide)
  have notDoubled : Reader.notDoubled? ':' ((':' : CodePoint) :: digits) = some digits := by
    have isAlone := isDigits.ne_of_head? (by decide : Text.isAnyDigit ':' = false)
    simp [Reader.notDoubled?, isAlone]
  have readsValue : Reader.statement digits = (digits, []) :=
    Reader.statement_eq (isDigits.not_mem (by decide))
  have stripped : Text.strip digits = digits :=
    isDigits.trimWhile_eq fun _ => Text.isBlank_of_isAnyDigit
  have reads :
      Assignment.read? ("crystals:" ++ digits) = some (⟨"crystals", digits⟩, []) := by
    simp [Assignment.read?, readsName,
      Reader.skipIndent_cons (by decide : Text.isIndent ':' = false), notDoubled,
      isDigits.skipIndent_eq, readsValue, stripped]
  have assigned : Assignment.inCode ("crystals:" ++ digits) = [⟨"crystals", digits⟩] :=
    Occurrence.values_of_whole (by decide) reads
  rw [grantedOn, assigned]
  rfl

/-- A crystal count with too many digits stops the resource flows. -/
theorem ResourceFlow.isOk_find_of_long
    (isDigits : Numeral.IsDigits digits)
    (tooLong : digitLimit < digits.length) :
    (find (Outline.ofScript ("crystals:" ++ digits))).isOk = false := by
  have notIn {c : CodePoint} (outside : c ∉ ("crystals:" : Text))
      (noDigit : Text.isAnyDigit c = false) : c ∉ "crystals:" ++ digits :=
    List.not_mem_append outside (isDigits.not_mem noDigit)
  have isLast {c : CodePoint} (last : ("crystals:" ++ digits).getLast? = some c) :
      Text.isAnyDigit c = true := by
    rw [List.getLast?_append, List.getLast?_eq_some_getLast isDigits.nonempty] at last
    cases last
    exact isDigits.digit _ (List.getLast_mem _)
  have lines :
      (Outline.ofScript ("crystals:" ++ digits)).lines =
        [Line.ofRaw 1 ("crystals:" ++ digits)] := by
    change Line.numberFrom 1 (List.splitOn _ _) = _
    rw [List.splitOn_eq_singleton (notIn (by decide) (by decide))]
    rfl
  have code : (Line.ofRaw 1 ("crystals:" ++ digits)).code = "crystals:" ++ digits := by
    rw [Line.code_ofRaw (notIn (by decide) (by decide))]
    apply Text.trimEndWhile_eq_self
    intro c last
    refine beq_eq_false_iff_ne.mpr fun isReturn => ?_
    exact absurd (isReturn ▸ isLast last) (by decide)
  have hasCode : (Line.ofRaw 1 ("crystals:" ++ digits)).isBlank = false := by
    have stripped : Text.strip ("crystals:" ++ digits) = "crystals:" ++ digits := by
      apply Text.trimWhile_eq_self
      · intro c isFirst
        cases isFirst
        decide
      · intro c last
        exact Text.isBlank_of_isAnyDigit (isLast last)
    rw [Line.isBlank, code, stripped]
    rfl
  refine Bool.eq_false_iff.mpr fun returns => ?_
  have amounts :=
    ((isOk_find_iff _).mp returns).1 (Line.ofRaw 1 ("crystals:" ++ digits)) (by simp [lines])
      hasCode
  have converted :=
    amounts.granted (.crystals, digits) (by simp [code, grantedOn_crystals isDigits])
  rw [IntegerLiteral.converts_digits isDigits, Numeral.isConvertible, isDigits.splitSign_eq,
    Bool.and_eq_true, decide_eq_true_eq] at converted
  exact Nat.not_le.mpr tooLong converted.1

end LongAmount

/-- One crystal count with a digit too many stops the resource flows. -/
theorem not_analysesReturn_longAmount :
    ¬AnalysesReturn ("crystals:" ++ List.replicate (digitLimit + 1) ('1' : CodePoint)) := by
  have isDigits : Numeral.IsDigits (List.replicate (digitLimit + 1) ('1' : CodePoint)) := by
    refine ⟨by simp, fun c member => ?_⟩
    rw [List.eq_of_mem_replicate member]
    decide
  rintro ⟨outline, rfl, _, _, _, _, _, flowsFound⟩
  have returns := Outcome.isOk_eq_true_iff.mpr flowsFound
  simp [ResourceFlow.isOk_find_of_long isDigits (by simp)] at returns

end MissionLint
