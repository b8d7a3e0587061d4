import MissionLint.Analysis.Deadlock
import MissionLint.Analysis.Load
import MissionLint.Analysis.Lock
import MissionLint.Analysis.Machine
import MissionLint.EventGraph
import MissionLint.Proofs.Script.Literal
import MissionLint.Proofs.Script.Relabelling
import MissionLint.Proofs.Script.TrailingSpace
import MissionLint.Proofs.Script.WholeLine

namespace MissionLint

/-!
# What analyses see of a line

A bare line has its number and its code, without the spaces at the end of the code and
without its comment.  No analysis but the naming of states sees more of a line: on the
bare outline each gives what it gives on the outline itself.
-/

/-! ## Shapes of trimmed code -/

section Trimmed

variable (code : Text)

/-- White space at the end of a code does not change which block it opens. -/
@[simp] theorem Opener.ofCode?_trimmed :
    ofCode? (Text.trimmed code) = ofCode? code :=
  Text.eq_trimmed (fun text => ofCode?_of_extends (.space text)) code

/-- White space at the end of a code does not change what it declares. -/
@[simp] theorem Declaration.ofCode?_trimmed :
    ofCode? (Text.trimmed code) = ofCode? code :=
  Text.eq_trimmed (fun text => ofCode?_of_extends (.space text)) code

/-- White space at the end of a code does not change its triggers. -/
@[simp] theorem Trigger.inCode_trimmed :
    inCode (Text.trimmed code) = inCode code :=
  Text.eq_trimmed inCode_concat_space code

/-- White space at the end of a code does not change its clauses. -/
@[simp] theorem WhenClause.inCode_trimmed :
    inCode (Text.trimmed code) = inCode code :=
  Text.eq_trimmed inCode_concat_space code

/-- White space at the end of a code does not change what it invokes. -/
@[simp] theorem Invocation.inCode_trimmed :
    inCode (Text.trimmed code) = inCode code :=
  Text.eq_trimmed inCode_concat_space code

/-- White space at the end of a code does not change what it calls. -/
@[simp] theorem CallCommand.inCode_trimmed :
    inCode (Text.trimmed code) = inCode code :=
  Text.eq_trimmed inCode_concat_space code

/-- White space at the end of a code does not change its assignments. -/
@[simp] theorem Assignment.inCode_trimmed :
    inCode (Text.trimmed code) = inCode code :=
  Text.eq_trimmed inCode_concat_space code

/-- White space at the end of a code does not change the oxygen level that it asks for. -/
@[simp] theorem OxygenLevel.inCode?_trimmed :
    inCode? (Text.trimmed code) = inCode? code :=
  Text.eq_trimmed inCode?_concat_space code

/-- White space at the end of a code does not make it a spawner. -/
@[simp] theorem Spawner.occursIn_trimmed :
    occursIn (Text.trimmed code) = occursIn code :=
  Text.eq_trimmed occursIn_concat_space code

/-- White space at the end of a condition does not change how it is read. -/
@[simp] theorem Condition.ofText_trimmed :
    ofText (Text.trimmed code) = ofText code :=
  Text.eq_trimmed ofText_concat_space code

/-- White space at the end of a code does not make it an objective. -/
@[simp] theorem ResourceFlow.mentionsObjective_trimmed :
    mentionsObjective (Text.trimmed code) = mentionsObjective code := by
  refine Text.eq_trimmed (fun text => ?_) code
  unfold mentionsObjective
  rw [Text.lower, List.map_append]
  exact Text.occursIn_concat_space (by decide) (by decide) (Text.lower text)

/-- Stripping takes off all that trimming does. -/
@[simp] theorem Text.strip_trimmed :
    strip (trimmed code) = strip code :=
  eq_trimmed strip_concat_space code

/-- A name has no white space, so it is found before the end that is trimmed or not at all. -/
theorem Word.occursIn_trimmed
    {token : Text}
    (named : Text.isName token = true) :
    occursIn token (Text.trimmed code) = occursIn token code := by
  refine Text.eq_trimmed (occursIn_concat_space ?_ ?_) code
  · rintro rfl
    cases named
  · exact Text.not_mem_of_isName named (by decide)

end Trimmed

/-! ## Bare outlines -/

/-- A line as the analyses see it. -/
def Line.bare (line : Line) : Line where
  number := line.number
  text := []
  code := Text.trimmed line.code
  comment := none

/-- A bare line keeps its number. -/
@[simp] theorem Line.number_bare
    (line : Line) :
    line.bare.number = line.number :=
  rfl

/-- A bare line keeps its code up to white space at the end. -/
@[simp] theorem Line.code_bare
    (line : Line) :
    line.bare.code = Text.trimmed line.code :=
  rfl

/-- A bare line is blank when the line is. -/
@[simp] theorem Line.isBlank_bare
    (line : Line) :
    line.bare.isBlank = line.isBlank := by
  simp [isBlank]

/-- Baring lines keeps their openers, declarations and guards. -/
theorem Line.keepsShape_bare :
    KeepsShape bare id where
  number_eq := number_bare
  isBlank_eq := isBlank_bare
  opener_eq line := Opener.ofCode?_trimmed line.code
  declaration_eq line := Declaration.ofCode?_trimmed line.code
  triggers_eq line := Trigger.inCode_trimmed line.code

namespace Event

/-- A block with bare command lines. -/
def bare (event : Event) : Event :=
  { event with commands := event.commands.map Line.bare }

variable (event : Event)

/-- A bare block keeps its name. -/
@[simp] theorem name_bare :
    event.bare.name = event.name :=
  rfl

/-- A bare block starts where the block does. -/
@[simp] theorem start_bare :
    event.bare.start = event.start :=
  rfl

/-- The commands of a bare block are the bare commands of the block. -/
@[simp] theorem commands_bare :
    event.bare.commands = event.commands.map Line.bare :=
  rfl

/-- A bare block owns the lines that the block owns. -/
@[simp] theorem owns_bare
    (number : Nat) :
    event.bare.owns number = event.owns number := by
  have sameFinish : event.bare.finish = event.finish := by
    simp only [finish, commands_bare, List.getLast?_map, Option.map_map]
    rfl
  rw [owns, owns, sameFinish]
  rfl

end Event

namespace Outline

/-- An outline as the analyses see it. -/
def bare (outline : Outline) : Outline where
  lines := outline.lines.map Line.bare
  declared := outline.declared
  events := outline.events.map Event.bare

variable (outline : Outline)

/-- The lines of a bare outline are the bare lines of the outline. -/
@[simp] theorem lines_bare :
    outline.bare.lines = outline.lines.map Line.bare :=
  rfl

/-- A bare outline keeps its variables. -/
@[simp] theorem declared_bare :
    outline.bare.declared = outline.declared :=
  rfl

/-- The blocks of a bare outline are the bare blocks of the outline. -/
@[simp] theorem events_bare :
    outline.bare.events = outline.events.map Event.bare :=
  rfl

/-- Bare lines have the guards of the lines. -/
@[simp] theorem guards_map_bare
    (lines : List Line) :
    guards (lines.map Line.bare) = guards lines :=
  guards_map Line.keepsShape_bare lines

/-- The outline of bare lines is the bare outline. -/
theorem ofLines_map_bare
    (lines : List Line) :
    ofLines (lines.map Line.bare) = (ofLines lines).bare := by
  have sameDeclared :
      (ofLines lines).declared.map (Variable.renumbered id) = (ofLines lines).declared :=
    List.map_id _
  rw [ofLines_map Line.keepsShape_bare, mapLines, sameDeclared]
  rfl

/-- A bare outline has the same variables of each type. -/
@[simp] theorem variablesOfType_bare
    (type : VariableType) :
    outline.bare.variablesOfType type = outline.variablesOfType type :=
  rfl

/-- A bare outline has the same events. -/
@[simp] theorem eventNames_bare :
    outline.bare.eventNames = outline.eventNames := by
  simp [eventNames, Function.comp_def]

/-- The first block of an event is bared with the outline. -/
theorem firstEvent?_bare
    (name : Text) :
    outline.bare.firstEvent? name = (outline.firstEvent? name).map Event.bare := by
  simp [firstEvent?, List.find?_map, Function.comp_def]

/-- The block that owns a line is bared with the outline. -/
theorem eventAt?_bare
    (number : Nat) :
    outline.bare.eventAt? number = (outline.eventAt? number).map Event.bare := by
  have sameOwner : (fun event => Event.owns event number) ∘ Event.bare = (Event.owns · number) :=
    funext fun event => Event.owns_bare event number
  rw [eventAt?, events_bare, List.find?_map, sameOwner, eventAt?]

/-- The blocks of an event are bared with the outline. -/
theorem eventsNamed_bare
    (name : Text) :
    outline.bare.eventsNamed name = (outline.eventsNamed name).map Event.bare := by
  simp [eventsNamed, List.filter_map, Function.comp_def]

/-- The repeated blocks are bared with the outline. -/
theorem repeatedEvents_bare :
    outline.bare.repeatedEvents = outline.repeatedEvents.map Event.bare := by
  have fromSeen (seen : List Text) (events : List Event) :
      repeatedFrom seen (events.map Event.bare) = (repeatedFrom seen events).map Event.bare := by
    induction events generalizing seen with
    | nil =>
        rfl
    | cons event rest inductionHypothesis =>
        simp only [List.map_cons, repeatedFrom, Event.name_bare, inductionHypothesis]
        split <;>
          rfl
  exact fromSeen [] outline.events

/-- A bare outline mentions a name in the same events. -/
theorem eventsMentioning_bare
    {token : Text}
    (named : Text.isName token = true) :
    outline.bare.eventsMentioning token = outline.eventsMentioning token := by
  simp [eventsMentioning, List.filter_map, Function.comp_def, Event.mentions,
    Word.occursIn_trimmed _ named]

end Outline

/-! ## Analyses of bare outlines -/

section Analyses

variable (outline : Outline)

/-- The event graph is that of the bare outline. -/
theorem EventGraph.ofOutline_bare :
    ofOutline outline.bare = ofOutline outline := by
  have sameReferences (event : Event) : referencesOf event.bare = referencesOf event := by
    simp [referencesOf, references, List.flatMap_map]
  simp [ofOutline, List.foldl_map, List.flatMap_map, sameReferences]

/-- The load is that of the bare outline. -/
theorem LoadMetrics.ofOutline_bare
    (settings : Settings) :
    ofOutline settings outline.bare = ofOutline settings outline := by
  have sameCounts : LoadCounts.ofOutline outline.bare = LoadCounts.ofOutline outline := by
    simp [LoadCounts.ofOutline, LoadCounts.complexityOn, LoadCounts.declaresTimer,
      Function.comp_def, List.countP_map]
  unfold ofOutline
  rw [sameCounts]

/-- The deadlock risks are those of the bare outline. -/
theorem DeadlockRisk.find_bare :
    find outline.bare = find outline := by
  have sameHeld : held outline.bare = held outline := by
    simp [held, heldBy, tracked, Outline.eventsNamed_bare, List.flatMap_map]
  have sameWaits : waits outline.bare = waits outline := by
    simp [waits, guardReads]
  have sameLine (name : Text) :
      (outline.bare.firstEvent? name).map Event.start =
        (outline.firstEvent? name).map Event.start := by
    rw [Outline.firstEvent?_bare, Option.map_map]
    rfl
  unfold find
  simp only [sameHeld, sameWaits, sameLine, Outline.eventNames_bare]

/-- The transitions of a variable are those in the bare outline. -/
theorem StateMachine.transitionsOf_bare
    (name : Text) :
    transitionsOf outline.bare name = transitionsOf outline name := by
  have sameAfter (event : Text) :
      stateAfter? outline.bare event name = stateAfter? outline event name := by
    unfold stateAfter?
    rw [Outline.firstEvent?_bare]
    cases outline.firstEvent? event with
    | none =>
        rfl
    | some block =>
        simp [assignedIn, List.flatMap_map]
  have sameTransition (guard : Trigger) :
      transitionOf? outline.bare name guard = transitionOf? outline name guard := by
    unfold transitionOf?
    simp only [sameAfter]
  unfold transitionsOf
  rw [funext sameTransition, Outline.lines_bare, Outline.guards_map_bare]

/-- The resource flows are those of the bare outline, and so is a failure to find them. -/
theorem ResourceFlow.find_bare :
    find outline.bare = find outline := by
  have sameObjective (event : Event) : isObjective event.bare = isObjective event := by
    simp [isObjective, Function.comp_def]
  have sameOwner (number : Nat) :
      (outline.bare.eventAt? number).any isObjective =
        (outline.eventAt? number).any isObjective := by
    rw [Outline.eventAt?_bare]
    cases outline.eventAt? number with
    | none =>
        rfl
    | some event =>
        exact sameObjective event
  have sameDemanded (line : Line) :
      demandedBy outline.bare line.bare = demandedBy outline line := by
    simp [demandedBy, sameOwner, demandedOn]
  have sameEntries (line : Line) :
      entriesOn outline.bare line.bare = entriesOn outline line := by
    simp [entriesOn, grantedOn, sameDemanded, Outline.eventAt?_bare, Function.comp_def]
  unfold find
  simp [List.mapM_map, Function.comp_def, sameEntries]

end Analyses

/-! ## Locks of bare outlines -/

/-- What is assigned is a name. -/
theorem Assignment.isName_of_mem_inCode
    {code : Text}
    {assignment : Assignment}
    (member : assignment ∈ inCode code) :
    Text.isName assignment.name = true := by
  obtain ⟨onward, rest, reads⟩ := Occurrence.exists_read_of_mem_values member
  simp only [read?, Option.bind_eq_bind, Option.bind_eq_some_iff, Prod.exists] at reads
  obtain ⟨name, afterName, readsName, _, _, isAssignment⟩ := reads
  cases isAssignment
  exact (Reader.eq_append_of_name? readsName).2

/-- What is declared is a name. -/
theorem Declaration.isName_of_ofCode?
    {code : Text}
    {declaration : Declaration}
    (declares : ofCode? code = some declaration) :
    Text.isName declaration.name = true := by
  rcases ofCode?_eq_some_iff.mp declares with ⟨line, _, rfl⟩ | ⟨_, line, _, rfl⟩
  · exact line.binding.named
  · exact line.binding.named

namespace Outline

/-- The first declarations are among all declarations. -/
theorem mem_of_mem_firstDeclarations
    {declarations : List Variable}
    {declared : Variable}
    (member : declared ∈ firstDeclarations declarations) :
    declared ∈ declarations :=
  List.mem_of_find?_eq_some (mem_eraseDupsBy_iff.mp member)

/-- A variable that lines declare has a name. -/
theorem isName_of_mem_declarationsFrom
    {inside : Bool}
    {lines : List Line}
    {declared : Variable}
    (member : declared ∈ declarationsFrom inside lines) :
    Text.isName declared.name = true := by
  fun_induction declarationsFrom inside lines with
  | case1 =>
      cases member
  | case2 inside line rest isBlank inductionHypothesis =>
      exact inductionHypothesis member
  | case3 inside line rest isCode opens inductionHypothesis =>
      exact inductionHypothesis member
  | case4 inside line rest isCode notOpener declaration declares counts inductionHypothesis =>
      rcases List.mem_cons.mp member with rfl | isLater
      · exact Declaration.isName_of_ofCode? declares
      · exact inductionHypothesis isLater
  | case5 inside line rest isCode notOpener declaration declares skipped inductionHypothesis =>
      exact inductionHypothesis member
  | case6 inside line rest isCode notOpener declaresNothing inductionHypothesis =>
      exact inductionHypothesis member

/-- The variables of a script are names. -/
theorem isName_of_mem_declared
    {script : Text}
    {declared : Variable}
    (member : declared ∈ (ofScript script).declared) :
    Text.isName declared.name = true :=
  isName_of_mem_declarationsFrom (mem_of_mem_firstDeclarations member)

end Outline

namespace LockPattern

variable {outline : Outline}

/-- What a line increments is a name. -/
theorem isName_of_incrementedOn
    {line : Line}
    {names : List Text}
    (found : incrementedOn line = .ok names)
    {name : Text}
    (member : name ∈ names) :
    Text.isName name = true := by
  obtain ⟨read, isRead, isNames⟩ := Outcome.exists_of_bind found
  cases isNames
  obtain ⟨incremented, inRead, isName⟩ := List.mem_filterMap.mp member
  obtain ⟨assignment, assigned, returned⟩ := (Outcome.mem_mapM_iff isRead).mp inRead
  obtain ⟨increment, _, isKept⟩ := Outcome.exists_of_bind returned
  cases isKept
  have sameName := (Option.filter_eq_some_iff.mp isName).2
  rw [eq_of_beq sameName]
  exact Assignment.isName_of_mem_inCode assigned

/-- A variable with a cooldown is one to which some line assigns. -/
theorem isName_of_mem_cooldowns
    {cooling : List Candidate}
    (found : cooldowns outline = .ok cooling)
    {candidate : Candidate}
    (member : candidate ∈ cooling) :
    Text.isName candidate.name = true := by
  obtain ⟨incremented, isIncremented, isCooling⟩ := Outcome.exists_of_bind found
  cases isCooling
  have inFlatten := List.contains_iff_mem.mp (List.mem_filter.mp member).2
  obtain ⟨names, inIncremented, isMember⟩ := List.mem_flatten.mp inFlatten
  obtain ⟨line, _, onLine⟩ := (Outcome.mem_mapM_iff isIncremented).mp inIncremented
  exact isName_of_incrementedOn onLine isMember

/-- Only declared variables are exclusive states. -/
theorem exists_declared_of_mem_exclusiveStates
    {exclusive : List Candidate}
    (found : exclusiveStates outline = .ok exclusive)
    {candidate : Candidate}
    (member : candidate ∈ exclusive) :
    ∃ declared ∈ outline.declared, declared.name = candidate.name := by
  obtain ⟨seen, _, isExclusive⟩ := Outcome.exists_of_bind found
  cases isExclusive
  obtain ⟨declared, kept, rfl⟩ := List.mem_map.mp member
  have isInteger := (List.mem_filter.mp kept).1
  exact ⟨declared, (List.mem_filter.mp isInteger).1, rfl⟩

/-- Only declared variables are flags of one-time events. -/
theorem exists_declared_of_mem_oneTimeEvents
    {candidate : Candidate}
    (member : candidate ∈ oneTimeEvents outline) :
    ∃ declared ∈ outline.declared, declared.name = candidate.name := by
  obtain ⟨declared, kept, rfl⟩ := List.mem_map.mp member
  have isFalse := (List.mem_filter.mp kept).1
  have isFlag := (List.mem_filter.mp isFalse).1
  exact ⟨declared, (List.mem_filter.mp isFlag).1, rfl⟩

/-- A bare line makes the comparisons of the line. -/
@[simp] theorem comparisonsOn_bare
    (line : Line) :
    comparisonsOn line.bare = comparisonsOn line := by
  simp [comparisonsOn]

/-- The cooldowns are those of the bare outline, and so is a failure to find them. -/
theorem cooldowns_bare
    (outline : Outline) :
    cooldowns outline.bare = cooldowns outline := by
  have sameIncremented : incrementedOn ∘ Line.bare = incrementedOn := by
    funext line
    simp [incrementedOn]
  have sameTimed (line : Line) : timedOn line.bare = timedOn line := by
    simp [timedOn]
  unfold cooldowns
  simp only [Outline.lines_bare, List.mapM_map, List.flatMap_map, sameIncremented, sameTimed]

/-- The one-time events are those of the bare outline. -/
theorem oneTimeEvents_bare
    (outline : Outline) :
    oneTimeEvents outline.bare = oneTimeEvents outline := by
  have sameAssigned (name word : Text) (line : Line) :
      assignsWord name word line.bare = assignsWord name word line := by
    simp [assignsWord]
  have sameCompared (name : Text) (line : Line) :
      comparesWithFalse name line.bare = comparesWithFalse name line := by
    simp [comparesWithFalse]
  unfold oneTimeEvents
  simp only [Outline.lines_bare, List.any_map, Function.comp_def, sameAssigned, sameCompared]
  rfl

/-- The exclusive states are those of the bare outline, and so is a failure to find them. -/
theorem exclusiveStates_bare
    (outline : Outline) :
    exclusiveStates outline.bare = exclusiveStates outline := by
  have sameValues (names : List Text) (line : Line) :
      valuesOn names line.bare = valuesOn names line := by
    simp [valuesOn]
  unfold exclusiveStates
  simp only [Outline.lines_bare, List.flatMap_map, sameValues]
  rfl

/-- The locks are those of the bare outline, as the declared variables have names. -/
theorem find_bare
    (named : ∀ declared ∈ outline.declared, Text.isName declared.name = true) :
    find outline.bare = find outline := by
  have sameMentions (kind : LockKind) (candidates : List Candidate)
      (areNames : ∀ candidate ∈ candidates, Text.isName candidate.name = true) :
      (candidates.map fun candidate =>
        (⟨candidate.name, candidate.line, kind,
          outline.bare.eventsMentioning candidate.name⟩ : LockPattern)) =
        candidates.map fun candidate =>
          ⟨candidate.name, candidate.line, kind, outline.eventsMentioning candidate.name⟩ := by
    refine List.map_congr_left fun candidate member => ?_
    rw [outline.eventsMentioning_bare (areNames candidate member)]
  unfold find
  rw [cooldowns_bare, exclusiveStates_bare, oneTimeEvents_bare]
  cases cool : cooldowns outline with
  | error fault =>
      rfl
  | ok cooling =>
      cases exclude : exclusiveStates outline with
      | error fault =>
          rfl
      | ok exclusive =>
          have ofCooling :=
            sameMentions .globalCooldown cooling fun _ => isName_of_mem_cooldowns cool
          have ofOneTime := sameMentions .oneTimeEvent (oneTimeEvents outline)
            fun candidate member => by
              obtain ⟨declared, isDeclared, isName⟩ := exists_declared_of_mem_oneTimeEvents member
              exact isName ▸ named declared isDeclared
          have ofExclusive := sameMentions .exclusiveState exclusive fun candidate member => by
            obtain ⟨declared, isDeclared, isName⟩ :=
              exists_declared_of_mem_exclusiveStates exclude member
            exact isName ▸ named declared isDeclared
          simp only [bind, Except.bind, ofCooling, ofOneTime, ofExclusive]

end LockPattern

end MissionLint
