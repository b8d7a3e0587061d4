import MissionLint.Proofs.Script.Collection

namespace MissionLint

/-!
# Which block owns a line

The openers of a script cut its lines into blocks.  A block has the commands between
its opener and the next one, so the blocks do not overlap, and the block found for a
line is the only one that reaches over it.
-/

/-- Whether an open block takes a line that is no opener. -/
def Line.isCommand (line : Line) : Bool :=
  !line.isBlank && !Outline.isTypedDeclaration line.code

namespace Opener

/-- An opener has a colon. -/
theorem colon_mem_of_ofCode?
    {code name : Text}
    (opens : ofCode? code = some name) :
    (':' : CodePoint) ∈ code := by
  obtain ⟨line, rfl, _⟩ := ofCode?_eq_some_iff.mp opens
  exact List.mem_append_right _
    (List.mem_append_right _ (List.mem_append_left _ List.mem_cons_self))

/-- An opener opens a name. -/
theorem isName_of_ofCode?
    {code name : Text}
    (opens : ofCode? code = some name) :
    Text.isName name = true := by
  obtain ⟨line, _, rfl⟩ := ofCode?_eq_some_iff.mp opens
  exact line.named

/-- A blank line opens no block. -/
theorem ofCode?_of_isBlank
    {line : Line}
    (blank : line.isBlank = true) :
    ofCode? line.code = none := by
  cases opens : ofCode? line.code with
  | none =>
      rfl
  | some name =>
      have visible := Text.mem_strip (colon_mem_of_ofCode? opens) (by decide)
      rw [Line.isBlank, List.isEmpty_iff] at blank
      simp [blank] at visible

end Opener

namespace Outline

/-- The openers among some lines, with their numbers and the names that they open. -/
def openers (lines : List Line) : List (Nat × Text) :=
  lines.filterMap fun line => (Opener.ofCode? line.code).map fun name => (line.number, name)

/-- The command lines after a number, and before another one when there is one. -/
def commandsBetween (lines : List Line) (start : Nat) (next : Option Nat) : List Line :=
  lines.filter fun line =>
    decide (start < line.number) && next.all (fun stop => decide (line.number < stop)) &&
      line.isCommand

/-- Each block has the commands between its opener and the opener of the next one. -/
def Delimited (lines : List Line) : List Event → Prop
  | [] => True
  | event :: rest =>
      event.commands = commandsBetween lines event.start (rest.head?.map Event.start) ∧
        Delimited lines rest

/-! ## Cutting lines into blocks -/

/-- The open block comes first, and every opener starts a block. -/
theorem openers_blocksFrom
    (current : Option Event)
    (lines : List Line) :
    (blocksFrom current lines).map (fun event => (event.start, event.name)) =
      current.toList.map (fun event => (event.start, event.name)) ++ openers lines := by
  fun_induction blocksFrom current lines with
  | case1 current =>
      simp [openers]
  | case2 current line rest isBlank inductionHypothesis =>
      rw [inductionHypothesis]
      simp [openers, Opener.ofCode?_of_isBlank isBlank]
  | case3 current line rest isCode name opens inductionHypothesis =>
      rw [List.map_append, inductionHypothesis]
      simp [openers, opens]
  | case4 line rest isCode notOpener inductionHypothesis =>
      rw [inductionHypothesis]
      simp [openers, notOpener]
  | case5 line rest isCode notOpener block isTyped inductionHypothesis =>
      rw [inductionHypothesis]
      simp [openers, notOpener]
  | case6 line rest isCode notOpener block notTyped inductionHypothesis =>
      rw [inductionHypothesis]
      simp [openers, notOpener]

/-- The block that is open comes first. -/
theorem head?_blocksFrom_some
    (block : Event)
    (lines : List Line) :
    (blocksFrom (some block) lines).head?.map Event.start = some block.start := by
  have starts := congrArg (fun heads => heads.head?.map Prod.fst)
    (openers_blocksFrom (some block) lines)
  simpa [List.head?_map, Function.comp_def] using starts

/-- A later line bounds the commands of a block: all lines before it are below its
number, and no line from it on is. -/
theorem commandsBetween_append
    {lines rest : List Line}
    {line : Line}
    (sorted : (lines ++ line :: rest).Pairwise fun earlier later => earlier.number < later.number)
    (start : Nat) :
    commandsBetween (lines ++ line :: rest) start (some line.number) =
      commandsBetween lines start none := by
  obtain ⟨_, sortedRest, across⟩ := List.pairwise_append.mp sorted
  have later : commandsBetween (line :: rest) start (some line.number) = [] := by
    rw [commandsBetween, List.filter_eq_nil_iff]
    intro other member
    have notBelow : ¬other.number < line.number := by
      rcases List.mem_cons.mp member with rfl | inRest
      · exact Nat.lt_irrefl _
      · exact Nat.lt_asymm (List.rel_of_pairwise_cons sortedRest inRest)
    simp [notBelow]
  have earlier :
      commandsBetween lines start (some line.number) = commandsBetween lines start none := by
    refine List.filter_congr fun other member => ?_
    simp [across other member line List.mem_cons_self]
  calc
    commandsBetween (lines ++ line :: rest) start (some line.number)
    _ = commandsBetween lines start (some line.number) ++
          commandsBetween (line :: rest) start (some line.number) := List.filter_append ..
    _ = commandsBetween lines start none := by
      rw [later, earlier, List.append_nil]

/-- The lines that were passed already have no commands after a line with a number at
least as great as theirs. -/
theorem commandsBetween_eq_nil
    {lines : List Line}
    {start : Nat}
    (passed : ∀ line ∈ lines, line.number ≤ start) :
    commandsBetween lines start none = [] := by
  rw [commandsBetween, List.filter_eq_nil_iff]
  intro line member
  simp [Nat.not_lt.mpr (passed line member)]

/-- A block that is open between lines that were passed and lines to come: it has the
commands so far. -/
structure IsOpen (passed coming : List Line) (block : Event) : Prop where
  commands_eq : block.commands = commandsBetween passed block.start none
  start_lt : ∀ line ∈ coming, block.start < line.number

/-- An open block takes the next line when that is a command. -/
theorem IsOpen.pass
    {passed rest : List Line}
    {line : Line}
    {block : Event}
    (isOpen : IsOpen passed (line :: rest) block)
    {commands : List Line}
    (takes : commands = block.commands ++ [line].filter Line.isCommand) :
    IsOpen (passed ++ [line]) rest { block with commands := commands } where
  commands_eq := by
    have after := isOpen.start_lt line List.mem_cons_self
    simp only [commandsBetween, List.filter_append]
    rw [takes, isOpen.commands_eq, commandsBetween]
    simp [List.filter_cons, after]
  start_lt later member := isOpen.start_lt later (List.mem_cons_of_mem line member)

/-- The blocks of the lines to come are delimited among all lines.  Every line joins those that
were passed, and an opener also ends the open block. -/
theorem delimited_blocksFrom
    (passed : List Line)
    (current : Option Event)
    (lines : List Line)
    (sorted : (passed ++ lines).Pairwise fun earlier later => earlier.number < later.number)
    (isOpen : ∀ block ∈ current, IsOpen passed lines block) :
    Delimited (passed ++ lines) (blocksFrom current lines) := by
  fun_induction blocksFrom current lines generalizing passed with
  | case1 current =>
      cases current with
      | none =>
          trivial
      | some block =>
          simpa [Delimited] using (isOpen block rfl).commands_eq
  | case2 current line rest isBlank inductionHypothesis =>
      rw [List.append_cons] at sorted ⊢
      refine inductionHypothesis _ sorted fun block isCurrent => ?_
      exact (isOpen block isCurrent).pass (by simp [Line.isCommand, isBlank])
  | case3 current line rest isCode name opens inductionHypothesis =>
      have started : IsOpen (passed ++ [line]) rest ⟨name, line.number, [], none⟩ := by
        obtain ⟨_, sortedRest, across⟩ := List.pairwise_append.mp sorted
        refine ⟨(commandsBetween_eq_nil ?_).symm, fun later => List.rel_of_pairwise_cons sortedRest⟩
        intro earlier member
        rcases List.mem_append.mp member with isPassed | isLine
        · exact Nat.le_of_lt (across earlier isPassed line List.mem_cons_self)
        · rw [List.mem_singleton.mp isLine]
      have others : Delimited (passed ++ line :: rest)
          (blocksFrom (some ⟨name, line.number, [], none⟩) rest) := by
        rw [List.append_cons] at sorted ⊢
        exact inductionHypothesis _ sorted (by simpa using started)
      cases current with
      | none =>
          exact others
      | some block =>
          rw [Option.toList_some, List.singleton_append]
          refine ⟨?_, others⟩
          rw [head?_blocksFrom_some, commandsBetween_append sorted]
          exact (isOpen block rfl).commands_eq
  | case4 line rest isCode notOpener inductionHypothesis =>
      rw [List.append_cons] at sorted ⊢
      exact inductionHypothesis _ sorted (by simp)
  | case5 line rest isCode notOpener block isTyped inductionHypothesis =>
      rw [List.append_cons] at sorted ⊢
      refine inductionHypothesis _ sorted fun _ isCurrent => ?_
      cases isCurrent
      exact (isOpen block rfl).pass (by simp [Line.isCommand, isTyped])
  | case6 line rest isCode notOpener block notTyped inductionHypothesis =>
      rw [List.append_cons] at sorted ⊢
      refine inductionHypothesis _ sorted fun _ isCurrent => ?_
      cases isCurrent
      exact (isOpen block rfl).pass (by simp [Line.isCommand, isCode, notTyped])

/-- A script's lines are in the order of their numbers. -/
theorem pairwise_number_ofScript
    (script : Text) :
    (Line.ofScript script).Pairwise fun earlier later => earlier.number < later.number :=
  Line.pairwise_number_numberFrom 1 _

/-- Looking up guards changes neither where blocks start nor which commands they have. -/
theorem Delimited.map_guard
    {lines : List Line}
    {events : List Event}
    (delimited : Delimited lines events)
    (guardOf : Event → Option Text) :
    Delimited lines (events.map fun event => { event with guard := guardOf event }) := by
  induction events with
  | nil =>
      trivial
  | cons event rest inductionHypothesis =>
      obtain ⟨commands, others⟩ := delimited
      refine ⟨?_, inductionHypothesis others⟩
      simpa [List.head?_map, Function.comp_def] using commands

/-- The blocks of a script reach from opener to opener. -/
theorem delimited_ofScript
    (script : Text) :
    Delimited (Line.ofScript script) (ofScript script).events :=
  (delimited_blocksFrom [] none _ (pairwise_number_ofScript script) (by simp)).map_guard _

/-- The blocks of a script are its openers, in their order. -/
theorem openers_ofScript
    (script : Text) :
    (ofScript script).events.map (fun event => (event.start, event.name)) =
      openers (Line.ofScript script) := by
  have cut := openers_blocksFrom none (Line.ofScript script)
  simpa [ofScript, ofLines, Function.comp_def] using cut

/-- Every event of a script is a name. -/
theorem isName_of_mem_events
    {script : Text}
    {event : Event}
    (isBlock : event ∈ (ofScript script).events) :
    Text.isName event.name = true := by
  have isOpener : (event.start, event.name) ∈ openers (Line.ofScript script) := by
    rw [← openers_ofScript]
    exact List.mem_map.mpr ⟨event, isBlock, rfl⟩
  obtain ⟨line, _, opens⟩ := List.mem_filterMap.mp isOpener
  obtain ⟨name, isOpened, isPair⟩ := Option.map_eq_some_iff.mp opens
  rw [← (Prod.mk.inj isPair).2]
  exact Opener.isName_of_ofCode? isOpened

/-- Openers are found in the order of the lines. -/
theorem pairwise_start_ofScript
    (script : Text) :
    (ofScript script).events.Pairwise fun earlier later => earlier.start < later.start := by
  have inOrder : (openers (Line.ofScript script)).Pairwise
      fun earlier later => earlier.1 < later.1 := by
    refine List.Pairwise.filterMap _ ?_ (pairwise_number_ofScript script)
    intro earlier later grows first isFirst second isSecond
    obtain ⟨_, _, rfl⟩ := Option.map_eq_some_iff.mp isFirst
    obtain ⟨_, _, rfl⟩ := Option.map_eq_some_iff.mp isSecond
    exact grows
  rw [← openers_ofScript, List.pairwise_map] at inOrder
  exact inOrder

/-! ## The reach of a block -/

/-- The commands of a block are the lines up to the next opener. -/
theorem Delimited.commands_get
    {lines : List Line}
    {events : List Event}
    (delimited : Delimited lines events)
    (index : Fin events.length) :
    (events.get index).commands =
      commandsBetween lines (events.get index).start
        (events[index.val + 1]?.map Event.start) := by
  induction events with
  | nil =>
      exact index.elim0
  | cons event rest inductionHypothesis =>
      obtain ⟨commands, others⟩ := delimited
      cases index using Fin.cases with
      | zero =>
          simpa [List.head?_eq_getElem?] using commands
      | succ index =>
          simpa using inductionHypothesis others index

/-- Commands come after the opener of their block. -/
theorem Delimited.start_lt_of_mem_commands
    {lines : List Line}
    {events : List Event}
    (delimited : Delimited lines events)
    {event : Event}
    (isBlock : event ∈ events)
    {line : Line}
    (isCommand : line ∈ event.commands) :
    event.start < line.number := by
  obtain ⟨index, rfl⟩ := List.mem_iff_get.mp isBlock
  rw [delimited.commands_get, commandsBetween, List.mem_filter] at isCommand
  simp only [Bool.and_eq_true, decide_eq_true_eq] at isCommand
  exact isCommand.2.1.1

end Outline

namespace Event

/-- A block ends with its last command, or with its opener. -/
theorem finish_eq
    (event : Event) :
    event.finish = event.start ∨ ∃ line ∈ event.commands, event.finish = line.number := by
  unfold finish
  cases last : event.commands.getLast? with
  | none =>
      exact .inl rfl
  | some line =>
      exact .inr ⟨line, List.mem_of_getLast? last, rfl⟩

/-- A block ends with its last command. -/
theorem number_le_finish
    {event : Event}
    (sorted : event.commands.Pairwise fun earlier later => earlier.number < later.number)
    {line : Line}
    (isCommand : line ∈ event.commands) :
    line.number ≤ event.finish := by
  have nonempty := List.ne_nil_of_mem isCommand
  have shape := List.dropLast_concat_getLast nonempty
  rw [finish, List.getLast?_eq_some_getLast nonempty]
  rw [← shape] at sorted isCommand
  rcases List.mem_append.mp isCommand with isEarlier | isLast
  · exact Nat.le_of_lt ((List.pairwise_append.mp sorted).2.2 line isEarlier _ (by simp))
  · rw [List.mem_singleton.mp isLast]
    rfl

/-- A block owns the lines from its start to its end. -/
theorem owns_eq_true_iff
    (event : Event)
    (number : Nat) :
    event.owns number = true ↔ event.start ≤ number ∧ number ≤ event.finish := by
  simp [owns]

end Event

namespace Outline

/-- Every block ends before all later blocks start. -/
theorem Delimited.pairwise_finish
    {lines : List Line}
    {events : List Event}
    (delimited : Delimited lines events)
    (inOrder : events.Pairwise fun earlier later => earlier.start < later.start) :
    events.Pairwise fun earlier later => earlier.finish < later.start := by
  induction events with
  | nil =>
      exact .nil
  | cons event rest inductionHypothesis =>
      obtain ⟨commands, others⟩ := delimited
      obtain ⟨startsFirst, restInOrder⟩ := List.pairwise_cons.mp inOrder
      refine List.pairwise_cons.mpr ⟨?_, inductionHypothesis others restInOrder⟩
      intro later isLater
      rcases event.finish_eq with isStart | ⟨line, isCommand, isNumber⟩
      · rw [isStart]
        exact startsFirst later isLater
      · cases rest with
        | nil =>
            cases isLater
        | cons next afterNext =>
            rw [commands, commandsBetween, List.mem_filter] at isCommand
            simp only [List.head?_cons, Option.map_some, Option.all_some, Bool.and_eq_true,
              decide_eq_true_eq] at isCommand
            have belowNext : line.number < next.start := isCommand.2.1.2
            rw [isNumber]
            rcases List.mem_cons.mp isLater with rfl | isFurther
            · exact belowNext
            · exact belowNext.trans (List.rel_of_pairwise_cons restInOrder isFurther)

/-- No block ends before it starts. -/
theorem Delimited.start_le_finish
    {lines : List Line}
    {events : List Event}
    (delimited : Delimited lines events)
    {event : Event}
    (isBlock : event ∈ events) :
    event.start ≤ event.finish := by
  rcases event.finish_eq with isStart | ⟨line, isCommand, isNumber⟩
  · exact Nat.le_of_eq isStart.symm
  · rw [isNumber]
    exact Nat.le_of_lt (delimited.start_lt_of_mem_commands isBlock isCommand)

/-- A block reaches over its opener and its commands. -/
theorem owns_start_and_commands
    {script : Text}
    {event : Event}
    (isBlock : event ∈ (ofScript script).events) :
    event.owns event.start = true ∧
      ∀ line ∈ event.commands, event.owns line.number = true := by
  have delimited := delimited_ofScript script
  simp only [Event.owns_eq_true_iff]
  refine ⟨⟨Nat.le_refl _, delimited.start_le_finish isBlock⟩, fun line isCommand => ?_⟩
  have sorted := (List.pairwise_flatMap.mp (pairwise_number_commands script)).1 event isBlock
  exact ⟨Nat.le_of_lt (delimited.start_lt_of_mem_commands isBlock isCommand),
    Event.number_le_finish sorted isCommand⟩

/-- No line is owned by two blocks. -/
theorem pairwise_not_owns
    (script : Text) :
    (ofScript script).events.Pairwise
      fun earlier later => ∀ number, ¬(earlier.owns number = true ∧ later.owns number = true) := by
  refine ((delimited_ofScript script).pairwise_finish (pairwise_start_ofScript script)).imp ?_
  intro earlier later ends number bothOwn
  simp only [Event.owns_eq_true_iff] at bothOwn
  omega

/-- At most one block reaches over a line, so the first one found is the one. -/
theorem eventAt?_eq_some_iff
    (script : Text)
    (number : Nat)
    (event : Event) :
    (ofScript script).eventAt? number = some event ↔
      event ∈ (ofScript script).events ∧ event.owns number = true := by
  unfold eventAt?
  have apart := pairwise_not_owns script
  generalize (ofScript script).events = events at apart
  induction events with
  | nil =>
      simp
  | cons first rest inductionHypothesis =>
      obtain ⟨firstApart, restApart⟩ := List.pairwise_cons.mp apart
      rw [List.find?_cons]
      cases owned : first.owns number with
      | false =>
          refine (inductionHypothesis restApart).trans (and_congr_left fun owns => ?_)
          refine ⟨List.mem_cons_of_mem first, fun member => ?_⟩
          rcases List.mem_cons.mp member with rfl | inRest
          · simp [owned] at owns
          · exact inRest
      | true =>
          simp only [Option.some.injEq, List.mem_cons]
          constructor
          · rintro rfl
            exact ⟨.inl rfl, owned⟩
          · rintro ⟨rfl | inRest, owns⟩
            · rfl
            · exact absurd ⟨owned, owns⟩ (firstApart event inRest number)

/-- The openers of a script cut it into blocks.  Each block has the commands between its
opener and the next one, no two blocks overlap, and the block found for a line is the
only one that reaches over it. -/
theorem blocks_ofScript
    (script : Text) :
    (ofScript script).events.Pairwise (fun earlier later => earlier.start < later.start) ∧
      (ofScript script).events.map (fun event => (event.start, event.name)) =
        openers (Line.ofScript script) ∧
      (∀ index : Fin (ofScript script).events.length,
        ((ofScript script).events.get index).commands =
          commandsBetween (Line.ofScript script) ((ofScript script).events.get index).start
            ((ofScript script).events[index.val + 1]?.map Event.start)) ∧
      (ofScript script).events.Pairwise (fun earlier later => ∀ number,
        ¬((earlier.start ≤ number ∧ number ≤ earlier.finish) ∧
          (later.start ≤ number ∧ number ≤ later.finish))) ∧
      (ofScript script).events.Pairwise (fun earlier later =>
        ∀ line ∈ earlier.commands, ∀ other ∈ later.commands, line.number ≠ other.number) ∧
      (∀ number event,
        (ofScript script).eventAt? number = some event ↔
          event ∈ (ofScript script).events ∧ event.start ≤ number ∧ number ≤ event.finish) ∧
      (∀ number,
        (ofScript script).eventAt? number = none ↔
          ∀ event ∈ (ofScript script).events,
            ¬(event.start ≤ number ∧ number ≤ event.finish)) ∧
      ∀ event ∈ (ofScript script).events,
        (ofScript script).eventAt? event.start = some event ∧
          ∀ line ∈ event.commands, (ofScript script).eventAt? line.number = some event := by
  have apart := pairwise_not_owns script
  have found := eventAt?_eq_some_iff script
  refine ⟨pairwise_start_ofScript script, openers_ofScript script,
    (delimited_ofScript script).commands_get, ?_, ?_, ?_, ?_, ?_⟩
  · simpa only [Event.owns_eq_true_iff] using apart
  · refine List.Pairwise.imp_of_mem ?_ apart
    intro earlier later isEarlier isLater neverBoth line inEarlier other inLater sameNumber
    have ownsLine := (owns_start_and_commands isEarlier).2 line inEarlier
    have ownsOther := (owns_start_and_commands isLater).2 other inLater
    exact neverBoth line.number ⟨ownsLine, sameNumber ▸ ownsOther⟩
  · simpa only [Event.owns_eq_true_iff] using found
  · intro number
    simp only [eventAt?, List.find?_eq_none, Event.owns_eq_true_iff]
  · intro event isBlock
    obtain ⟨ownsStart, ownsCommands⟩ := owns_start_and_commands isBlock
    exact ⟨(found _ _).mpr ⟨isBlock, ownsStart⟩,
      fun line isCommand => (found _ _).mpr ⟨isBlock, ownsCommands line isCommand⟩⟩

/-- A script with an empty block, two blocks of one name, and a declaration after the last
command. -/
theorem blocks_of_repeated_opener :
    let script : Text := "x = 1\nA::\nA::\nmsg:a;\ny = 2\nB::\n\nwin:;\nint z = 3"
    ∃ block ∈ (ofScript script).events,
      (block.start, block.finish) = (3, 5) ∧
        (ofScript script).eventAt? 3 = some block ∧
        (∀ line ∈ block.commands, (ofScript script).eventAt? line.number = some block) ∧
        (ofScript script).eventAt? 9 = none := by
  intro script
  have reach :
      (ofScript script).events.map (fun event => (event.start, event.finish)) =
        [(2, 2), (3, 5), (6, 8)] := by
    decide +kernel
  obtain ⟨_, _, _, _, _, _, unowned, owned⟩ := blocks_ofScript script
  have second :
      (3, 5) ∈ (ofScript script).events.map (fun event => (event.start, event.finish)) := by
    rw [reach]
    decide
  obtain ⟨block, isBlock, isSecond⟩ := List.mem_map.mp second
  obtain ⟨isStart, ownsCommands⟩ := owned block isBlock
  refine ⟨block, isBlock, isSecond, ?_, ownsCommands, (unowned 9).mpr ?_⟩
  · rwa [(Prod.mk.inj isSecond).1] at isStart
  · intro event isEvent
    have inReach := List.mem_map_of_mem (f := fun event => (event.start, event.finish)) isEvent
    rw [reach] at inReach
    simp only [List.mem_cons, Prod.mk.injEq, List.not_mem_nil, or_false] at inReach
    omega

end Outline

end MissionLint
