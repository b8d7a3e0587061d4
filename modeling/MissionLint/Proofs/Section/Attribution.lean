import MissionLint.Proofs.Section.ReadBack

namespace MissionLint

/-!
# Which commands an event keeps

An event of a section keeps exactly its own commands when no guard follows them.
So a section is read back as it was unless an event after the first has a condition:
then the event before it also refers to it.
-/

namespace SectionEvent

/-- An event has no guard without a condition, or with an empty one. -/
theorem guard?_eq_none_iff
    (event : SectionEvent) :
    event.guard? = none ↔ event.condition = none ∨ event.condition = some [] := by
  unfold guard?
  rcases event.condition with _ | _ | ⟨first, rest⟩ <;>
    simp [Option.filter]

/-- An event without a guard has no guard line. -/
theorem guardLines_eq_nil_iff
    (event : SectionEvent) :
    event.guardLines = [] ↔ event.guard? = none := by
  simp [guardLines]

/-- Every event is read back, in its order. -/
theorem map_fst_readBack
    (events : List SectionEvent) :
    (readBack events).map Prod.fst = events := by
  induction events with
  | nil =>
      rfl
  | cons event rest inductionHypothesis =>
      rw [readBack, List.map_cons, inductionHypothesis]

/-- When no later event has a guard, every event is read back with its own commands. -/
theorem readBack_of_unguarded
    {events : List SectionEvent}
    (unguarded : ∀ event ∈ events.tail, event.guard? = none) :
    readBack events =
      events.map fun event => (event, event.commands.map SectionCommand.toLine) := by
  induction events with
  | nil =>
      rfl
  | cons event rest inductionHypothesis =>
      have nextUnguarded : rest.head?.toList.flatMap guardLines = [] := by
        rw [List.flatMap_eq_nil_iff]
        intro next isNext
        rw [guardLines_eq_nil_iff]
        exact unguarded next (List.mem_of_mem_head? (Option.mem_toList.mp isNext))
      rw [readBack, nextUnguarded, List.append_nil,
        inductionHypothesis fun later member => unguarded later (List.mem_of_mem_tail member)]
      rfl

/-- The guard of an event after the first is read with the commands of another event. -/
theorem exists_readBack_of_mem_tail
    {events : List SectionEvent}
    {event : SectionEvent}
    (member : event ∈ events.tail) :
    ∃ read ∈ readBack events,
      event.guardLines ⊆ read.2 ∧ [read.1, event].Sublist events := by
  induction events with
  | nil =>
      cases member
  | cons first rest inductionHypothesis =>
      cases rest with
      | nil =>
          cases member
      | cons next others =>
          rcases List.mem_cons.mp member with rfl | later
          · refine ⟨_, List.mem_cons_self, ?_, ?_⟩
            · simp
            · simp
          · obtain ⟨read, isRead, kept, ordered⟩ := inductionHypothesis later
            exact ⟨read, List.mem_cons_of_mem _ isRead, kept, ordered.cons first⟩

/-- A guard refers to the event that it leads to. -/
theorem IsPlain.mem_references_of_mem_guardLines
    {event : SectionEvent}
    (plain : event.IsPlain)
    {line : Text}
    (member : line ∈ event.guardLines) :
    (event.name, .whenTrigger) ∈ EventGraph.references line := by
  obtain ⟨condition, isCondition, rfl⟩ := exists_of_mem_guardLines member
  have plainCondition := plain.condition condition isCondition
  have reads :=
    Trigger.inCode_guardCode plainCondition.oneLine plainCondition.unended plain.named
  simp [EventGraph.references, reads, ReferenceKind.ofTrigger]

end SectionEvent

/-- A plain line refers to no event by a guard. -/
theorem IsPlainLine.whenTrigger_not_mem_references
    {line : Text}
    (plain : IsPlainLine line)
    (target : Text) :
    (target, .whenTrigger) ∉ EventGraph.references line := by
  intro refers
  simp only [EventGraph.references, List.mem_append, List.mem_map, Prod.mk.injEq] at refers
  rcases refers with (⟨_, _, _, isCall⟩ | ⟨trigger, occurs, _, isKind⟩) | ⟨_, _, _, isCall⟩
  · cases isCall
  · have notGuard := plain.unguarded trigger occurs
    cases isWord : trigger.word with
    | onWhen =>
        simp [Trigger.isGuard, isWord] at notGuard
    | onIf =>
        simp [ReferenceKind.ofTrigger, isWord] at isKind
  · cases isCall

/-- A line without a comment and a parenthesis is plain. -/
theorem isPlainLine_of_not_mem
    {line : Text}
    (oneLine : ('\n' : CodePoint) ∉ line)
    (uncommented : ('#' : CodePoint) ∉ line)
    (noParenthesis : ('(' : CodePoint) ∉ line) :
    IsPlainLine line where
  oneLine := oneLine
  uncommented := uncommented
  unguarded := by
    simp [Trigger.inCode_eq_nil noParenthesis]

/-- An event without parentheses, line breaks and hashes is plain. -/
theorem SectionEvent.isPlain_of_not_mem
    {event : SectionEvent}
    (named : Text.isName event.name = true)
    (condition : ∀ c ∈ event.condition.getD [],
      c ∉ [('\n' : CodePoint), ('#' : CodePoint), (')' : CodePoint)])
    (commands : ∀ command ∈ event.commands, ∀ c ∈ command.toLine,
      c ∉ [('\n' : CodePoint), ('#' : CodePoint), ('(' : CodePoint)])
    (untyped : ∀ command ∈ event.commands,
      Outline.isTypedDeclaration command.toLine = false) :
    event.IsPlain where
  named := named
  condition := by
    intro text isCondition
    rw [isCondition, Option.getD_some] at condition
    refine ⟨fun member => ?_, fun member => ?_, ?_⟩
    · exact condition _ member (by decide)
    · exact condition _ member (by decide)
    · intro rest isSuffix
      unfold Trigger.endsCondition
      split
      · exact absurd (by decide) (condition _ (isSuffix.subset List.mem_cons_self))
      · rfl
  commands := by
    intro command member
    exact isPlainLine_of_not_mem
      (fun inLine => commands command member _ inLine (by decide))
      (fun inLine => commands command member _ inLine (by decide))
      (fun inLine => commands command member _ inLine (by decide))
  untyped := untyped

namespace ScriptSection

variable {script : ScriptSection} {text : Text}

/-- What a block holds is read back of an event. -/
theorem IsPlain.exists_readBack_of_mem_events
    (plain : script.IsPlain)
    (isText : script.toScript = .ok text)
    {block : Event}
    (member : block ∈ (Outline.ofScript text).events) :
    ∃ read ∈ SectionEvent.readBack script.events,
      block.name = read.1.name ∧ block.commands.map Line.code = read.2 := by
  have described := List.mem_map_of_mem
    (f := fun block : Event => (block.name, block.guard, block.commands.map Line.code)) member
  rw [plain.events_ofScript isText] at described
  obtain ⟨read, isRead, same⟩ := List.mem_map.mp described
  simp only [Prod.mk.injEq] at same
  exact ⟨read, isRead, same.1.symm, same.2.2.symm⟩

/-- What is read back of an event is held by a block. -/
theorem IsPlain.exists_events_of_mem_readBack
    (plain : script.IsPlain)
    (isText : script.toScript = .ok text)
    {read : SectionEvent × List Text}
    (member : read ∈ SectionEvent.readBack script.events) :
    ∃ block ∈ (Outline.ofScript text).events,
      block.name = read.1.name ∧ block.commands.map Line.code = read.2 := by
  have described := List.mem_map_of_mem
    (f := fun read : SectionEvent × List Text =>
      (read.1.name, read.1.guard?.map fun trigger => Text.strip trigger.condition, read.2)) member
  rw [← plain.events_ofScript isText] at described
  obtain ⟨block, isBlock, same⟩ := List.mem_map.mp described
  simp only [Prod.mk.injEq] at same
  exact ⟨block, isBlock, same.1, same.2.2⟩

/-- The blocks of a plain section are its events. -/
theorem IsPlain.names_events
    (plain : script.IsPlain)
    (isText : script.toScript = .ok text) :
    (Outline.ofScript text).events.map Event.name =
      script.events.map SectionEvent.name := by
  have names := congrArg (List.map fun described => described.1) (plain.events_ofScript isText)
  rw [List.map_map, List.map_map] at names
  rw [← SectionEvent.map_fst_readBack script.events, List.map_map]
  exact names

/-- The blocks of a plain section have the conditions of its events as their guards. -/
theorem IsPlain.guards_events
    (plain : script.IsPlain)
    (isText : script.toScript = .ok text) :
    (Outline.ofScript text).events.map Event.guard =
      script.events.map fun event =>
        (event.condition.filter fun condition => !condition.isEmpty).map Text.strip := by
  have guards := congrArg (List.map fun described => described.2.1) (plain.events_ofScript isText)
  rw [List.map_map, List.map_map] at guards
  rw [← SectionEvent.map_fst_readBack script.events, List.map_map]
  simpa [Function.comp_def, SectionEvent.guard?] using guards

/-- The blocks of a plain section have the commands that are read back for its events. -/
theorem IsPlain.codes_events
    (plain : script.IsPlain)
    (isText : script.toScript = .ok text) :
    (Outline.ofScript text).events.map (fun block => block.commands.map Line.code) =
      (SectionEvent.readBack script.events).map Prod.snd := by
  have codes := congrArg (List.map fun described => described.2.2) (plain.events_ofScript isText)
  rwa [List.map_map, List.map_map] at codes

/-- No command of a plain section writes a guard. -/
theorem IsPlain.whenTrigger_not_written
    (plain : script.IsPlain)
    {event : SectionEvent}
    (member : event ∈ script.events)
    {line : Text}
    (isOwn : line ∈ event.commands.map SectionCommand.toLine)
    (target : Text) :
    (target, .whenTrigger) ∉ EventGraph.references line := by
  obtain ⟨command, isCommand, rfl⟩ := List.mem_map.mp isOwn
  exact ((plain.events event member).commands command isCommand).whenTrigger_not_mem_references
    target

/-- An event after the first that has a guard is referred to from the event before it. -/
theorem IsPlain.exists_reference_of_guarded
    (plain : script.IsPlain)
    {event : SectionEvent}
    (member : event ∈ script.events.tail)
    (guarded : event.guard? ≠ none) :
    ∃ read ∈ SectionEvent.readBack script.events,
      read.1.name ≠ event.name ∧
        ∃ line ∈ read.2, (event.name, .whenTrigger) ∈ EventGraph.references line := by
  obtain ⟨read, isRead, kept, ordered⟩ := SectionEvent.exists_readBack_of_mem_tail member
  have written : event.guardLines ≠ [] := mt (SectionEvent.guardLines_eq_nil_iff event).mp guarded
  obtain ⟨line, isGuard⟩ := List.exists_mem_of_ne_nil _ written
  have eventPlain := plain.events event (List.mem_of_mem_tail member)
  have pair := plain.distinct.sublist (ordered.map SectionEvent.name)
  exact ⟨read, isRead, by simpa using pair, line, kept isGuard,
    eventPlain.mem_references_of_mem_guardLines isGuard⟩

/-- The events keep exactly their own commands when only the first one has a guard. -/
theorem IsPlain.codes_iff
    (plain : script.IsPlain)
    (isText : script.toScript = .ok text) :
    (Outline.ofScript text).events.map (fun block => block.commands.map Line.code) =
        script.events.map (fun event => event.commands.map SectionCommand.toLine) ↔
      ∀ event ∈ script.events.tail, event.guard? = none := by
  rw [plain.codes_events isText]
  constructor
  · intro own event member
    by_contra guarded
    obtain ⟨read, isRead, _, line, inRead, refers⟩ :=
      plain.exists_reference_of_guarded member guarded
    have isOwn := List.mem_map_of_mem (f := Prod.snd) isRead
    rw [own] at isOwn
    obtain ⟨other, inScript, same⟩ := List.mem_map.mp isOwn
    rw [← same] at inRead
    exact plain.whenTrigger_not_written inScript inRead event.name refers
  · intro unguarded
    rw [SectionEvent.readBack_of_unguarded unguarded]
    simp

/-- The commands write all edges when only the first event has a guard.  Any other
guard is an edge from the event before it. -/
theorem IsPlain.edges_iff
    (plain : script.IsPlain)
    (isText : script.toScript = .ok text) :
    (∀ edge ∈ (EventGraph.ofOutline (Outline.ofScript text)).edges,
        ∃ event ∈ script.events, event.Writes edge) ↔
      ∀ event ∈ script.events.tail, event.guard? = none := by
  constructor
  · intro written event member
    by_contra guarded
    obtain ⟨read, isRead, apart, code, inRead, refers⟩ :=
      plain.exists_reference_of_guarded member guarded
    obtain ⟨block, isBlock, isName, codes⟩ := plain.exists_events_of_mem_readBack isText isRead
    rw [← codes] at inRead
    obtain ⟨line, isLine, rfl⟩ := List.mem_map.mp inRead
    have isEdge :
        (⟨block.name, event.name, .whenTrigger, line.number⟩ : Edge) ∈
          (EventGraph.ofOutline (Outline.ofScript text)).edges := by
      rw [EventGraph.edges_ofOutline, List.mem_filter]
      refine ⟨List.mem_flatMap.mpr ⟨block, isBlock, EventGraph.mem_referencesOf.mpr ?_⟩, ?_⟩
      · exact ⟨rfl, line, isLine, rfl, refers⟩
      · simpa [isName] using apart
    obtain ⟨other, inScript, _, command, isCommand, refersToo⟩ := written _ isEdge
    exact plain.whenTrigger_not_written inScript (List.mem_map_of_mem isCommand) event.name
      refersToo
  · intro unguarded edge isEdge
    rw [EventGraph.edges_ofOutline] at isEdge
    obtain ⟨block, isBlock, inBlock⟩ := List.mem_flatMap.mp (List.mem_filter.mp isEdge).1
    obtain ⟨isSource, line, isLine, _, refers⟩ := EventGraph.mem_referencesOf.mp inBlock
    obtain ⟨read, isRead, isName, codes⟩ := plain.exists_readBack_of_mem_events isText isBlock
    rw [SectionEvent.readBack_of_unguarded unguarded] at isRead
    obtain ⟨event, inScript, rfl⟩ := List.mem_map.mp isRead
    simp only at codes
    have isOwn : line.code ∈ event.commands.map SectionCommand.toLine :=
      codes ▸ List.mem_map_of_mem isLine
    obtain ⟨command, isCommand, isCode⟩ := List.mem_map.mp isOwn
    exact ⟨event, inScript, isSource.trans isName, command, isCommand, isCode ▸ refers⟩

/-- What a section and its reading have in common when nothing is lost and nothing
is added: names, conditions, commands and edges. -/
structure KeepsEvents (script : ScriptSection) (outline : Outline) : Prop where
  names : outline.events.map Event.name = script.events.map SectionEvent.name
  guards :
    outline.events.map Event.guard =
      script.events.map fun event =>
        (event.condition.filter fun condition => !condition.isEmpty).map Text.strip
  codes :
    outline.events.map (fun block => block.commands.map Line.code) =
      script.events.map fun event => event.commands.map SectionCommand.toLine
  edges :
    ∀ edge ∈ (EventGraph.ofOutline outline).edges, ∃ event ∈ script.events, event.Writes edge

/-- A plain section has a text, and is read back from it with its names and conditions.  The
commands of an event are its own and the guard of the next event.  So the events keep exactly
their own commands and edges when no event but the first has a condition. -/
theorem keepsEvents_iff
    (script : ScriptSection)
    (plain : script.IsPlain) :
    ∃ text, script.toScript = .ok text ∧
      let outline := Outline.ofScript text
      outline.events.map Event.name = script.events.map SectionEvent.name ∧
      outline.events.map Event.guard =
        script.events.map (fun event =>
          (event.condition.filter fun condition => !condition.isEmpty).map Text.strip) ∧
      outline.events.map (fun block => block.commands.map Line.code) =
        (SectionEvent.readBack script.events).map Prod.snd ∧
      (script.KeepsEvents outline ↔
        ∀ event ∈ script.events.tail, event.condition = none ∨ event.condition = some []) ∧
      ((∀ edge ∈ (EventGraph.ofOutline outline).edges,
          ∃ event ∈ script.events, event.Writes edge) ↔
        ∀ event ∈ script.events.tail, event.condition = none ∨ event.condition = some []) := by
  obtain ⟨text, isText⟩ := plain.exists_toScript
  simp only [← SectionEvent.guard?_eq_none_iff]
  refine ⟨text, isText, plain.names_events isText, plain.guards_events isText,
    plain.codes_events isText, ⟨?_, ?_⟩, plain.edges_iff isText⟩
  · intro keeps
    exact (plain.codes_iff isText).mp keeps.codes
  · intro unguarded
    exact
      { names := plain.names_events isText
        guards := plain.guards_events isText
        codes := (plain.codes_iff isText).mpr unguarded
        edges := (plain.edges_iff isText).mpr unguarded }

/-- A section in which only the first event has a condition. -/
def guardedStart : ScriptSection where
  declared := [("string Name", .text "Bob")]
  events := [
    ⟨"Start", some "Counter==0", [⟨"msg", ["Hello"]⟩]⟩,
    ⟨"Finish", none, [⟨"win", []⟩]⟩
  ]

/-- With a condition on the first event only, nothing is lost and nothing is added. -/
theorem keepsEvents_guardedStart :
    guardedStart.IsPlain ∧
      ∃ text, guardedStart.toScript = .ok text ∧
        guardedStart.KeepsEvents (Outline.ofScript text) := by
  have plain : guardedStart.IsPlain :=
    { declared := by
        simp only [guardedStart, List.forall_mem_singleton]
        exact ⟨_, rfl, isPlainLine_of_not_mem (by decide) (by decide) (by decide)⟩
      events := by
        simp only [guardedStart, List.forall_mem_cons]
        refine ⟨?_, ?_, List.forall_mem_nil _⟩
        · exact SectionEvent.isPlain_of_not_mem (by decide) (by decide) (by decide) (by decide)
        · exact SectionEvent.isPlain_of_not_mem (by decide) (by decide) (by decide) (by decide)
      distinct := by
        decide }
  obtain ⟨text, isText, _, _, _, keeps, _⟩ := keepsEvents_iff guardedStart plain
  exact ⟨plain, text, isText, keeps.mpr (by decide)⟩

/-- A section in which the second event has a condition, and calls the first. -/
def guardedSecond : ScriptSection where
  declared := []
  events := [⟨"A", none, []⟩, ⟨"B", some "x==1", [⟨"A::", []⟩]⟩]

/-- The guard of the second event is read as a command of the first, so that the first
refers to the second. -/
theorem not_keepsEvents_guardedSecond :
    guardedSecond.IsPlain ∧
      ∃ text, guardedSecond.toScript = .ok text ∧
        ¬guardedSecond.KeepsEvents (Outline.ofScript text) := by
  have plain : guardedSecond.IsPlain :=
    { declared := by
        simp [guardedSecond]
      events := by
        simp only [guardedSecond, List.forall_mem_cons]
        refine ⟨?_, ?_, List.forall_mem_nil _⟩
        · exact SectionEvent.isPlain_of_not_mem (by decide) (by decide) (by decide) (by decide)
        · exact SectionEvent.isPlain_of_not_mem (by decide) (by decide) (by decide) (by decide)
      distinct := by
        decide }
  obtain ⟨text, isText⟩ := plain.exists_toScript
  refine ⟨plain, text, isText, fun keeps => ?_⟩
  have unguarded := (plain.codes_iff isText).mp keeps.codes
  revert unguarded
  decide

end ScriptSection

end MissionLint
