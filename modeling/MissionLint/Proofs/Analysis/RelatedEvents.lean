import MissionLint.Proofs.Analysis.LockIdiom
import MissionLint.Proofs.Script.WholeWord

namespace MissionLint

/-!
# The events of a lock

A lock lists the events whose blocks mention its variable as a whole word, while a block
assigns to the variable wherever it stands as a name.  So the events of a lock are all that
assign to its variable, but for those in whose blocks a letter or a numeral outside ASCII
stands beside the variable wherever it is named.
-/

namespace Outline

/-- The events that mention a token have a block that does. -/
theorem mem_eventsMentioning_iff
    {outline : Outline}
    {token name : Text} :
    name ∈ outline.eventsMentioning token ↔
      ∃ event ∈ outline.events, event.mentions token = true ∧ event.name = name := by
  simp only [eventsMentioning, List.mem_eraseDups, List.mem_map, List.mem_filter, and_assoc]

/-- The first block of each event that mentions a token. -/
def firstMentions (outline : Outline) (token : Text) : List Event :=
  (outline.events.filter fun event => event.mentions token).eraseDupsBy
    fun left right => left.name == right.name

/-- The first blocks that mention a token have the names of the events that do. -/
theorem map_name_firstMentions
    (outline : Outline)
    (token : Text) :
    (outline.firstMentions token).map Event.name = outline.eventsMentioning token :=
  (eraseDups_map Event.name _).symm

/-- The first blocks that mention a token are in the order of the script. -/
theorem firstMentions_sublist
    (outline : Outline)
    (token : Text) :
    (outline.firstMentions token).Sublist outline.events :=
  (eraseDupsBy_sublist Event.name _).trans List.filter_sublist

/-- A first block that mentions a token is the one that a search for its name finds. -/
theorem find?_of_mem_firstMentions
    {outline : Outline}
    {token : Text}
    {event : Event}
    (member : event ∈ outline.firstMentions token) :
    outline.events.find? (fun other => other.mentions token && other.name == event.name) =
      some event := by
  have isFirst := mem_eraseDupsBy_iff.mp member
  simpa only [List.find?_filter, Bool.decide_and, Bool.decide_eq_true] using isFirst

/-- A block mentions its own name, and what stands clear in one of its commands. -/
theorem mentions_iff_standsClear
    {script : Text}
    {event : Event}
    (isBlock : event ∈ (ofScript script).events)
    (token : Text) :
    event.mentions token = true ↔
      event.name = token ∨ ∃ line ∈ event.commands, Word.StandsClear token line.code := by
  have inName : Word.occursIn token event.name = true ↔ event.name = token := by
    rw [Word.occursIn_name_iff (isName_of_mem_events isBlock), eq_comm]
  rw [Event.mentions, Bool.or_eq_true, inName, List.any_eq_true]
  simp only [Word.occursIn_iff_standsClear]

end Outline

namespace LockPattern

/-- A command of a block assigns to a variable. -/
def Writes (event : Event) (name : Text) : Prop :=
  ∃ line ∈ event.commands, ∃ assignment ∈ Assignment.inCode line.code, assignment.name = name

/-- The events of a lock are all whose blocks assign to its variable. -/
def CoversWriters (outline : Outline) (pattern : LockPattern) : Prop :=
  ∀ event ∈ outline.events,
    Writes event pattern.variableName → event.name ∈ pattern.relatedEvents

/-- The related events of a lock are those that mention its variable. -/
theorem relatedEvents_of_find
    {script : Text}
    {patterns : List LockPattern}
    (returns : find (Outline.ofScript script) = .ok patterns)
    {pattern : LockPattern}
    (isFound : pattern ∈ patterns) :
    pattern.relatedEvents = (Outline.ofScript script).eventsMentioning pattern.variableName := by
  obtain ⟨chosen, rfl, _, isChosen⟩ := exists_of_find returns
  exact ((isChosen pattern).mp (List.mem_mergeSort.mp isFound)).related

/-- An event is related to a lock when it has the name of the variable, or a command of one of
its blocks has the variable clear of letters and numerals outside ASCII. -/
theorem mem_relatedEvents_iff
    {script : Text}
    {patterns : List LockPattern}
    (returns : find (Outline.ofScript script) = .ok patterns)
    {pattern : LockPattern}
    (isFound : pattern ∈ patterns)
    {event : Event}
    (isBlock : event ∈ (Outline.ofScript script).events) :
    event.name ∈ pattern.relatedEvents ↔
      event.name = pattern.variableName ∨
        ∃ block ∈ (Outline.ofScript script).events,
          block.name = event.name ∧
            ∃ line ∈ block.commands, Word.StandsClear pattern.variableName line.code := by
  rw [relatedEvents_of_find returns isFound, Outline.mem_eventsMentioning_iff]
  constructor
  · rintro ⟨block, isOther, mentioned, sameName⟩
    rcases (Outline.mentions_iff_standsClear isOther _).mp mentioned with isName | standsClear
    · exact .inl (sameName ▸ isName)
    · exact .inr ⟨block, isOther, sameName, standsClear⟩
  · rintro (isName | ⟨block, isOther, sameName, standsClear⟩)
    · exact ⟨event, isBlock, (Outline.mentions_iff_standsClear isBlock _).mpr (.inl isName), rfl⟩
    · exact ⟨block, isOther, (Outline.mentions_iff_standsClear isOther _).mpr (.inr standsClear),
        sameName⟩

/-- The events of a lock are all that assign to its variable exactly when each of them is named
as the variable or has the variable clear of letters and numerals outside ASCII in one of its
blocks.  An assignment with no such character directly before it is enough.  No event is listed
twice, and each stands where its first block that mentions the variable stands. -/
theorem coversWriters_iff
    {script : Text}
    {patterns : List LockPattern}
    (returns : find (Outline.ofScript script) = .ok patterns)
    {pattern : LockPattern}
    (isFound : pattern ∈ patterns) :
    (CoversWriters (Outline.ofScript script) pattern ↔
      ∀ event ∈ (Outline.ofScript script).events,
        Writes event pattern.variableName →
          event.name = pattern.variableName ∨
            ∃ block ∈ (Outline.ofScript script).events,
              block.name = event.name ∧
                ∃ line ∈ block.commands, Word.StandsClear pattern.variableName line.code) ∧
      (∀ event ∈ (Outline.ofScript script).events,
        ∀ line ∈ event.commands,
          ∀ place ∈ Occurrence.search Assignment.read? line.code,
            place.value.name = pattern.variableName →
              (∀ c ∈ (line.code.take place.start).getLast?, Word.isForeign c = false) →
                event.name ∈ pattern.relatedEvents) ∧
      pattern.relatedEvents.Nodup ∧
      ∃ blocks : List Event,
        blocks.Sublist (Outline.ofScript script).events ∧
          blocks.map Event.name = pattern.relatedEvents ∧
          ∀ block ∈ blocks,
            (Outline.ofScript script).events.find? (fun other =>
              other.mentions pattern.variableName && other.name == block.name) = some block := by
  have isRelated := relatedEvents_of_find returns isFound
  refine ⟨?_, ?_, ?_, (Outline.ofScript script).firstMentions pattern.variableName,
    Outline.firstMentions_sublist _ _, ?_, ?_⟩
  · exact forall₂_congr fun event isBlock =>
      imp_congr_right fun _ => mem_relatedEvents_iff returns isFound isBlock
  · intro event isBlock line isCommand place isPlace isName noForeign
    have standsClear := Assignment.standsClear_of_mem_search isPlace noForeign
    rw [isName] at standsClear
    exact (mem_relatedEvents_iff returns isFound isBlock).mpr
      (.inr ⟨event, isBlock, rfl, line, isCommand, standsClear⟩)
  · rw [isRelated, ← Outline.map_name_firstMentions]
    exact nodup_map_eraseDupsBy Event.name _
  · rw [Outline.map_name_firstMentions, isRelated]
  · exact fun block member => Outline.find?_of_mem_firstMentions member

/-- A script with an event whose second block assigns to its variable only behind a letter
outside ASCII. -/
def accentedScript : Text :=
  "int X = 0\nA::\néX:1;X:2;\nA::\néX:3;"

/-- The second block is covered, because the first one has the variable clear. -/
theorem coversWriters_accentedScript :
    find (.ofScript accentedScript) = .ok [⟨"X", 1, .exclusiveState, ["A"]⟩] ∧
      CoversWriters (.ofScript accentedScript) ⟨"X", 1, .exclusiveState, ["A"]⟩ := by
  obtain ⟨returns, mentioned⟩ :
      find (.ofScript accentedScript) = .ok [⟨"X", 1, .exclusiveState, ["A"]⟩] ∧
        ∀ event ∈ (Outline.ofScript accentedScript).events,
          ∃ block ∈ (Outline.ofScript accentedScript).events,
            block.name = event.name ∧
              ∃ line ∈ block.commands, Word.occursIn "X" line.code = true := by
    decide +kernel
  simp only [Word.occursIn_iff_standsClear] at mentioned
  refine ⟨returns, (coversWriters_iff returns List.mem_cons_self).1.mpr ?_⟩
  exact fun event isBlock _ => .inr (mentioned event isBlock)

/-- A lock does not list an event whose assignments all stand behind a letter outside ASCII. -/
theorem not_coversWriters_of_foreign_letter :
    find (.ofScript "int X = 0\nA::\néX:1;éX:2;éX:3;") =
        .ok [⟨"X", 1, .exclusiveState, []⟩] ∧
      ¬CoversWriters (.ofScript "int X = 0\nA::\néX:1;éX:2;éX:3;")
        ⟨"X", 1, .exclusiveState, []⟩ := by
  simp only [CoversWriters, Writes]
  decide +kernel

end LockPattern

end MissionLint
