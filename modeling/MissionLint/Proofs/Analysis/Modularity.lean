import MissionLint.Proofs.Analysis.Failure
import MissionLint.Proofs.EventGraph.References
import MissionLint.Proofs.Script.Concatenation

namespace MissionLint

/-!
# Analyses of scripts one after another

What a line refers to, grants and demands depends on its own block only.  So where one
script follows another and starts with an opener, the edges and the amounts of the whole
are those of the first script and, moved down, those of the second one.
-/

/-- An edge moved down by a number of lines. -/
def Edge.moved (offset : Nat) (edge : Edge) : Edge :=
  { edge with line := edge.line + offset }

/-- An amount moved down by a number of lines. -/
def ResourceAmount.moved (offset : Nat) (amount : ResourceAmount) : ResourceAmount :=
  { amount with line := amount.line + offset }

namespace EventGraph

/-- The references of a block move with it. -/
theorem referencesOf_moved
    (offset : Nat)
    (event : Event) :
    referencesOf (event.moved offset) = (referencesOf event).map (Edge.moved offset) := by
  simp only [referencesOf, Event.moved, Event.mapLines, List.flatMap_map, List.map_flatMap,
    List.map_map]
  rfl

/-- The edges of two scripts are those of the first one and, moved down, those of the
second one. -/
theorem edges_append
    (front : Text)
    {back : Text}
    (starts : Outline.startsBlock (Line.ofScript back) = true) :
    (ofOutline (Outline.ofScript (front ++ "\n" ++ back))).edges =
      (ofOutline (Outline.ofScript front)).edges ++
        (ofOutline (Outline.ofScript back)).edges.map
          (Edge.moved (Line.ofScript front).length) := by
  have references :=
    Outline.map_events_append front starts referencesOf fun _ => rfl
  have movedReferences (events : List Event) :
      (events.map fun event =>
          referencesOf (event.moved (Line.ofScript front).length)).flatten =
        (events.flatMap referencesOf).map (Edge.moved (Line.ofScript front).length) := by
    simp only [referencesOf_moved, List.flatMap_def, List.map_flatten, List.map_map,
      Function.comp_def]
  rw [edges_ofOutline, List.flatMap_def, references, List.flatten_append, movedReferences,
    List.filter_append, List.filter_map, edges_ofOutline, edges_ofOutline]
  rfl

end EventGraph

namespace ResourceFlow

/-- An entry moved down by a number of lines. -/
def Entry.moved (offset : Nat) (entry : Entry) : Entry :=
  { entry with amount := entry.amount.moved offset }

/-- The flow of a resource in one script and, moved down, in another one. -/
def followedBy (offset : Nat) (front back : ResourceFlow) : ResourceFlow where
  resource := front.resource
  sources := front.sources ++ back.sources.map (ResourceAmount.moved offset)
  sinks := front.sinks ++ back.sinks.map (ResourceAmount.moved offset)

/-! ## Amounts on a line -/

/-- What a line grants and demands depends on the outline only through its owner. -/
theorem entriesOn_of_owner
    {outline other : Outline}
    {line : Line}
    (sameOwner :
      (other.eventAt? line.number).map Event.unguarded =
        (outline.eventAt? line.number).map Event.unguarded) :
    entriesOn other line = entriesOn outline line := by
  have sameName :
      (other.eventAt? line.number).map Event.name =
        (outline.eventAt? line.number).map Event.name := by
    have names := congrArg (Option.map Event.name) sameOwner
    rw [Option.map_map, Option.map_map] at names
    exact names
  have sameObjective :
      (other.eventAt? line.number).any isObjective =
        (outline.eventAt? line.number).any isObjective := by
    have objectives := congrArg (Option.any isObjective) sameOwner
    rw [Option.any_map, Option.any_map] at objectives
    exact objectives
  have sameDemanded : demandedBy other line = demandedBy outline line := by
    simp only [demandedBy, sameObjective]
  simp only [entriesOn, sameName, sameDemanded]

/-- The amounts of a line move with it. -/
theorem entriesOn_moved
    (offset : Nat)
    (outline : Outline)
    (line : Line) :
    entriesOn (outline.moved offset) (line.moved offset) =
      (entriesOn outline line).map (List.map (Entry.moved offset)) := by
  have owner :
      (outline.moved offset).eventAt? (line.moved offset).number =
        (outline.eventAt? line.number).map (Event.moved offset) :=
    outline.eventAt?_moved offset line.number
  have sameName :
      ((outline.moved offset).eventAt? (line.moved offset).number).map Event.name =
        (outline.eventAt? line.number).map Event.name := by
    rw [owner, Option.map_map]
    rfl
  have sameObjective (event : Event) : isObjective (event.moved offset) = isObjective event := by
    simp only [isObjective, Event.moved, Event.mapLines, List.any_map]
    rfl
  have sameDemanded :
      demandedBy (outline.moved offset) (line.moved offset) = demandedBy outline line := by
    simp only [demandedBy, owner, Option.any_map, sameObjective]
    rfl
  have sameBlank : (line.moved offset).isBlank = line.isBlank :=
    rfl
  have sameCode : (line.moved offset).code = line.code :=
    rfl
  simp only [entriesOn, sameName, sameDemanded, sameBlank, sameCode]
  cases line.isBlank with
  | true =>
      rfl
  | false =>
      cases IntegerLiteral.integersOf (grantedOn line.code) with
      | error fault =>
          rfl
      | ok granted =>
          cases IntegerLiteral.integersOf (demandedBy outline line) with
          | error fault =>
              rfl
          | ok demanded =>
              cases OxygenLevel.inCode? line.code with
              | error fault =>
                  rfl
              | ok level =>
                  refine congrArg Except.ok ?_
                  simp only [List.map_append, List.map_map]
                  rfl

/-! ## Amounts of a script -/

/-- What each line of a script grants and demands. -/
def outcomes (outline : Outline) : List (Except NumeralFault (List Entry)) :=
  outline.lines.map (entriesOn outline)

/-- The lines of two scripts grant and demand what they did by themselves. -/
theorem outcomes_append
    (front : Text)
    {back : Text}
    (starts : Outline.startsBlock (Line.ofScript back) = true) :
    outcomes (Outline.ofScript (front ++ "\n" ++ back)) =
      outcomes (Outline.ofScript front) ++
        (outcomes (Outline.ofScript back)).map
          (Except.map (List.map (Entry.moved (Line.ofScript front).length))) := by
  have whole :
      (Outline.ofScript (front ++ "\n" ++ back)).lines =
        Line.ofScript front ++
          (Line.ofScript back).map (Line.moved (Line.ofScript front).length) :=
    Line.ofScript_append front back
  simp only [outcomes, whole, List.map_append, List.map_map]
  congr 1
  · refine List.map_congr_left fun line isLine => entriesOn_of_owner ?_
    exact Outline.eventAt?_front starts (Line.number_bounds isLine).2
  · refine List.map_congr_left fun line isLine => ?_
    refine (entriesOn_of_owner ?_).trans (entriesOn_moved _ (.ofScript back) line)
    exact Outline.eventAt?_back starts (Line.number_bounds isLine).1

/-- The flows of a script are those of what its lines grant and demand, provided that every
line has its amounts and every balance can be written. -/
theorem find_eq_ok_iff
    {outline : Outline}
    {flows : List ResourceFlow} :
    find outline = .ok flows ↔
      ∃ entries : List (List Entry),
        outcomes outline = entries.map .ok ∧
          flows = Resource.all.map (ofEntries entries.flatten) ∧
          ∀ flow ∈ flows, flow.balance.natAbs < 10 ^ digitLimit := by
  constructor
  · intro returns
    obtain ⟨entries, areEntries, reports⟩ := Outcome.exists_of_bind returns
    obtain ⟨report, isReport, areFlows⟩ := Outcome.exists_of_bind reports
    have fits := isOk_balanceReport (Resource.all.map (ofEntries entries.flatten))
    rw [Outcome.isOk_eq_true_iff.mpr ⟨report, isReport⟩] at fits
    cases areFlows
    refine ⟨entries, Outcome.mapM_eq_ok_iff.mp areEntries, rfl, ?_⟩
    simpa using fits.symm
  · rintro ⟨entries, areEntries, rfl, fits⟩
    have reports :
        (balanceReport (Resource.all.map (ofEntries entries.flatten))).isOk = true := by
      rw [isOk_balanceReport]
      simpa using fits
    obtain ⟨report, isReport⟩ := Outcome.isOk_eq_true_iff.mp reports
    rw [find, Outcome.mapM_eq_ok_iff.mpr areEntries]
    simp only [bind, Except.bind, isReport]
    rfl

/-- The flow of a resource in two lists of entries, the second of which is moved down. -/
theorem ofEntries_append
    (offset : Nat)
    (front back : List Entry)
    (resource : Resource) :
    ofEntries (front ++ back.map (Entry.moved offset)) resource =
      followedBy offset (ofEntries front resource) (ofEntries back resource) := by
  simp only [ofEntries, followedBy, List.filter_append, List.map_append, List.filter_map,
    List.map_map]
  rfl

/-- There is one flow for each resource. -/
theorem map_resource_find
    {outline : Outline}
    {flows : List ResourceFlow}
    (returns : find outline = .ok flows) :
    flows.map ResourceFlow.resource = Resource.all := by
  obtain ⟨entries, _, rfl, _⟩ := find_eq_ok_iff.mp returns
  rfl

/-- The flows of two scripts are those of the first one, each followed by the flow of the
same resource in the second one. -/
theorem find_append
    {front back : Text}
    (starts : Outline.startsBlock (Line.ofScript back) = true)
    {frontFlows backFlows wholeFlows : List ResourceFlow}
    (inFront : find (Outline.ofScript front) = .ok frontFlows)
    (inBack : find (Outline.ofScript back) = .ok backFlows)
    (inWhole : find (Outline.ofScript (front ++ "\n" ++ back)) = .ok wholeFlows) :
    wholeFlows =
      List.zipWith (followedBy (Line.ofScript front).length) frontFlows backFlows := by
  obtain ⟨frontEntries, ofFront, rfl, _⟩ := find_eq_ok_iff.mp inFront
  obtain ⟨backEntries, ofBack, rfl, _⟩ := find_eq_ok_iff.mp inBack
  obtain ⟨entries, ofWhole, rfl, _⟩ := find_eq_ok_iff.mp inWhole
  have joined :
      entries =
        frontEntries ++
          backEntries.map (List.map (Entry.moved (Line.ofScript front).length)) := by
    have outcomesJoined := outcomes_append front starts
    rw [ofFront, ofBack, ofWhole] at outcomesJoined
    have okInjective :
        Function.Injective (Except.ok : List Entry → Except NumeralFault (List Entry)) :=
      fun _ _ => Except.ok.inj
    refine List.map_injective_iff.mpr okInjective ?_
    rw [outcomesJoined, List.map_append, List.map_map, List.map_map]
    rfl
  rw [joined, List.flatten_append, ← List.map_flatten, List.zipWith_map, List.zipWith_self]
  exact List.map_congr_left fun resource _ => ofEntries_append _ _ _ resource

end ResourceFlow

/-- A script that starts with an opener can follow any other text.  The blocks, the edges
and the amounts of the whole are those of the two, where the lines of the second one move
down by the number of lines of the first.  So are the variables, except that a name keeps
its first declaration. -/
theorem concatenation_is_modular
    (front back : Text)
    (starts : Outline.startsBlock (Line.ofScript back) = true) :
    let offset := (Line.ofScript front).length
    let first := Outline.ofScript front
    let second := Outline.ofScript back
    let whole := Outline.ofScript (front ++ "\n" ++ back)
    whole.events.map Event.unguarded =
        (first.events ++ second.events.map (Event.moved offset)).map Event.unguarded ∧
      (EventGraph.ofOutline whole).edges =
        (EventGraph.ofOutline first).edges ++
          (EventGraph.ofOutline second).edges.map (Edge.moved offset) ∧
      whole.declared =
        first.declared ++
          (second.declared.filter fun declared =>
            !(first.declared.map Variable.name).contains declared.name).map
              (Variable.moved offset) ∧
      ∀ firstFlows secondFlows wholeFlows,
        ResourceFlow.find first = .ok firstFlows →
        ResourceFlow.find second = .ok secondFlows →
        ResourceFlow.find whole = .ok wholeFlows →
          firstFlows.map ResourceFlow.resource = Resource.all ∧
            secondFlows.map ResourceFlow.resource = Resource.all ∧
            wholeFlows =
              List.zipWith (ResourceFlow.followedBy offset) firstFlows secondFlows := by
  intro offset first second whole
  refine ⟨Outline.events_append front starts, EventGraph.edges_append front starts,
    Outline.declared_append front starts, ?_⟩
  intro firstFlows secondFlows wholeFlows inFirst inSecond inWhole
  exact ⟨ResourceFlow.map_resource_find inFirst, ResourceFlow.map_resource_find inSecond,
    ResourceFlow.find_append starts inFirst inSecond inWhole⟩

/-- Both scripts grant crystals, and the second one declares a name again. -/
theorem concatenation_is_modular_crystals :
    let front : Text := "int x=1\nA::\ncrystals:5;"
    let back : Text := "B::\nint y=4\nint x=9\ncall:A;\ncrystals:2;"
    let whole := Outline.ofScript (front ++ "\n" ++ back)
    Outline.startsBlock (Line.ofScript back) = true ∧
      whole.events.map Event.start = [2, 4] ∧
      (EventGraph.ofOutline whole).edges.map Edge.line = [7] ∧
      whole.declared.map Variable.line = [1, 5] ∧
      ∃ frontFlows backFlows,
        ResourceFlow.find (.ofScript front) = .ok frontFlows ∧
          ResourceFlow.find (.ofScript back) = .ok backFlows ∧
          ResourceFlow.find whole =
            .ok (List.zipWith (ResourceFlow.followedBy 3) frontFlows backFlows) := by
  intro front back whole
  obtain ⟨starts, frontReturns, backReturns, wholeReturns, length⟩ :
      Outline.startsBlock (Line.ofScript back) = true ∧
        (ResourceFlow.find (.ofScript front)).isOk = true ∧
        (ResourceFlow.find (.ofScript back)).isOk = true ∧
        (ResourceFlow.find whole).isOk = true ∧
        (Line.ofScript front).length = 3 := by
    decide +kernel
  obtain ⟨frontFlows, inFront⟩ := Outcome.isOk_eq_true_iff.mp frontReturns
  obtain ⟨backFlows, inBack⟩ := Outcome.isOk_eq_true_iff.mp backReturns
  obtain ⟨wholeFlows, inWhole⟩ := Outcome.isOk_eq_true_iff.mp wholeReturns
  obtain ⟨events, edges, declared, flows⟩ := concatenation_is_modular front back starts
  have starting := congrArg (List.map Event.start) events
  refine ⟨starts, ?_, ?_, ?_, frontFlows, backFlows, inFront, inBack, ?_⟩
  · rw [List.map_map, List.map_map] at starting
    exact starting.trans (by decide +kernel)
  · rw [edges]
    decide +kernel
  · rw [declared]
    decide +kernel
  · have joined := (flows frontFlows backFlows wholeFlows inFront inBack inWhole).2.2
    rw [inWhole, joined, length]

end MissionLint
