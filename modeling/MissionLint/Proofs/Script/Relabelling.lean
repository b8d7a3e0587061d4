import MissionLint.Script.Outline
import MissionLint.Proofs.Text.Distinct

namespace MissionLint

/-!
# Outlines of changed lines

Lines can be changed where no outline looks, such as in their comments, and they can be
numbered anew.  The outline of the changed lines is then the outline of the lines with the
same change made to its blocks and its variables.
-/

/-- A change of lines that keeps what an outline sees of their code, and numbers them
anew. -/
structure Line.KeepsShape (change : Line → Line) (renumber : Nat → Nat) : Prop where
  number_eq : ∀ line, (change line).number = renumber line.number
  isBlank_eq : ∀ line, (change line).isBlank = line.isBlank
  opener_eq : ∀ line, Opener.ofCode? (change line).code = Opener.ofCode? line.code
  declaration_eq : ∀ line, Declaration.ofCode? (change line).code = Declaration.ofCode? line.code
  triggers_eq : ∀ line, Trigger.inCode (change line).code = Trigger.inCode line.code

/-- A change that keeps the code of lines keeps their shapes. -/
theorem Line.keepsShape_of_code
    {change : Line → Line}
    {renumber : Nat → Nat}
    (sameNumber : ∀ line, (change line).number = renumber line.number)
    (sameCode : ∀ line, (change line).code = line.code) :
    KeepsShape change renumber where
  number_eq := sameNumber
  isBlank_eq line := by
    rw [isBlank, isBlank, sameCode]
  opener_eq line := by
    rw [sameCode]
  declaration_eq line := by
    rw [sameCode]
  triggers_eq line := by
    rw [sameCode]

/-- A variable with its line numbered anew. -/
def Variable.renumbered (renumber : Nat → Nat) (declared : Variable) : Variable :=
  { declared with line := renumber declared.line }

/-- A block with changed lines, which are numbered anew. -/
def Event.mapLines (change : Line → Line) (renumber : Nat → Nat) (event : Event) : Event :=
  { event with
    start := renumber event.start
    commands := event.commands.map change }

namespace Outline

/-- An outline with changed lines, which are numbered anew. -/
def mapLines (change : Line → Line) (renumber : Nat → Nat) (outline : Outline) : Outline where
  lines := outline.lines.map change
  declared := outline.declared.map (Variable.renumbered renumber)
  events := outline.events.map (Event.mapLines change renumber)

section KeepsShape

variable {change : Line → Line} {renumber : Nat → Nat}
  (keeps : Line.KeepsShape change renumber)

include keeps

/-- Lines that keep their shape keep their guards. -/
theorem guards_map
    (lines : List Line) :
    guards (lines.map change) = guards lines := by
  simp only [guards, List.flatMap_map, keeps.triggers_eq]

/-- Lines that keep their shape keep their declarations, with the new numbers. -/
theorem declarationsFrom_map
    (inside : Bool)
    (lines : List Line) :
    declarationsFrom inside (lines.map change) =
      (declarationsFrom inside lines).map (Variable.renumbered renumber) := by
  fun_induction declarationsFrom inside lines with
  | case1 =>
      rfl
  | case2 inside line rest isBlank inductionHypothesis =>
      simpa [declarationsFrom, keeps.isBlank_eq, isBlank] using inductionHypothesis
  | case3 inside line rest isCode opens inductionHypothesis =>
      simpa [declarationsFrom, keeps.isBlank_eq, isCode, keeps.opener_eq, opens]
        using inductionHypothesis
  | case4 inside line rest isCode notOpener declaration declares counts inductionHypothesis =>
      simpa [declarationsFrom, keeps.isBlank_eq, isCode, keeps.opener_eq, notOpener,
        keeps.declaration_eq, declares, counts, keeps.number_eq, Variable.renumbered]
        using inductionHypothesis
  | case5 inside line rest isCode notOpener declaration declares skipped inductionHypothesis =>
      simpa [declarationsFrom, keeps.isBlank_eq, isCode, keeps.opener_eq, notOpener,
        keeps.declaration_eq, declares, skipped] using inductionHypothesis
  | case6 inside line rest isCode notOpener declaresNothing inductionHypothesis =>
      simpa [declarationsFrom, keeps.isBlank_eq, isCode, keeps.opener_eq, notOpener,
        keeps.declaration_eq, declaresNothing] using inductionHypothesis

/-- Lines that keep their shape keep their blocks, with the new numbers. -/
theorem blocksFrom_map
    (current : Option Event)
    (lines : List Line) :
    blocksFrom (current.map (Event.mapLines change renumber)) (lines.map change) =
      (blocksFrom current lines).map (Event.mapLines change renumber) := by
  have sameTyped (line : Line) :
      isTypedDeclaration (change line).code = isTypedDeclaration line.code := by
    rw [isTypedDeclaration, isTypedDeclaration, keeps.declaration_eq]
  fun_induction blocksFrom current lines with
  | case1 current =>
      cases current <;>
        rfl
  | case2 current line rest isBlank inductionHypothesis =>
      simpa [blocksFrom, keeps.isBlank_eq, isBlank] using inductionHypothesis
  | case3 current line rest isCode name opens inductionHypothesis =>
      have opened :
          blocksFrom (some ⟨name, renumber line.number, [], none⟩) (rest.map change) =
            (blocksFrom (some ⟨name, line.number, [], none⟩) rest).map
              (Event.mapLines change renumber) :=
        inductionHypothesis
      have kept :
          (current.map (Event.mapLines change renumber)).toList =
            current.toList.map (Event.mapLines change renumber) := by
        cases current <;>
          rfl
      simp [blocksFrom, keeps.isBlank_eq, isCode, keeps.opener_eq, opens, keeps.number_eq, opened,
        kept]
  | case4 line rest isCode notOpener inductionHypothesis =>
      simpa [blocksFrom, keeps.isBlank_eq, isCode, keeps.opener_eq, notOpener]
        using inductionHypothesis
  | case5 line rest isCode notOpener block isTyped inductionHypothesis =>
      simpa [blocksFrom, keeps.isBlank_eq, isCode, keeps.opener_eq, notOpener, sameTyped, isTyped]
        using inductionHypothesis
  | case6 line rest isCode notOpener block notTyped inductionHypothesis =>
      simpa [blocksFrom, keeps.isBlank_eq, isCode, keeps.opener_eq, notOpener, sameTyped, notTyped,
        Event.mapLines] using inductionHypothesis

/-- The outline of changed lines is the changed outline. -/
theorem ofLines_map
    (lines : List Line) :
    ofLines (lines.map change) = (ofLines lines).mapLines change renumber := by
  have blocks := blocksFrom_map keeps none lines
  simp only [Option.map_none] at blocks
  have declared :
      firstDeclarations (declarationsFrom false (lines.map change)) =
        (firstDeclarations (declarationsFrom false lines)).map (Variable.renumbered renumber) := by
    have sameName (declared : Variable) : (declared.renumbered renumber).name = declared.name :=
      rfl
    rw [declarationsFrom_map keeps]
    exact eraseDupsBy_map Variable.name sameName _
  simp only [ofLines, mapLines, guards_map keeps, declared, blocks, List.map_map]
  rfl

end KeepsShape

end Outline

end MissionLint
