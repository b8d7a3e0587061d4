import MissionLint.Analysis.Deadlock
import MissionLint.Analysis.Lock
import MissionLint.Analysis.Machine
import MissionLint.Proofs.Outcome
import MissionLint.Proofs.Text.OneLine

namespace MissionLint

/-!
# What stops an analysis

An analysis stops only at digits: those of a script that have no value or are too many, and
those of a balance that would be too many.  The message then quotes the digits or gives their
number, and has no line break.
-/

open Outcome

namespace NumeralFault

/-- A fault of digits, not of a value that is no text. -/
def OfDigits : NumeralFault → Prop
  | .notInteger _ => True
  | .notReal _ => True
  | .notNumeric _ => False
  | .tooLong _ => True

/-- The message of a fault of digits is one line. -/
theorem OfDigits.oneLine_message
    {fault : NumeralFault}
    (ofDigits : fault.OfDigits) :
    fault.message.OneLine := by
  cases fault with
  | notInteger text =>
      refine .append (Text.oneLine_literal (by decide)) fun member => ?_
      exact Text.oneLine_quoted text (List.mem_of_mem_take member)
  | notReal text =>
      exact .append (Text.oneLine_literal (by decide)) (Text.oneLine_quoted text)
  | notNumeric kind =>
      cases ofDigits
  | tooLong limit =>
      cases limit with
      | reading digits =>
          refine .append (.append ?_ (Text.oneLine_ofNat digits)) ?_ <;>
            exact Text.oneLine_literal (by decide)
      | writing =>
          exact .append (Text.oneLine_literal (by decide)) (Text.oneLine_literal (by decide))

end NumeralFault

/-! ## Literals -/

/-- Converting a numeral fails for its digits only. -/
theorem Numeral.failsWith_integerOf
    (text : Text) :
    FailsWith NumeralFault.OfDigits (integerOf text) := by
  unfold integerOf
  split
  · exact failsWith_ok _
  · rintro _ ⟨⟩
    trivial
  · rintro _ ⟨⟩
    trivial

/-- Reading an increment fails for its digits only. -/
theorem Increment.failsWith_ofValue?
    (value : Text) :
    FailsWith NumeralFault.OfDigits (ofValue? value) := by
  unfold ofValue?
  split
  · exact failsWith_ok _
  · refine FailsWith.map ?_ _
    unfold Numeral.realOf
    split
    · exact failsWith_ok _
    · rintro _ ⟨⟩
      trivial

namespace IntegerLiteral

/-- Reading an integer literal fails for its digits only. -/
theorem failsWith_ofText?
    (text : Text) :
    FailsWith NumeralFault.OfDigits (ofText? text) := by
  unfold ofText?
  split
  · exact failsWith_ok _
  · exact (Numeral.failsWith_integerOf _).map _

/-- Reading integer literals fails for the digits of one only. -/
theorem failsWith_integersOf
    (texts : List (Tag × Text)) :
    FailsWith NumeralFault.OfDigits (integersOf texts) := by
  unfold integersOf
  refine (failsWith_mapM fun entry _ => ?_).bind fun _ => failsWith_ok _
  exact (failsWith_ofText? entry.2).bind fun _ => failsWith_ok _

end IntegerLiteral

/-- Reading an oxygen level fails for its digits only. -/
theorem OxygenLevel.failsWith_inCode?
    (code : Text) :
    FailsWith NumeralFault.OfDigits (inCode? code) := by
  unfold inCode?
  split
  · exact failsWith_ok _
  · exact (Numeral.failsWith_integerOf _).bind fun _ =>
      (Numeral.failsWith_integerOf _).bind fun _ => failsWith_ok _

/-! ## Locks -/

namespace LockPattern

/-- Finding cooldowns fails for the digits of an increment only. -/
theorem failsWith_cooldowns
    (outline : Outline) :
    FailsWith NumeralFault.OfDigits (cooldowns outline) := by
  have onLine (line : Line) : FailsWith NumeralFault.OfDigits (incrementedOn line) := by
    unfold incrementedOn
    refine (failsWith_mapM fun assignment _ => ?_).bind fun _ => failsWith_ok _
    exact (Increment.failsWith_ofValue? assignment.value).bind fun _ => failsWith_ok _
  exact (failsWith_mapM fun line _ => onLine line).bind fun _ => failsWith_ok _

/-- Finding locks fails for the digits of a number only. -/
theorem failsWith_find
    (outline : Outline) :
    FailsWith NumeralFault.OfDigits (find outline) := by
  have exclusive : FailsWith NumeralFault.OfDigits (exclusiveStates outline) :=
    (IntegerLiteral.failsWith_integersOf _).bind fun _ => failsWith_ok _
  exact (failsWith_cooldowns outline).bind fun _ => exclusive.bind fun _ => failsWith_ok _

end LockPattern

/-! ## State machines -/

namespace StateMachine

/-- Looking for an integer fails for the digits of one only. -/
theorem failsWith_firstInteger?
    (texts : List (Text × Tag)) :
    FailsWith NumeralFault.OfDigits (firstInteger? texts) := by
  induction texts with
  | nil =>
      exact failsWith_ok _
  | cons entry rest inductionHypothesis =>
      refine (IntegerLiteral.failsWith_ofText? entry.1).bind fun found => ?_
      cases found with
      | none =>
          exact inductionHypothesis
      | some value =>
          exact failsWith_ok _

/-- Reading a transition fails for the digits of a state only. -/
theorem failsWith_transitionOf?
    (outline : Outline)
    (name : Text)
    (guard : Trigger) :
    FailsWith NumeralFault.OfDigits (transitionOf? outline name guard) := by
  have after : FailsWith NumeralFault.OfDigits (stateAfter? outline guard.target name) := by
    unfold stateAfter?
    split
    · exact failsWith_ok _
    · exact failsWith_firstInteger? _
  refine (failsWith_firstInteger? _).bind fun source => ?_
  cases source with
  | none =>
      exact failsWith_ok _
  | some source =>
      refine after.bind fun target => ?_
      cases target <;>
        exact failsWith_ok _

/-- Comparing values with a state fails for the digits of one only. -/
theorem failsWith_anyIsState
    (state : Int)
    (values : List Text) :
    FailsWith NumeralFault.OfDigits (anyIsState state values) := by
  induction values with
  | nil =>
      exact failsWith_ok _
  | cons value rest inductionHypothesis =>
      refine (IntegerLiteral.failsWith_ofText? value).bind fun found => ?_
      split
      · exact failsWith_ok _
      · exact inductionHypothesis

/-- Looking for the comment of a state fails for the digits of a value only. -/
theorem failsWith_commentOf?
    (name : Text)
    (state : Int)
    (above : Option Text)
    (lines : List Line) :
    FailsWith NumeralFault.OfDigits (commentOf? name state above lines) := by
  induction lines generalizing above with
  | nil =>
      exact failsWith_ok _
  | cons line rest inductionHypothesis =>
      refine (failsWith_anyIsState state _).bind fun assigned => ?_
      cases assigned with
      | false =>
          exact inductionHypothesis line.comment
      | true =>
          rw [if_pos rfl]
          split <;>
            exact failsWith_ok _

/-- Naming a state fails for digits only. -/
theorem failsWith_namedState
    (outline : Outline)
    (names : Table Int Text)
    (name : Text)
    (state : Int) :
    FailsWith NumeralFault.OfDigits (namedState outline names name state) := by
  have named : FailsWith NumeralFault.OfDigits (stateName outline names name state) := by
    refine (failsWith_commentOf? name state none outline.lines).bind fun comment => ?_
    split <;>
      exact failsWith_ok _
  exact named.bind fun _ => failsWith_ok _

/-- Finding state machines fails for the digits of a number only. -/
theorem failsWith_find
    (outline : Outline)
    (names : Table Int Text) :
    FailsWith NumeralFault.OfDigits (find outline names) := by
  have ofDeclared (declared : Variable) :
      FailsWith NumeralFault.OfDigits (ofDeclared? outline names declared) := by
    unfold ofDeclared?
    split
    · exact failsWith_ok _
    · have transitions :
          FailsWith NumeralFault.OfDigits (transitionsOf outline declared.name) := by
        refine (failsWith_mapM fun guard _ => ?_).bind fun _ => failsWith_ok _
        exact failsWith_transitionOf? outline declared.name guard
      refine transitions.bind fun found => ?_
      split
      · exact failsWith_ok _
      · refine (failsWith_mapM fun state _ => ?_).bind fun _ => failsWith_ok _
        exact failsWith_namedState outline names declared.name state
  exact (failsWith_mapM fun declared _ => ofDeclared declared).bind fun _ => failsWith_ok _

end StateMachine

/-! ## Resources -/

namespace ResourceFlow

/-- Reading the amounts of a line fails for the digits of one only. -/
theorem failsWith_entriesOn
    (outline : Outline)
    (line : Line) :
    FailsWith NumeralFault.OfDigits (entriesOn outline line) := by
  unfold entriesOn
  split
  · exact failsWith_ok _
  · exact (IntegerLiteral.failsWith_integersOf _).bind fun _ =>
      (IntegerLiteral.failsWith_integersOf _).bind fun _ =>
        (OxygenLevel.failsWith_inCode? line.code).bind fun _ => failsWith_ok _

/-- Reporting balances fails for the digits of one only. -/
theorem failsWith_balanceReport
    (flows : List ResourceFlow) :
    FailsWith NumeralFault.OfDigits (balanceReport flows) := by
  unfold balanceReport
  refine (failsWith_mapM fun flow _ => ?_).bind fun _ => failsWith_ok _
  exact (failsWith_mapError (fun _ => trivial) _).bind fun _ => failsWith_ok _

/-- Finding resource flows fails for the digits of a number only. -/
theorem failsWith_find
    (outline : Outline) :
    FailsWith NumeralFault.OfDigits (find outline) :=
  (failsWith_mapM fun line _ => failsWith_entriesOn outline line).bind fun _ =>
    (failsWith_balanceReport _).bind fun _ => failsWith_ok _

end ResourceFlow

end MissionLint
