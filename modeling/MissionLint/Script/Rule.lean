import MissionLint.Script.Shape
import MissionLint.Script.Condition

namespace MissionLint

/-!
# Rules by name

The shapes and their parts are rules that can be looked up by name, matched
against a whole text and searched for in it.
-/

/-- A rule: what it is called and how much of a text it takes. -/
structure Rule where
  name : Text
  rest? : Text → Option Text

namespace Rule

/-- The rule that takes what a reader reads. -/
def ofReader (name : Text) (read? : Reader Value) : Rule :=
  ⟨name, fun text => (read? text).map Prod.snd⟩

/-- The rule that takes one of some words. -/
def ofWords (name : Text) (words : List (Text × Value)) : Rule :=
  ofReader name (Reader.word? words)

/-- The rule that takes all characters of a class. -/
def ofRun (name : Text) (belongs : CodePoint → Bool) : Rule :=
  ⟨name, fun text => some (text.dropWhile belongs)⟩

/-- All rules. -/
def all : List Rule := [
  ofReader "declaration" Declaration.readTyped?,
  ofReader "untyped_decl" Declaration.readUntyped?,
  ofReader "var_type" VariableType.read?,
  ofReader "decl_name" Reader.name?,
  ofRun "decl_value" (· != ';'),
  ofReader "event_open" Opener.read?,
  ofReader "event_name" Reader.name?,
  ofReader "invocation" Invocation.read?,
  ofReader "callee" Reader.name?,
  ofReader "trigger" Trigger.read?,
  ofReader "trigger_kw" TriggerWord.read?,
  ⟨"condition", fun text => some (Trigger.readCondition text).2⟩,
  ofReader "target" Reader.name?,
  ofReader "when_clause" WhenClause.read?,
  ofReader "when_body" WhenClause.readBody?,
  ofReader "call_command" CallCommand.read?,
  ofReader "call_target" Reader.name?,
  ofReader "assignment" Assignment.read?,
  ofReader "assignee" Reader.name?,
  ofRun "assigned" (· != ';'),
  ofReader "increment" Increment.read?,
  ofReader "inc_name" Reader.name?,
  ofReader "inc_amount" Reader.decimal?,
  ofReader "int_value" IntegerLiteral.read?,
  ofReader "int_literal" IntegerLiteral.readDigits?,
  ofReader "oxygen" OxygenLevel.read?,
  ofReader "ox_current" Reader.digits?,
  ofReader "ox_max" Reader.digits?,
  ofReader "spawner" Spawner.read?,
  ofWords "spawn_kw" Spawner.words,
  ofReader "condition_expr" Condition.read?,
  ofReader "cond_item" ConditionItem.read?,
  ofReader "comparison" Comparison.read?,
  ofReader "lhs" Reader.name?,
  ofReader "cmp_op" Operator.read?,
  ofReader "rhs" Comparison.readRight?,
  ⟨"logic_op", ConditionItem.readConnective?⟩,
  ofReader "word" Reader.name?,
  ofReader "number" Reader.decimal?,
  ofReader "punct" (Reader.run? ConditionItem.isPunctuation),
  ofRun "ws" Text.isIndent,
  ⟨"ws1", Reader.skipSomeIndent?⟩,
  ofRun "cws" Text.isSpacing
]

/-- The rule of a name. -/
def named? (name : Text) : Option Rule :=
  all.find? fun rule => rule.name == name

/-- What a rule takes in a text, with the places. -/
def search (rule : Rule) (text : Text) : List (Occurrence Unit) :=
  Occurrence.search (fun rest => (rule.rest? rest).map fun remaining => ((), remaining)) text

/-- Whether a rule takes the whole of a text. -/
def takesWhole (rule : Rule) (text : Text) : Bool :=
  rule.rest? text == some []

end Rule

end MissionLint
