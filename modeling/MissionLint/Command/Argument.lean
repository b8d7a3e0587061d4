import MissionLint.Text.Quoted
import MissionLint.Text.DecimalDigit

namespace MissionLint

/-!
# Arguments

The arguments of a command are options, their values and operands.  A first pass
tells options from other arguments: an option may be shortened as long as it
stays unambiguous, may carry its value after an equals sign or, when it has one
letter, directly, and letters without values may be clustered.  A second pass
takes options and operands from left to right.  What was taken before a problem
stays, because an option such as a request for help ends the command first.
-/

/-- What an option is for. -/
inductive Switch where
  | help
  | version
  | verbose
  | inputForm
  | outputForm
  | output
  | settings
  | checkers
  | suppress
  deriving Repr, DecidableEq

/-- How many values an option takes. -/
inductive Arity where
  | flag
  | one
  | several
  deriving Repr, DecidableEq

/-- An option: its names, its number of values, and the values that it accepts
when not all are. -/
structure OptionRule where
  switch : Switch
  names : List Text
  arity : Arity
  choices : List Text := []
  deriving Repr, DecidableEq

namespace OptionRule

/-- The names of an option in messages. -/
def title (rule : OptionRule) : Text :=
  Text.join "/" rule.names

end OptionRule

/-- What stands beside the options: nothing, one argument, or one of some words
and everything that follows it. -/
inductive Operand where
  | nothing
  | one (label : Text)
  | command (label : Text) (words : List Text)
  deriving Repr, DecidableEq

/-- The arguments of a program. -/
structure ArgumentRules where
  program : Text
  options : List OptionRule
  operand : Operand
  deriving Repr, DecidableEq

/-- Why arguments are refused. -/
inductive UsageProblem where
  | ambiguous (given : Text) (candidates : List Text)
  | ignoredValue (argument value : Text)
  | expectedOne (argument : Text)
  | expectedSome (argument : Text)
  | invalidChoice (argument value : Text) (choices : List Text)
  | required (label : Text)
  | unrecognized (arguments : List Text)
  deriving Repr, DecidableEq

namespace UsageProblem

/-- A message about an argument. -/
def about (argument message : Text) : Text :=
  "argument " ++ argument ++ ": " ++ message

/-- The wording of a usage problem. -/
def message : UsageProblem → Text
  | .ambiguous given candidates =>
      "ambiguous option: " ++ given ++ " could match " ++ Text.join ", " candidates
  | .ignoredValue argument value =>
      about argument ("ignored explicit argument " ++ Text.quoted value)
  | .expectedOne argument => about argument "expected one argument"
  | .expectedSome argument => about argument "expected at least one argument"
  | .invalidChoice argument value choices =>
      about argument
        ("invalid choice: " ++ Text.quoted value ++ " (choose from "
          ++ Text.join ", " (choices.map Text.quoted) ++ ")")
  | .required label => "the following arguments are required: " ++ label
  | .unrecognized arguments => "unrecognized arguments: " ++ Text.join " " arguments

end UsageProblem

/-- An option as it was given, with the value that its own argument carries. -/
structure OptionUse where
  rule : OptionRule
  spelling : Text
  attached : Option Text
  deriving Repr, DecidableEq

/-- An argument after the first pass. -/
inductive ArgumentToken where
  | separator
  | operand (text : Text)
  | option (given : OptionUse)
  | unknown (text : Text)
  deriving Repr, DecidableEq

namespace ArgumentToken

/-- Operands are read up to the first other token. -/
def operands : List ArgumentToken → List Text
  | .operand text :: rest => text :: operands rest
  | _ => []

end ArgumentToken

/-- The argument after which everything is an operand. -/
def operandMark : Text := "--"

namespace ArgumentRules

/-- The spellings of all options. -/
def spellings (rules : ArgumentRules) : List (Text × OptionRule) :=
  rules.options.flatMap fun rule => rule.names.map fun name => (name, rule)

/-- The option of a spelling. -/
def optionOf? (rules : ArgumentRules) (spelling : Text) : Option OptionRule :=
  rules.spellings.lookup spelling

/-- Split a text at its first equals sign. -/
def splitAtEquals (text : Text) : Text × Option Text :=
  let (before, rest) := text.span fun (c : CodePoint) => c != '='
  match rest with
  | [] => (before, none)
  | _ :: value => (before, some value)

/-- The options that an argument can be short for. -/
def candidates (rules : ArgumentRules) (text : Text) : List OptionUse :=
  match text with
  | '-' :: '-' :: _ =>
      let (stem, attached) := splitAtEquals text
      rules.spellings.filterMap fun (name, rule) =>
        if stem.isPrefixOf name then some ⟨rule, name, attached⟩ else none
  | '-' :: letter :: value =>
      rules.spellings.filterMap fun (name, rule) =>
        if name == "-" ++ [letter] then
          some ⟨rule, name, some value⟩
        else if text.isPrefixOf name then
          some ⟨rule, name, none⟩
        else
          none
  | _ => []

/-- Whether a text is a hyphen and a number, which may end in a line break. -/
def isNegativeNumber : Text → Bool
  | '-' :: body =>
      let number := if body.getLast? == some '\n' then body.dropLast else body
      let (whole, rest) := number.span Text.isDecimalDigit
      match rest with
      | [] => !whole.isEmpty
      | '.' :: fraction => !fraction.isEmpty && fraction.all Text.isDecimalDigit
      | _ => false
  | _ => false

/-- What an argument is that starts with a hyphen and is no spelling. -/
def longTokenOf (rules : ArgumentRules) (text : Text) : Except UsageProblem ArgumentToken :=
  let (stem, attached) := splitAtEquals text
  match attached, rules.optionOf? stem with
  | some value, some rule => .ok (.option ⟨rule, stem, some value⟩)
  | _, _ =>
      match rules.candidates text with
      | [given] => .ok (.option given)
      | [] =>
          if isNegativeNumber text || text.contains ' ' then
            .ok (.operand text)
          else
            .ok (.unknown text)
      | several => .error (.ambiguous text (several.map OptionUse.spelling))

/-- What an argument is. -/
def tokenOf (rules : ArgumentRules) (text : Text) : Except UsageProblem ArgumentToken :=
  match text with
  | '-' :: rest =>
      match rules.optionOf? text with
      | some rule => .ok (.option ⟨rule, text, none⟩)
      | none => if rest.isEmpty then .ok (.operand text) else rules.longTokenOf text
  | _ => .ok (.operand text)

/-- The first pass. -/
def classify (rules : ArgumentRules) : List Text → Except UsageProblem (List ArgumentToken)
  | [] => .ok []
  | text :: rest =>
      if text == operandMark then
        .ok (.separator :: rest.map .operand)
      else do
        let token ← rules.tokenOf text
        let tokens ← rules.classify rest
        return token :: tokens

end ArgumentRules

/-- Something that was taken: an option with its values, or operands. -/
inductive Taken where
  | option (switch : Switch) (values : List Text)
  | operands (values : List Text)
  deriving Repr, DecidableEq

/-- What one argument with an option gives: the options in it with their values,
and how many of the following tokens are values. -/
structure Consumed where
  uses : List (OptionRule × List Text)
  count : Nat := 0
  deriving Repr, DecidableEq

namespace ArgumentRules

/-- Take an option whose values follow it. -/
def consumeBare (rule : OptionRule) (following : List ArgumentToken) :
    Except UsageProblem Consumed :=
  match rule.arity, ArgumentToken.operands following with
  | .flag, _ => .ok { uses := [(rule, [])] }
  | .one, value :: _ => .ok { uses := [(rule, [value])], count := 1 }
  | .one, [] => .error (.expectedOne rule.title)
  | .several, [] => .error (.expectedSome rule.title)
  | .several, values => .ok { uses := [(rule, values)], count := values.length }

/-- Put a flag before what follows it in its cluster. -/
def afterFlag (flag : OptionRule) (consumed : Consumed) : Consumed :=
  { consumed with uses := (flag, []) :: consumed.uses }

/-- Take an option that carries a value.  When a flag of one letter carries
letters, the first of them has to be an option too, which carries the others. -/
def consumeAttached
    (rules : ArgumentRules)
    (following : List ArgumentToken)
    (rule : OptionRule)
    (isLetter : Bool)
    (value : Text) :
    Except UsageProblem Consumed :=
  if rule.arity != .flag then
    .ok { uses := [(rule, [value])] }
  else
    match value with
    | [] => .error (.ignoredValue rule.title [])
    | letter :: rest =>
        match isLetter, rules.optionOf? ['-', letter] with
        | true, some next =>
            let consumed :=
              match rest with
              | [] => consumeBare next following
              | second :: last => consumeAttached rules following next true (second :: last)
            consumed.map (afterFlag rule)
        | _, _ => .error (.ignoredValue rule.title (letter :: rest))

/-- Take an option as it was given. -/
def consume
    (rules : ArgumentRules)
    (given : OptionUse)
    (following : List ArgumentToken) :
    Except UsageProblem Consumed :=
  match given.attached with
  | none => consumeBare given.rule following
  | some value =>
      let isLetter := (given.spelling.drop 1).head? != some '-'
      rules.consumeAttached following given.rule isLetter value

end ArgumentRules

/-- What the second pass gives: what was taken in order, the arguments that nobody
took, and the problem that ended it. -/
structure Parsed where
  taken : List Taken := []
  extras : List Text := []
  problem : Option UsageProblem := none
  deriving Repr, DecidableEq

namespace Parsed

/-- Put what was taken first before the rest. -/
def after (rest : Parsed) (taken : List Taken) (extras : List Text) : Parsed :=
  { rest with taken := taken ++ rest.taken, extras := extras ++ rest.extras }

end Parsed

namespace OptionRule

/-- The value that an option does not accept. -/
def refused? (rule : OptionRule) (values : List Text) : Option Text :=
  if rule.choices.isEmpty then
    none
  else
    values.find? fun value => !rule.choices.contains value

/-- Take options in order, up to one whose value is not accepted. -/
def takeAll : List (OptionRule × List Text) → List Taken × Option UsageProblem
  | [] => ([], none)
  | (rule, values) :: rest =>
      match rule.refused? values with
      | some value => ([], some (.invalidChoice rule.title value rule.choices))
      | none =>
          let (taken, problem) := takeAll rest
          (.option rule.switch values :: taken, problem)

end OptionRule

namespace Operand

/-- Take operands: their values and the number of their tokens.  The mark before
or after a single operand belongs to it.  A word takes all that follows it. -/
def take? (operand : Operand) (arguments : List Text) (tokens : List ArgumentToken) :
    Option (List Text × Nat) :=
  match operand, tokens with
  | .one _, .operand text :: .separator :: _ => some ([text], 2)
  | .one _, .operand text :: _ => some ([text], 1)
  | .one _, .separator :: .operand text :: _ => some ([text], 2)
  | .command _ _, .operand _ :: _ => some (arguments, tokens.length)
  | .command _ _, .separator :: .operand _ :: _ => some (arguments, tokens.length)
  | _, _ => none

/-- Why operands are refused. -/
def problem? (operand : Operand) (values : List Text) : Option UsageProblem :=
  match operand, values with
  | .command label words, word :: _ =>
      if words.contains word then none else some (.invalidChoice label word words)
  | _, _ => none

end Operand

namespace ArgumentRules

/-- The second pass over arguments and their tokens.  `pending` tells whether the
operands are still to be taken. -/
def takeFrom
    (rules : ArgumentRules)
    (pending : Bool)
    (arguments : List (Text × ArgumentToken)) :
    Parsed :=
  match arguments with
  | [] =>
      match rules.operand with
      | .one label => if pending then { problem := some (.required label) } else {}
      | _ => {}
  | (text, token) :: rest =>
      match token with
      | .unknown _ => (takeFrom rules pending rest).after [] [text]
      | .option given =>
          match rules.consume given (rest.map Prod.snd) with
          | .error problem => { problem := some problem }
          | .ok consumed =>
              match OptionRule.takeAll consumed.uses with
              | (taken, some problem) => { taken := taken, problem := some problem }
              | (taken, none) =>
                  (takeFrom rules pending (rest.drop consumed.count)).after taken []
      | _ =>
          let all := (text, token) :: rest
          match rules.operand.take? (all.map Prod.fst) (all.map Prod.snd) with
          | some (values, count + 1) =>
              if pending then
                match rules.operand.problem? values with
                | some problem => { problem := some problem }
                | none => (takeFrom rules false (rest.drop count)).after [.operands values] []
              else
                (takeFrom rules pending rest).after [] [text]
          | _ => (takeFrom rules pending rest).after [] [text]
termination_by arguments.length

/-- Read arguments. -/
def parse (rules : ArgumentRules) (arguments : List Text) : Parsed :=
  match rules.classify arguments with
  | .error problem => { problem := some problem }
  | .ok tokens => rules.takeFrom true (arguments.zip tokens)

end ArgumentRules

end MissionLint
