import MissionLint.Script.Occurrence
import MissionLint.Numeral.Fault

namespace MissionLint

/-!
# Line shapes

A script is only loosely structured, so lines are recognised by their shapes.  A
declaration and an event opener cover a whole line; a trigger, an invocation, a
call, an assignment, an oxygen level and a spawner occur anywhere in it.
-/

/-- The type of a variable; a variable declared without a type has an unknown
one. -/
inductive VariableType where
  | int
  | float
  | bool
  | string
  | timer
  | arrow
  | unknown
  deriving Repr, DecidableEq

namespace VariableType

/-- The words that declare a type. -/
def words : List (Text × VariableType) := [
  ("int", .int), ("float", .float), ("bool", .bool), ("string", .string),
  ("timer", .timer), ("arrow", .arrow)
]

/-- The name of a type. -/
def name : VariableType → Text
  | .int => "int"
  | .float => "float"
  | .bool => "bool"
  | .string => "string"
  | .timer => "timer"
  | .arrow => "arrow"
  | .unknown => "unknown"

/-- The type that a word declares. -/
def ofWord? (word : Text) : Option VariableType :=
  words.lookup word

/-- Read a type. -/
def read? : Reader VariableType :=
  Reader.word? words

end VariableType

/-- A declaration of a variable with its value as written. -/
structure Declaration where
  type : VariableType
  name : Text
  value : Text
  deriving Repr, DecidableEq

namespace Declaration

/-- Read the value of a declaration: everything up to a semicolon, which may
stand at the end and be followed by an indent. -/
def readValue (text : Text) : Text × Text :=
  let (value, rest) := Reader.statement (Reader.skipIndent text)
  (value, Reader.skipIndent (Reader.skipSemicolon rest))

/-- Read a declaration with a type, as in `int Counter = 0`. -/
def readTyped? : Reader Declaration := fun text => do
  let (type, rest) ← VariableType.read? (Reader.skipIndent text)
  let rest ← Reader.skipSomeIndent? rest
  let (name, rest) ← Reader.name? rest
  let rest ← Reader.literal? "=" (Reader.skipIndent rest)
  let (value, rest) := readValue rest
  return (⟨type, name, Text.strip value⟩, rest)

/-- Read a declaration without a type, as in `Counter = 0`. -/
def readUntyped? : Reader Declaration := fun text => do
  let (name, rest) ← Reader.name? (Reader.skipIndent text)
  let rest ← Reader.notDoubled? '=' (Reader.skipIndent rest)
  let (value, rest) := readValue rest
  return (⟨.unknown, name, Text.strip value⟩, rest)

/-- The declaration that a line of code is. -/
def ofCode? (code : Text) : Option Declaration :=
  match Reader.whole? readTyped? code with
  | some declaration => some declaration
  | none => Reader.whole? readUntyped? code

end Declaration

namespace Opener

/-- Read the opener of an event block, as in `Name::`. -/
def read? : Reader Text := fun text => do
  let (name, rest) ← Reader.name? (Reader.skipIndent text)
  let rest ← Reader.literal? "::" rest
  return (name, Reader.skipIndent rest)

/-- The name of the event that a line of code opens. -/
def ofCode? (code : Text) : Option Text :=
  Reader.whole? read? code

end Opener

/-- The word that introduces a trigger. -/
inductive TriggerWord where
  | onWhen
  | onIf
  deriving Repr, DecidableEq

namespace TriggerWord

def spellings : List (Text × TriggerWord) := [("when", .onWhen), ("if", .onIf)]

/-- The spelling of a trigger word. -/
def spelling : TriggerWord → Text
  | .onWhen => "when"
  | .onIf => "if"

/-- Read a trigger word. -/
def read? : Reader TriggerWord :=
  Reader.word? spellings

end TriggerWord

/-- A trigger of an event under a condition. -/
structure Trigger where
  word : TriggerWord
  condition : Text
  target : Text
  deriving Repr, DecidableEq

namespace Trigger

/-- Whether a text starts with what ends a trigger's condition: a parenthesis,
spacing and a bracket. -/
def endsCondition : Text → Bool
  | ')' :: rest => (Reader.skipSpacing rest).head? == some '['
  | _ => false

/-- Read a condition: everything on the line up to what ends it. -/
def readCondition : Text → Text × Text
  | [] => ([], [])
  | c :: rest =>
      if c == '\n' || endsCondition (c :: rest) then
        ([], c :: rest)
      else
        let (condition, remaining) := readCondition rest
        (c :: condition, remaining)

/-- Read a trigger, as in `when(State==0)[Open]`. -/
def read? : Reader Trigger := fun text => do
  let (word, rest) ← TriggerWord.read? text
  let rest ← Reader.literal? "(" (Reader.skipIndent rest)
  let (condition, rest) := readCondition rest
  let rest ← Reader.literal? ")" rest
  let rest ← Reader.literal? "[" (Reader.skipIndent rest)
  let (target, rest) ← Reader.name? (Reader.skipIndent rest)
  let rest ← Reader.literal? "]" (Reader.skipIndent rest)
  return (⟨word, condition, target⟩, rest)

/-- The triggers in a line of code. -/
def inCode (code : Text) : List Trigger :=
  Occurrence.values read? code

/-- Whether a trigger is introduced by `when`. -/
def isGuard (trigger : Trigger) : Bool :=
  trigger.word == .onWhen

end Trigger

namespace WhenClause

/-- Split a text at the last place of a character, which starts the second
part. -/
def splitAtLast? (mark : CodePoint) : Text → Option (Text × Text)
  | [] => none
  | c :: rest =>
      match splitAtLast? mark rest with
      | some (before, onward) => some (c :: before, onward)
      | none => if c == mark then some ([], c :: rest) else none

/-- Read the condition of a clause: what a trigger's condition would be when a
parenthesis follows it, else everything in it up to its last parenthesis. -/
def readBody? : Reader Text := fun text =>
  let (condition, rest) := Trigger.readCondition text
  if rest.head? == some (')' : CodePoint) then
    some (condition, rest)
  else
    (splitAtLast? ')' condition).map fun (before, onward) => (before, onward ++ rest)

/-- Read a clause `when(…)`, whether or not a target follows. -/
def read? : Reader Text := fun text => do
  let rest ← Reader.literal? "when" text
  let rest ← Reader.literal? "(" (Reader.skipIndent rest)
  let (body, rest) ← readBody? rest
  let rest ← Reader.literal? ")" rest
  return (body, rest)

/-- The conditions of the clauses in a line of code. -/
def inCode (code : Text) : List Text :=
  Occurrence.values read? code

end WhenClause

namespace Invocation

/-- Read an invocation of an event, as in `Other::;`. -/
def read? : Reader Text := fun text => do
  let (name, rest) ← Reader.name? text
  let rest ← Reader.literal? "::" rest
  let rest ← Reader.literal? ";" (Reader.skipIndent rest)
  return (name, rest)

/-- The events invoked in a line of code. -/
def inCode (code : Text) : List Text :=
  Occurrence.values read? code

end Invocation

namespace CallCommand

/-- Read a call of an event, as in `call:Other`. -/
def read? : Reader Text := fun text => do
  let rest ← Reader.literal? "call" text
  let rest ← Reader.literal? ":" (Reader.skipIndent rest)
  Reader.name? (Reader.skipIndent rest)

/-- The events called in a line of code. -/
def inCode (code : Text) : List Text :=
  Occurrence.values read? code

end CallCommand

/-- An assignment of a value, as written, to a name. -/
structure Assignment where
  name : Text
  value : Text
  deriving Repr, DecidableEq

namespace Assignment

/-- Read an assignment, as in `Counter:1`. -/
def read? : Reader Assignment := fun text => do
  let (name, rest) ← Reader.name? text
  let rest ← Reader.notDoubled? ':' (Reader.skipIndent rest)
  let (value, rest) := Reader.statement (Reader.skipIndent rest)
  return (⟨name, Text.strip value⟩, rest)

/-- The assignments in a line of code. -/
def inCode (code : Text) : List Assignment :=
  Occurrence.values read? code

end Assignment

/-- A value that adds an amount, as written, to a name. -/
structure Increment where
  name : Text
  amount : Text
  deriving Repr, DecidableEq

namespace Increment

/-- Read an increment, as in `Cooldown+30`. -/
def read? : Reader Increment := fun text => do
  let (name, rest) ← Reader.name? (Reader.skipIndent text)
  let rest ← Reader.literal? "+" (Reader.skipIndent rest)
  let (amount, rest) ← Reader.decimal? (Reader.skipIndent rest)
  return (⟨name, amount⟩, Reader.skipIndent rest)

/-- The increment that an assigned value is: its name and its amount. -/
def ofValue? (value : Text) : Except NumeralFault (Option (Text × Float)) :=
  match Reader.whole? read? value with
  | none => .ok none
  | some increment =>
      (Numeral.realOf increment.amount).map fun amount => some (increment.name, amount)

end Increment

namespace IntegerLiteral

/-- Read an integer: digits after an optional hyphen. -/
def readDigits? : Reader Text :=
  Reader.signed? Reader.digits?

/-- Read an integer between indents. -/
def read? : Reader Text := fun text => do
  let (digits, rest) ← readDigits? (Reader.skipIndent text)
  return (digits, Reader.skipIndent rest)

/-- The integer that a text is, if it is one at all. -/
def ofText? (text : Text) : Except NumeralFault (Option Int) :=
  match Reader.whole? read? text with
  | none => .ok none
  | some digits => (Numeral.integerOf digits).map some

/-- The integers among texts, each with what belongs to it. -/
def integersOf (texts : List (Tag × Text)) : Except NumeralFault (List (Tag × Int)) := do
  let read ← texts.mapM fun (tag, text) => do
    let integer ← ofText? text
    return integer.map fun value => (tag, value)
  return read.filterMap id

end IntegerLiteral

/-- An oxygen level: the current and the greatest amount, as written. -/
structure OxygenLevel where
  current : Text
  maximum : Text
  deriving Repr, DecidableEq

namespace OxygenLevel

/-- Read an oxygen level, as in `oxygen:100/200`. -/
def read? : Reader OxygenLevel := fun text => do
  let rest ← Reader.literal? "oxygen" text
  let rest ← Reader.literal? ":" (Reader.skipIndent rest)
  let (current, rest) ← Reader.digits? (Reader.skipIndent rest)
  let rest ← Reader.literal? "/" (Reader.skipIndent rest)
  let (maximum, rest) ← Reader.digits? (Reader.skipIndent rest)
  return (⟨current, maximum⟩, rest)

/-- The amounts of the first oxygen level in a line of code. -/
def inCode? (code : Text) : Except NumeralFault (Option (Int × Int)) :=
  match (Occurrence.values read? code).head? with
  | none => .ok none
  | some level => do
      let current ← Numeral.integerOf level.current
      let maximum ← Numeral.integerOf level.maximum
      return some (current, maximum)

end OxygenLevel

namespace Spawner

/-- The words that set up spawning. -/
def words : List (Text × Unit) := [("spawncap", ()), ("addrandomspawn", ())]

/-- Read a spawner, as in `spawncap:`. -/
def read? : Reader Unit := fun text => do
  let ((), rest) ← Reader.word? words text
  let rest ← Reader.literal? ":" (Reader.skipIndent rest)
  return ((), rest)

/-- Whether a line of code sets up spawning. -/
def occursIn (code : Text) : Bool :=
  !(Occurrence.search read? code).isEmpty

end Spawner

end MissionLint
