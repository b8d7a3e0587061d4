import MissionLint.Script.Line
import MissionLint.Script.Shape
import MissionLint.Text.Alphanumeric

namespace MissionLint

/-!
# Script outlines

The outline of a script is what every analysis starts from: its lines, its
variables and its event blocks.  A variable is declared once, by its first
declaration.  An event block starts with its opener and has the command lines up
to the next opener.
-/

/-- The value with which a variable starts.  A value that does not fit the type
stays text. -/
inductive InitialValue where
  | integer (value : Int)
  | real (value : Float)
  | flag (value : Bool)
  | text (value : Text)

namespace InitialValue

/-- A text without the quotes around it, when both ends have the same quote. -/
def unquote (text : Text) : Text :=
  match text with
  | first :: rest =>
      let isQuote := first == '"' || first.toNat == 0x27
      if !rest.isEmpty && rest.getLast? == some first && isQuote then
        rest.dropLast
      else
        text
  | [] => []

/-- The initial value of a type that a declared text gives. -/
def ofText (type : VariableType) (declared : Text) : InitialValue :=
  let text := Text.strip declared
  match type with
  | .int =>
      match Numeral.readInteger text with
      | .ok value => .integer value
      | .error _ => .text text
  | .float =>
      match Numeral.readReal? text with
      | some value => .real value
      | none => .text text
  | .bool =>
      if Text.lower text == "true" then
        .flag true
      else if Text.lower text == "false" then
        .flag false
      else
        .text text
  | .string => .text (unquote text)
  | _ => .text text

/-- The value of an integer. -/
def integer? : InitialValue → Option Int
  | .integer value => some value
  | _ => none

/-- Whether a value is the flag that is not set. -/
def isFalse : InitialValue → Bool
  | .flag false => true
  | _ => false

end InitialValue

/-- A declared variable. -/
structure Variable where
  name : Text
  type : VariableType
  line : Nat
  initial : InitialValue

/-- An event block: the line of its opener, its command lines, and the condition
of the first guard that leads to an event of its name. -/
structure Event where
  name : Text
  start : Nat
  commands : List Line
  guard : Option Text
  deriving Repr, DecidableEq

namespace Event

/-- The last line of a block. -/
def finish (event : Event) : Nat :=
  (event.commands.getLast?.map Line.number).getD event.start

/-- Whether a block owns a line. -/
def owns (event : Event) (number : Nat) : Bool :=
  event.start ≤ number && number ≤ event.finish

end Event

namespace Word

/-- Whether a character can belong to a word. -/
def isPart (c : CodePoint) : Bool :=
  Text.isAlphanumeric c || c == '_'

/-- Whether a token stands at the start of a text as a whole word, after a given
character. -/
def standsAt (token : Text) (before : Option CodePoint) (text : Text) : Bool :=
  token.isPrefixOf text && !before.any isPart && !(text.drop token.length).head?.any isPart

/-- Whether a token occurs as a whole word in the rest of a text, which follows a
given character. -/
def occursAfter (token : Text) (before : Option CodePoint) : Text → Bool
  | [] => standsAt token before []
  | c :: rest => standsAt token before (c :: rest) || occursAfter token (some c) rest

/-- Whether a token occurs as a whole word in a text. -/
def occursIn (token : Text) (text : Text) : Bool :=
  occursAfter token none text

end Word

/-- Whether an event's name or one of its command lines mentions a token as a
whole word. -/
def Event.mentions (event : Event) (token : Text) : Bool :=
  Word.occursIn token event.name ||
    event.commands.any fun line => Word.occursIn token line.code

/-- The lines, variables and event blocks of a script. -/
structure Outline where
  lines : List Line
  declared : List Variable
  events : List Event

namespace Outline

/-- The declarations of some lines in order.  A declaration without a type counts
only before the first opener. -/
def declarationsFrom (inside : Bool) : List Line → List Variable
  | [] => []
  | line :: rest =>
      if line.isBlank then
        declarationsFrom inside rest
      else if (Opener.ofCode? line.code).isSome then
        declarationsFrom true rest
      else
        match Declaration.ofCode? line.code with
        | some declaration =>
            if declaration.type != .unknown || !inside then
              ⟨declaration.name, declaration.type, line.number,
                  .ofText declaration.type declaration.value⟩ ::
                declarationsFrom inside rest
            else
              declarationsFrom inside rest
        | none => declarationsFrom inside rest

/-- The first declaration of each name. -/
def firstDeclarations (declarations : List Variable) : List Variable :=
  declarations.eraseDupsBy fun left right => left.name == right.name

/-- Whether a line of code declares a variable with a type. -/
def isTypedDeclaration (code : Text) : Bool :=
  (Declaration.ofCode? code).any fun declaration => declaration.type != .unknown

/-- The event blocks of some lines in order, the first of which continue an open
block.  A line with code is an opener, a typed declaration, or a command of the
open block. -/
def blocksFrom : Option Event → List Line → List Event
  | current, [] => current.toList
  | current, line :: rest =>
      if line.isBlank then
        blocksFrom current rest
      else
        match Opener.ofCode? line.code with
        | some name =>
            current.toList ++ blocksFrom (some ⟨name, line.number, [], none⟩) rest
        | none =>
            match current with
            | none => blocksFrom none rest
            | some block =>
                if isTypedDeclaration line.code then
                  blocksFrom (some block) rest
                else
                  blocksFrom (some { block with commands := block.commands ++ [line] }) rest

/-- The guards in some lines in order. -/
def guards (lines : List Line) : List Trigger :=
  lines.flatMap fun line => (Trigger.inCode line.code).filter Trigger.isGuard

/-- The condition of the first guard that leads to an event. -/
def guardOf? (guards : List Trigger) (name : Text) : Option Text :=
  (guards.find? fun trigger => trigger.target == name).map fun trigger =>
    Text.strip trigger.condition

/-- The outline of some lines. -/
def ofLines (lines : List Line) : Outline :=
  let allGuards := guards lines
  { lines := lines
    declared := firstDeclarations (declarationsFrom false lines)
    events := (blocksFrom none lines).map fun event =>
      { event with guard := guardOf? allGuards event.name } }

/-- The outline of a script. -/
def ofScript (script : Text) : Outline :=
  ofLines (Line.ofScript script)

/-- The distinct event names in the order of their first blocks. -/
def eventNames (outline : Outline) : List Text :=
  (outline.events.map Event.name).eraseDups

/-- The blocks of an event. -/
def eventsNamed (outline : Outline) (name : Text) : List Event :=
  outline.events.filter fun event => event.name == name

/-- The first block of an event. -/
def firstEvent? (outline : Outline) (name : Text) : Option Event :=
  outline.events.find? fun event => event.name == name

/-- The block that owns a line. -/
def eventAt? (outline : Outline) (number : Nat) : Option Event :=
  outline.events.find? fun event => event.owns number

/-- The blocks in a list whose event has a block before them, among the list or
among given names. -/
def repeatedFrom (seen : List Text) : List Event → List Event
  | [] => []
  | event :: rest =>
      if seen.contains event.name then
        event :: repeatedFrom seen rest
      else
        repeatedFrom (event.name :: seen) rest

/-- The blocks that repeat an event. -/
def repeatedEvents (outline : Outline) : List Event :=
  repeatedFrom [] outline.events

/-- The variables of a type. -/
def variablesOfType (outline : Outline) (type : VariableType) : List Variable :=
  outline.declared.filter fun declared => declared.type == type

/-- The variable of a name. -/
def variableNamed? (outline : Outline) (name : Text) : Option Variable :=
  outline.declared.find? fun declared => declared.name == name

/-- The distinct names of the events whose blocks mention a token. -/
def eventsMentioning (outline : Outline) (token : Text) : List Text :=
  ((outline.events.filter fun event => event.mentions token).map Event.name).eraseDups

end Outline

end MissionLint
