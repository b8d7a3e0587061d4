import MissionLint.Text
import MissionLint.Text.DecimalDigit

namespace MissionLint

/-!
# Readers

A reader looks at the start of a text and either refuses it or gives what it
read together with the rest.  Readers never go back: the first alternative that
reads decides, and a repetition takes all it can.
-/

/-- What a reader makes of a text: the value that it read and the rest. -/
abbrev Reader (Value : Type) := Text → Option (Value × Text)

namespace Reader

/-- The rest after spaces and tabs. -/
def skipIndent (text : Text) : Text :=
  text.dropWhile Text.isIndent

/-- The rest after at least one space or tab. -/
def skipSomeIndent? (text : Text) : Option Text :=
  match text with
  | [] => none
  | first :: rest => if Text.isIndent first then some (skipIndent rest) else none

/-- The rest after spacing. -/
def skipSpacing (text : Text) : Text :=
  text.dropWhile Text.isSpacing

/-- The rest after given characters. -/
def literal? (expected text : Text) : Option Text :=
  if expected.isPrefixOf text then some (text.drop expected.length) else none

/-- The rest after one character, which another may not follow. -/
def notDoubled? (expected : CodePoint) : Text → Option Text
  | first :: rest =>
      if first == expected && rest.head? != some expected then some rest else none
  | [] => none

/-- The characters of a class at the start of a text, and the rest. -/
def run (belongs : CodePoint → Bool) (text : Text) : Text × Text :=
  (text.takeWhile belongs, text.dropWhile belongs)

/-- At least one character of a class. -/
def run? (belongs : CodePoint → Bool) : Reader Text := fun text =>
  match text with
  | [] => none
  | first :: _ => if belongs first then some (run belongs text) else none

/-- Read a name. -/
def name? : Reader Text := fun text =>
  match text with
  | [] => none
  | first :: rest =>
      if Text.isNameStart first then
        some (first :: rest.takeWhile Text.isNameChar, rest.dropWhile Text.isNameChar)
      else
        none

/-- At least one digit, with or without a value. -/
def digits? : Reader Text :=
  run? Text.isAnyDigit

/-- Digits, and a point with more digits when they follow. -/
def decimal? : Reader Text := fun text => do
  let (whole, rest) ← digits? text
  match rest with
  | '.' :: afterPoint =>
      match digits? afterPoint with
      | some (fraction, afterFraction) => some (whole ++ "." ++ fraction, afterFraction)
      | none => some (whole, rest)
  | _ => some (whole, rest)

/-- A reader of something after an optional hyphen, which belongs to it. -/
def signed? (read? : Reader Text) : Reader Text := fun text =>
  match text with
  | '-' :: rest => (read? rest).map fun (taken, rest) => ('-' :: taken, rest)
  | _ => read? text

/-- Everything up to a semicolon, and the rest from it on. -/
def statement (text : Text) : Text × Text :=
  run (· != ';') text

/-- The rest after a semicolon, when there is one. -/
def skipSemicolon : Text → Text
  | ';' :: rest => rest
  | text => text

/-- The first of some words that a text starts with, and the rest. -/
def word? (words : List (Text × Value)) : Reader Value := fun text =>
  words.findSome? fun (word, value) => (literal? word text).map fun rest => (value, rest)

/-- What a reader makes of a whole text. -/
def whole? (read? : Reader Value) (text : Text) : Option Value :=
  match read? text with
  | some (value, []) => some value
  | _ => none

end Reader

end MissionLint
