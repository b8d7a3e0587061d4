import MissionLint.Data
import MissionLint.Numeral.Decimal

namespace MissionLint

/-!
# Reading data documents

A document is read from left to right, and the first fault is reported with its
place.  A record that repeats a field keeps the field's first place and its last
value.  Lists and records may be nested up to a limit, and no deeper one is read.
-/

namespace Data

/-- What is wrong at some place of a document. -/
inductive Problem where
  | byteOrderMark
  | value
  | fieldName
  | colon
  | comma
  | extra
  | unterminatedText
  | controlCharacter
  | escape
  | unicodeEscape
  deriving Repr, DecidableEq

namespace Problem

/-- The wording of a problem. -/
def message : Problem → Text
  | .byteOrderMark => "Unexpected UTF-8 BOM (decode using utf-8-sig)"
  | .value => "Expecting value"
  | .fieldName => "Expecting property name enclosed in double quotes"
  | .colon => "Expecting ':' delimiter"
  | .comma => "Expecting ',' delimiter"
  | .extra => "Extra data"
  | .unterminatedText => "Unterminated string starting at"
  | .controlCharacter => "Invalid control character at"
  | .escape => "Invalid \\escape"
  | .unicodeEscape => "Invalid \\uXXXX escape"

end Problem

/-- The values that hold others. -/
inductive Enclosure where
  | list
  | record
  deriving Repr, DecidableEq

namespace Enclosure

/-- The word for an enclosure in messages. -/
def name : Enclosure → Text
  | .list => "array"
  | .record => "object"

end Enclosure

/-- The most lists and records that may be open at once. -/
def nestingLimit : Nat := 990

/-- A document cannot be read: something is wrong at a position, an integer has
too many digits, or a list or a record is nested too deep. -/
inductive Fault where
  | malformed (problem : Problem) (position line column : Nat)
  | tooLong (limit : DigitLimit)
  | tooDeep (enclosure : Enclosure)
  deriving Repr, DecidableEq

namespace Fault

/-- The wording of a fault. -/
def message : Fault → Text
  | .malformed problem position line column =>
      problem.message ++ ": line " ++ Text.ofNat line ++ " column " ++ Text.ofNat column
        ++ " (char " ++ Text.ofNat position ++ ")"
  | .tooLong limit => limit.message
  | .tooDeep enclosure =>
      "maximum recursion depth exceeded while decoding a JSON " ++ enclosure.name
        ++ " from a unicode string"

end Fault

namespace Reader

/-- What stops a reader: a problem at a position, or a passed limit. -/
inductive Stop where
  | problem (problem : Problem) (position : Nat)
  | tooLong (limit : DigitLimit)
  | tooDeep (enclosure : Enclosure)
  deriving Repr, DecidableEq

/-- The rest of a document and the position at which it starts. -/
structure Cursor where
  position : Nat
  rest : Text
  deriving Repr, DecidableEq

namespace Cursor

/-- Stop at the cursor with a problem. -/
def stop (cursor : Cursor) (problem : Problem) : Except Stop Value :=
  .error (.problem problem cursor.position)

/-- The cursor after a number of characters. -/
def advance (cursor : Cursor) (count : Nat) : Cursor :=
  ⟨cursor.position + count, cursor.rest.drop count⟩

/-- The cursor after spaces, tabs and line ends. -/
def skipBlanks (cursor : Cursor) : Cursor :=
  let isBreak (c : CodePoint) : Bool := c == ' ' || c == '\t' || c == '\n' || c == '\r'
  cursor.advance (cursor.rest.takeWhile isBreak).length

/-- The character at the cursor. -/
def head? (cursor : Cursor) : Option CodePoint :=
  cursor.rest.head?

end Cursor

/-- The value of a hexadecimal digit. -/
def hexValue? (c : CodePoint) : Option Nat :=
  if c.isDigit then
    some (c.toNat - '0'.toNat)
  else if 'a'.toNat ≤ c.toNat && c.toNat ≤ 'f'.toNat then
    some (c.toNat - 'a'.toNat + 10)
  else if 'A'.toNat ≤ c.toNat && c.toNat ≤ 'F'.toNat then
    some (c.toNat - 'A'.toNat + 10)
  else
    none

/-- The unit that four hexadecimal digits spell. -/
def hexUnit? (digits : Text) : Option Nat :=
  digits.foldl
    (fun value digit => do return 16 * (← value) + (← hexValue? digit)) (some 0)

/-- The character of an escape with one letter. -/
def simpleEscape? : CodePoint → Option CodePoint
  | '"' => some '"'
  | '\\' => some '\\'
  | '/' => some '/'
  | 'b' => some (CodePoint.ofNat 0x08)
  | 'f' => some (CodePoint.ofNat 0x0c)
  | 'n' => some '\n'
  | 'r' => some '\r'
  | 't' => some '\t'
  | _ => none

/-- Read a unit whose letter `u` is at a cursor.  Its four digits may not end the
document. -/
def readUnit (mark : Cursor) : Except Stop (Nat × Cursor) :=
  let after := mark.advance 1
  if (after.rest.drop 4).isEmpty then
    mark.stop .unicodeEscape
  else
    match hexUnit? (after.rest.take 4) with
    | some unit => .ok (unit, after.advance 4)
    | none => mark.stop .unicodeEscape

/-- Read a code point escaped by its units, whose letter `u` is at a cursor.  A
pair of surrogates is one character. -/
def readUnicodeEscape (mark : Cursor) : Except Stop (CodePoint × Cursor) := do
  let (unit, after) ← readUnit mark
  let opening : Text := "\\u"
  if CodePoint.isHighSurrogate unit && !(after.rest.drop 6).isEmpty
      && opening.isPrefixOf after.rest then
    let (second, afterSecond) ← readUnit (after.advance 1)
    if CodePoint.isLowSurrogate second then
      return (.ofPair unit second, afterSecond)
    else
      return (.ofNat unit, after)
  else
    return (.ofNat unit, after)

/-- Read a text up to its closing quotation mark.  Each step takes a character or
an escape, so the length of the document bounds the steps. -/
def readTextFrom (opening : Cursor) : Nat → Cursor → Text → Except Stop (Text × Cursor)
  | 0, _, _ => opening.stop .unterminatedText
  | steps + 1, cursor, taken =>
      match cursor.rest with
      | [] => opening.stop .unterminatedText
      | '"' :: _ => .ok (taken.reverse, cursor.advance 1)
      | ['\\'] => opening.stop .unterminatedText
      | '\\' :: 'u' :: _ => do
          let (c, after) ← readUnicodeEscape (cursor.advance 1)
          readTextFrom opening steps after (c :: taken)
      | '\\' :: letter :: _ =>
          match simpleEscape? letter with
          | some c => readTextFrom opening steps (cursor.advance 2) (c :: taken)
          | none => cursor.stop .escape
      | c :: _ =>
          if c.toNat < 0x20 then
            cursor.stop .controlCharacter
          else
            readTextFrom opening steps (cursor.advance 1) (c :: taken)

/-- Read a text whose opening quotation mark is at a cursor. -/
def readText (opening : Cursor) : Except Stop (Text × Cursor) :=
  readTextFrom opening (opening.rest.length + 1) (opening.advance 1) []

/-- The exponent of a number: a mark, an optional sign and digits. -/
def exponentLength (text : Text) : Nat :=
  match text with
  | mark :: rest =>
      if mark == 'e' || mark == 'E' then
        let signs :=
          match rest with
          | '+' :: _ => 1
          | '-' :: _ => 1
          | _ => 0
        let digits := (rest.drop signs).takeWhile CodePoint.isDigit
        if digits.isEmpty then 0 else 1 + signs + digits.length
      else
        0
  | [] => 0

/-- The fraction of a number: a point and digits. -/
def fractionLength (text : Text) : Nat :=
  match text with
  | '.' :: rest =>
      let digits := rest.takeWhile CodePoint.isDigit
      if digits.isEmpty then 0 else 1 + digits.length
  | _ => 0

/-- Read a number.  It is a real when it has a fraction or an exponent. -/
def readNumber (start : Cursor) : Except Stop (Data × Cursor) :=
  let (negative, body) :=
    match start.rest with
    | '-' :: rest => (true, rest)
    | rest => (false, rest)
  let whole : Text :=
    match body with
    | '0' :: _ => "0"
    | _ => body.takeWhile CodePoint.isDigit
  if whole.isEmpty then
    start.stop .value
  else
    let afterWhole := body.drop whole.length
    let fraction := afterWhole.take (fractionLength afterWhole)
    let afterFraction := afterWhole.drop fraction.length
    let exponent := afterFraction.take (exponentLength afterFraction)
    let after :=
      start.advance
        ((if negative then 1 else 0) + whole.length + fraction.length + exponent.length)
    if fraction.isEmpty && exponent.isEmpty then
      match Numeral.readDigits whole with
      | .error limit => .error (.tooLong limit)
      | .ok value =>
          .ok (.number (.integer (if negative then -(value : Int) else (value : Int))), after)
    else
      let power := (Numeral.readExponent? exponent).getD 0
      .ok (.number (.real (Numeral.realOfParts negative whole (fraction.drop 1) power)), after)

/-- Words that stand for a value. -/
def constants : List (Text × Data) := [
  ("null", .null),
  ("true", .number (.flag true)),
  ("false", .number (.flag false)),
  ("NaN", .number (.real (0.0 / 0.0))),
  ("Infinity", .number (.real (1.0 / 0.0))),
  ("-Infinity", .number (.real (-(1.0 / 0.0))))
]

/-- Read a word or a number. -/
def readScalar (start : Cursor) : Except Stop (Data × Cursor) :=
  match constants.find? fun entry => entry.1.isPrefixOf start.rest with
  | some (word, value) => .ok (value, start.advance word.length)
  | none => readNumber start

mutual

/-- Read a value that may open as many lists and records in one another as there
is room for.  Each nested reading takes a character, so the length of the document
bounds the steps. -/
def readValue : Nat → Nat → Cursor → Except Stop (Data × Cursor)
  | 0, _, cursor => cursor.stop .value
  | steps + 1, room, cursor =>
      match cursor.head? with
      | some '"' => do
          let (value, after) ← readText cursor
          return (.text value, after)
      | some '[' =>
          let inside := (cursor.advance 1).skipBlanks
          if room == 0 then
            .error (.tooDeep .list)
          else if inside.head? == some ']' then
            .ok (.list [], inside.advance 1)
          else
            readItems steps (room - 1) inside []
      | some '\x7b' =>
          let inside := (cursor.advance 1).skipBlanks
          if room == 0 then
            .error (.tooDeep .record)
          else if inside.head? == some '\x7d' then
            .ok (.record [], inside.advance 1)
          else
            readFields steps (room - 1) inside []
      | _ => readScalar cursor

/-- Read the items of a list up to its end. -/
def readItems : Nat → Nat → Cursor → List Data → Except Stop (Data × Cursor)
  | 0, _, cursor, _ => cursor.stop .value
  | steps + 1, room, cursor, taken => do
      let (item, afterItem) ← readValue steps room cursor
      let next := afterItem.skipBlanks
      if next.head? == some ']' then
        return (.list (item :: taken).reverse, next.advance 1)
      else if next.head? == some ',' then
        readItems steps room (next.advance 1).skipBlanks (item :: taken)
      else
        next.stop .comma

/-- Read the fields of a record up to its end. -/
def readFields : Nat → Nat → Cursor → List (Text × Data) → Except Stop (Data × Cursor)
  | 0, _, cursor, _ => cursor.stop .fieldName
  | steps + 1, room, cursor, taken =>
      if cursor.head? != some '"' then
        cursor.stop .fieldName
      else do
        let (name, afterName) ← readText cursor
        let colon := afterName.skipBlanks
        if colon.head? != some ':' then
          colon.stop .colon
        else
          let (value, afterValue) ← readValue steps room (colon.advance 1).skipBlanks
          let next := afterValue.skipBlanks
          let fields := Table.put name value taken
          if next.head? == some '\x7d' then
            return (.record fields, next.advance 1)
          else if next.head? == some ',' then
            readFields steps room (next.advance 1).skipBlanks fields
          else
            next.stop .comma

end

/-- Read a whole document up to where the reader stops. -/
def readDocument (document : Text) : Except Stop Data := do
  let start : Cursor := ⟨0, document⟩
  if start.head? == some (CodePoint.ofNat 0xfeff) then
    start.stop .byteOrderMark
  else
    let (value, after) ← readValue (2 * document.length + 2) nestingLimit start.skipBlanks
    let finish := after.skipBlanks
    if finish.rest.isEmpty then
      return value
    else
      finish.stop .extra

end Reader

/-- The fault of a document in which a reader stopped.  Lines and columns count
from one, and only a line feed ends a line. -/
def faultOf (document : Text) : Reader.Stop → Fault
  | .tooLong limit => .tooLong limit
  | .tooDeep enclosure => .tooDeep enclosure
  | .problem problem position =>
      let before := document.take position
      let onLine := before.reverse.takeWhile fun (c : CodePoint) => c != '\n'
      .malformed problem position (before.count ('\n' : CodePoint) + 1) (onLine.length + 1)

/-- Read a document as a whole. -/
def parse (document : Text) : Except Fault Data :=
  (Reader.readDocument document).mapError (faultOf document)

end Data

end MissionLint
