import MissionLint.Text
import MissionLint.Text.Printable

namespace MissionLint

/-!
# Quoted text

Messages quote a text so that its ends and its invisible characters show.  The
quote is an apostrophe, unless the text has an apostrophe and no quotation mark.
A surrogate never shows, so it is escaped.
-/

namespace Text

/-- The lower case hexadecimal digits of a number, filled with zeros up to a
width. -/
def hexDigits (width n : Nat) : Text :=
  let digits := ofCharacters (Nat.toDigits 16 n)
  repeated (width - digits.length) '0' ++ digits

/-- The escape of a code point that does not show. -/
def escapedByCode (c : CodePoint) : Text :=
  if c.toNat < 0x100 then
    "\\x" ++ hexDigits 2 c.toNat
  else if c.toNat < 0x10000 then
    "\\u" ++ hexDigits 4 c.toNat
  else
    "\\U" ++ hexDigits 8 c.toNat

/-- A character as it stands in a quoted text. -/
def quotedCharacter (quote c : CodePoint) : Text :=
  if c == '\\' || c == quote then
    ['\\', c]
  else if c == '\n' then
    "\\n"
  else if c == '\r' then
    "\\r"
  else if c == '\t' then
    "\\t"
  else if isPrintable c then
    [c]
  else
    escapedByCode c

/-- The usual quote. -/
def apostrophe : CodePoint :=
  CodePoint.ofNat 0x27

/-- The quote that a text takes. -/
def quoteMark (text : Text) : CodePoint :=
  if text.contains apostrophe && !text.contains '"' then
    '"'
  else
    apostrophe

/-- A text between quotes. -/
def quoted (text : Text) : Text :=
  let quote := quoteMark text
  quote :: text.flatMap (quotedCharacter quote) ++ [quote]

end Text

end MissionLint
