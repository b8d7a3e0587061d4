import MissionLint.Text.Blank

namespace MissionLint

/-!
# Text

Scripts, names and messages are lists of code points, so every position, column
and length counts code points and every reader is a function on lists.  String
literals stand for the text that they spell.
-/

/-- A text is the list of its code points. -/
abbrev Text := List CodePoint

namespace Text

/-- The text of some characters. -/
def ofCharacters (characters : List Char) : Text :=
  characters.map .character

/-- The text of a string. -/
def ofString (source : String) : Text :=
  ofCharacters source.toList

end Text

/-- A string literal stands for its text. -/
instance : Coe String Text := ⟨Text.ofString⟩

namespace Text

/-- Whether a character can start a name: an ASCII letter or an underscore. -/
def isNameStart (c : CodePoint) : Bool :=
  c.isAlpha || c == '_'

/-- Whether a character can continue a name: an ASCII letter, an ASCII digit or
an underscore. -/
def isNameChar (c : CodePoint) : Bool :=
  c.isAlphanum || c == '_'

/-- Whether a text is a name: a letter or an underscore, and then letters, digits and
underscores. -/
def isName : Text → Bool
  | [] => false
  | first :: rest => isNameStart first && rest.all isNameChar

/-- Drop the characters of a class from the end of a text. -/
def trimEndWhile (drops : CodePoint → Bool) (text : Text) : Text :=
  (text.reverse.dropWhile drops).reverse

/-- Drop the characters of a class from both ends of a text. -/
def trimWhile (drops : CodePoint → Bool) (text : Text) : Text :=
  trimEndWhile drops (text.dropWhile drops)

/-- Drop the blanks at both ends of a text. -/
def strip (text : Text) : Text :=
  trimWhile isBlank text

/-- The maximal runs of characters that are not blank. -/
def words (text : Text) : List Text :=
  (text.splitOnP isBlank).filter fun word => !word.isEmpty

/-- Join texts with a separator between neighbours. -/
def join (separator : Text) (parts : List Text) : Text :=
  separator.intercalate parts

/-- Lower the ASCII letters.  It is used to compare with words of ASCII letters
to which no other character lowers. -/
def lower (text : Text) : Text :=
  text.map CodePoint.toLower

/-- Whether one text occurs somewhere in another. -/
def occursIn (part : Text) : Text → Bool
  | [] => part.isEmpty
  | c :: rest => part.isPrefixOf (c :: rest) || occursIn part rest

/-- Texts are ordered by code point. -/
def ordered (left right : Text) : Bool :=
  decide (left ≤ right)

/-- The distinct members of a list of texts in ascending order. -/
def sortedDistinct (texts : List Text) : List Text :=
  texts.eraseDups.mergeSort ordered

/-- The decimal digits of a natural number. -/
def ofNat (n : Nat) : Text :=
  ofCharacters (Nat.toDigits 10 n)

/-- The decimal digits of an integer, after a hyphen when it is negative. -/
def ofInt (n : Int) : Text :=
  if n < 0 then
    '-' :: ofNat n.natAbs
  else
    ofNat n.natAbs

/-- A text with one code point in place of another. -/
def replaced (old new : CodePoint) (text : Text) : Text :=
  text.map fun c => if c == old then new else c

/-- A code point over and over. -/
def repeated (count : Nat) (point : CodePoint) : Text :=
  List.replicate count point

/-- Fill a text with spaces on its right up to a width. -/
def padRight (width : Nat) (text : Text) : Text :=
  text ++ repeated (width - text.length) ' '

end Text

end MissionLint
