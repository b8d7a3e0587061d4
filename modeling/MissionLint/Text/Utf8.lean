import MissionLint.Text.Quoted

namespace MissionLint

/-!
# UTF-8

Decoding stops at the first sequence that is not UTF-8 and says where it stands,
how many bytes it has and what is wrong with it.  Every character has bytes, but a
surrogate has none, so a text that holds one cannot be written.
-/

namespace Utf8

/-- Why a byte sequence is refused. -/
inductive Reason where
  | invalidStart
  | invalidContinuation
  | unexpectedEnd
  deriving Repr, DecidableEq

/-- A refused sequence: its position, its first byte and its length in bytes. -/
structure Fault where
  position : Nat
  count : Nat
  byte : Nat
  reason : Reason
  deriving Repr, DecidableEq

namespace Reason

/-- The wording of a reason. -/
def message : Reason → Text
  | .invalidStart => "invalid start byte"
  | .invalidContinuation => "invalid continuation byte"
  | .unexpectedEnd => "unexpected end of data"

end Reason

namespace Fault

/-- The wording of a fault: a single byte is shown, a longer sequence is located
by its first and last position. -/
def message (fault : Fault) : Text :=
  if fault.count ≤ 1 then
    "'utf-8' codec can't decode byte 0x" ++ Text.hexDigits 2 fault.byte
      ++ " in position " ++ Text.ofNat fault.position ++ ": " ++ fault.reason.message
  else
    "'utf-8' codec can't decode bytes in position " ++ Text.ofNat fault.position ++ "-"
      ++ Text.ofNat (fault.position + fault.count - 1) ++ ": " ++ fault.reason.message

end Fault

/-- Whether a byte continues a sequence. -/
def isContinuation (byte : Nat) : Bool :=
  0x80 ≤ byte && byte < 0xc0

/-- Whether a byte may follow the first byte of a longer sequence: it continues
the sequence, and the two neither spell a shorter character nor a surrogate nor
a value beyond the last character. -/
def isSecond (first byte : Nat) : Bool :=
  isContinuation byte &&
    (first != 0xe0 || 0xa0 ≤ byte) && (first != 0xed || byte < 0xa0) &&
    (first != 0xf0 || 0x90 ≤ byte) && (first != 0xf4 || byte < 0x90)

/-- The six low bits of a continuation byte. -/
def payload (byte : Nat) : Nat :=
  byte % 0x40

/-- Decode bytes that start at a position of a longer sequence. -/
def decodeFrom (position : Nat) : List Nat → Except Fault Text
  | [] => .ok []
  | first :: rest =>
      let refuse (count : Nat) (reason : Reason) : Except Fault Text :=
        .error ⟨position, count, first, reason⟩
      if first < 0x80 then
        (decodeFrom (position + 1) rest).map (Char.ofNat first :: ·)
      else if first < 0xc2 || 0xf5 ≤ first then
        refuse 1 .invalidStart
      else if first < 0xe0 then
        match rest with
        | [] => refuse 1 .unexpectedEnd
        | second :: rest =>
            if isContinuation second then
              (decodeFrom (position + 2) rest).map
                (Char.ofNat ((first - 0xc0) * 0x40 + payload second) :: ·)
            else
              refuse 1 .invalidContinuation
      else if first < 0xf0 then
        match rest with
        | [] => refuse 1 .unexpectedEnd
        | second :: rest =>
            if !isSecond first second then
              refuse 1 .invalidContinuation
            else
              match rest with
              | [] => refuse 2 .unexpectedEnd
              | third :: rest =>
                  if isContinuation third then
                    (decodeFrom (position + 3) rest).map
                      (Char.ofNat (((first - 0xe0) * 0x40 + payload second) * 0x40
                        + payload third) :: ·)
                  else
                    refuse 2 .invalidContinuation
      else
        match rest with
        | [] => refuse 1 .unexpectedEnd
        | second :: rest =>
            if !isSecond first second then
              refuse 1 .invalidContinuation
            else
              match rest with
              | [] => refuse 2 .unexpectedEnd
              | third :: rest =>
                  if !isContinuation third then
                    refuse 2 .invalidContinuation
                  else
                    match rest with
                    | [] => refuse 3 .unexpectedEnd
                    | fourth :: rest =>
                        if isContinuation fourth then
                          (decodeFrom (position + 4) rest).map
                            (Char.ofNat ((((first - 0xf0) * 0x40 + payload second) * 0x40
                              + payload third) * 0x40 + payload fourth) :: ·)
                        else
                          refuse 3 .invalidContinuation

/-- Decode a whole sequence of bytes. -/
def decode (bytes : List Nat) : Except Fault Text :=
  decodeFrom 0 bytes

/-- Surrogates that follow one another in a text: the first one, its position, and
how many they are. -/
structure LoneSurrogates where
  position : Nat
  first : Nat
  count : Nat
  deriving Repr, DecidableEq

namespace LoneSurrogates

/-- The wording for surrogates in a text: a single one is shown, several are
located by their first and last position. -/
def message (lone : LoneSurrogates) : Text :=
  let place : Text :=
    if lone.count ≤ 1 then
      "character '\\u" ++ Text.hexDigits 4 lone.first ++ "' in position "
        ++ Text.ofNat lone.position
    else
      "characters in position " ++ Text.ofNat lone.position ++ "-"
        ++ Text.ofNat (lone.position + lone.count - 1)
  "'utf-8' codec can't encode " ++ place ++ ": surrogates not allowed"

end LoneSurrogates

/-- The bytes of a code point.  Those of a surrogate are no UTF-8. -/
def bytesOf (point : CodePoint) : List Nat :=
  let code := point.toNat
  let low (unit : Nat) : Nat := 0x80 + code / unit % 0x40
  if code < 0x80 then
    [code]
  else if code < 0x800 then
    [0xc0 + code / 0x40, low 1]
  else if code < 0x10000 then
    [0xe0 + code / 0x1000, low 0x40, low 1]
  else
    [0xf0 + code / 0x40000, low 0x1000, low 0x40, low 1]

/-- The number of bytes of a text. -/
def size (text : Text) : Nat :=
  (text.flatMap bytesOf).length

/-- The first surrogates in a text. -/
def loneIn? (text : Text) : Option LoneSurrogates :=
  let isLone (point : CodePoint) : Bool := isSurrogate point.toNat
  let before := text.takeWhile fun point => !isLone point
  let found := (text.drop before.length).takeWhile isLone
  found.head?.map fun first => ⟨before.length, first.toNat, found.length⟩

/-- The bytes of a text without surrogates. -/
def encode (text : Text) : Except LoneSurrogates (List Nat) :=
  match loneIn? text with
  | some lone => .error lone
  | none => .ok (text.flatMap bytesOf)

end Utf8

end MissionLint
