import BadgeLink.Text.Blank
import BadgeLink.Text.Quoted

/-!
# Hexadecimal text

Bytes are shown as pairs of lower-case digits.  Reading is more lenient than writing: either case is
accepted, blanks and colons may stand anywhere, and any number of `0x` markers may lead.  Reading
works on the UTF-8 bytes of the cleaned text, so a fault names a byte and its index there.
-/

namespace BadgeLink
namespace Text

/-- The UTF-8 bytes of a text. -/
def utf8 (text : String) : List UInt8 :=
  text.toList.flatMap String.utf8EncodeChar

namespace Hex

/-- The two digits of a byte, high half first. -/
def pair (byte : UInt8) : List Char :=
  [Nat.digitChar (byte.toNat / 16), Nat.digitChar (byte.toNat % 16)]

def digits (bytes : List UInt8) : List Char :=
  bytes.flatMap pair

/-- Bytes as text, two lower-case digits each. -/
def encode (bytes : List UInt8) : String :=
  String.ofList (digits bytes)

/-- One byte as text, after the marker `0x`. -/
def byte (b : UInt8) : String :=
  "0x" ++ String.ofList (pair b)

inductive Fault
  | oddLength
  | badByte (byte : UInt8) (index : Nat)
  deriving Repr, DecidableEq

/-- The wording of a fault; a byte is shown as the character with its number. -/
def Fault.message : Fault → String
  | .oddLength => "Odd number of digits"
  | .badByte byte index =>
    s!"Invalid character {quotedChar (Char.ofNat byte.toNat)} at position {index}"

/-- The value of a digit, given as the byte that stands for it. -/
def digit? (byte : UInt8) : Option UInt8 :=
  if 0x30 ≤ byte ∧ byte ≤ 0x39 then some (byte - 0x30)
  else if 0x61 ≤ byte ∧ byte ≤ 0x66 then some (byte - 0x57)
  else if 0x41 ≤ byte ∧ byte ≤ 0x46 then some (byte - 0x37)
  else none

/-- Reads pairs of digits, the first of them at `index`. -/
def decodeFrom (index : Nat) : List UInt8 → Except Fault (List UInt8)
  | [] => .ok []
  | [_] => .error .oddLength
  | high :: low :: rest =>
    match digit? high, digit? low with
    | none, _ => .error (.badByte high index)
    | some _, none => .error (.badByte low (index + 1))
    | some h, some l => (decodeFrom (index + 2) rest).map ((h * 16 + l) :: ·)

/-- Reads digits in pairs; an odd count is noticed before any bad digit. -/
def decode (bytes : List UInt8) : Except Fault (List UInt8) :=
  if bytes.length % 2 = 1 then .error .oddLength else decodeFrom 0 bytes

/-- Whether a character may stand between digits. -/
def isSeparator (c : Char) : Bool :=
  isBlank c || c == ':'

/-- Drops every `0x` that leads. -/
def dropMarkers : List Char → List Char
  | '0' :: 'x' :: rest => dropMarkers rest
  | text => text

/-- The characters of a text that carry its digits. -/
def cleaned (text : String) : List Char :=
  dropMarkers (text.toList.filter fun c => !isSeparator c)

/-- Reads bytes from a text with separators and markers. -/
def read (text : String) : Except Fault (List UInt8) :=
  decode (utf8 (String.ofList (cleaned text)))

end Hex
end Text
end BadgeLink
