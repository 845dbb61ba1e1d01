/-!
# Control sequences of terminals

A text may hold characters that steer a terminal and are not shown by it.  A control character does so on
its own, and an escape character starts a sequence of several, whose end depends on what it consists of.
The visible part of a text is found by following the sequences character by character.
-/

namespace BadgeLink
namespace Text
namespace Terminal

/-- What a terminal is in the middle of: text, an escape sequence in front of or behind its first
character, a control sequence, a device control string at its start, in its parameters or in front of its
last mark, a string that nothing shows, or a system command. -/
inductive Phase
  | text
  | escape
  | escapeTail
  | control
  | device
  | deviceParameters
  | deviceTail
  | hidden
  | command
  deriving Repr, DecidableEq

/-- Whether a code point lies between two ends, both included. -/
def isWithin (least greatest : Nat) (c : Char) : Bool :=
  least ≤ c.toNat && c.toNat ≤ greatest

/-- Whether a control character leaves a gap in a text. -/
def isGap (c : Char) : Bool :=
  c == '\t' || c == '\n' || c == '\x0c' || c == '\r'

/-- Whether a character of a text is visible. -/
def isVisible (c : Char) : Bool :=
  isGap c || (0x20 ≤ c.toNat && c.toNat != 0x7F)

namespace Phase

/-- Whether a character is shown.  A gap is shown inside an escape or control sequence too, and breaks it
off. -/
def shows : Phase → Char → Bool
  | text, c => isVisible c
  | escape, c | escapeTail, c | control, c => isGap c
  | _, _ => false

/-- What the first character of an escape sequence begins. -/
def afterEscape (c : Char) : Phase :=
  if c == '[' then control
  else if c == ']' then command
  else if c == 'P' then device
  else if c == 'X' || c == '^' || c == '_' then hidden
  else if isWithin 0x20 0x2F c then escapeTail
  else if isWithin 0x30 0x7E c then text
  else escape

/-- What follows a character that is not shown.  An escape starts a new sequence anywhere, and cancel and
substitute end any.  A string that nothing shows also ends at a character with the byte `9C` in it, and a
system command at a bell. -/
def next (phase : Phase) (c : Char) : Phase :=
  if c == '\x1b' then escape
  else if c == '\x18' || c == '\x1a' then text
  else
    match phase with
    | text => text
    | escape => afterEscape c
    | escapeTail => if isWithin 0x30 0x7E c then text else escapeTail
    | control => if isWithin 0x40 0x7E c then text else control
    | device =>
      if isWithin 0x20 0x2F c then deviceTail
      else if isWithin 0x30 0x3F c then deviceParameters
      else if isWithin 0x40 0x7E c then hidden
      else device
    | deviceParameters =>
      if isWithin 0x20 0x2F c then deviceTail
      else if isWithin 0x3C 0x7E c then hidden
      else deviceParameters
    | deviceTail => if isWithin 0x30 0x7E c then hidden else deviceTail
    | hidden => if (String.utf8EncodeChar c).contains 0x9C then text else hidden
    | command => if c == '\x07' then text else command

/-- The visible characters from a phase on.  What is shown is text, and so is what follows it. -/
def visible (phase : Phase) : List Char → List Char
  | [] => []
  | c :: rest =>
    if phase.shows c then c :: visible text rest else visible (phase.next c) rest

end Phase

def visible (text : String) : String :=
  String.ofList (Phase.text.visible text.toList)

end Terminal
end Text
end BadgeLink
