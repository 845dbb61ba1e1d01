/-!
# Source texts

A YAML text is read as characters that know where they stand.  Line breaks are made uniform on the way
in: a carriage return, a carriage return with a line feed, and a next-line character all become one line
feed, while the two separators of Unicode stay as they are and still end the line.  Columns count
characters, and indices count the bytes of UTF-8.
-/

namespace BadgeLink
namespace Yaml

/-- A place in a text: how many bytes lie before it, and how many lines and columns. -/
structure Mark where
  index : Nat := 0
  line : Nat := 0
  column : Nat := 0
  deriving Repr, DecidableEq, Inhabited

namespace Mark

/-- The place after a character of the given number of bytes on the same line. -/
def right (m : Mark) (width : Nat) : Mark :=
  { m with index := m.index + width, column := m.column + 1 }

/-- The place after a line break of the given number of bytes. -/
def below (m : Mark) (width : Nat) : Mark :=
  { index := m.index + width, line := m.line + 1, column := 0 }

end Mark

structure Placed where
  char : Char
  mark : Mark
  deriving Repr, DecidableEq

/-- Whether a character ends a line, once line breaks are uniform. -/
def isBreak (c : Char) : Bool :=
  c == '\n' || c == '\u2028' || c == '\u2029'

/-- Whether a character is blank space inside a line. -/
def isSpace (c : Char) : Bool :=
  c == ' ' || c == '\t'

/-- Whether a character may stand in a YAML text at all. -/
def isAllowed (c : Char) : Bool :=
  c == '\t' || c == '\n' || c == '\r' || c == '\u0085' ||
    (0x20 ≤ c.toNat && c.toNat ≤ 0x7E) || (0xA0 ≤ c.toNat && c.toNat ≤ 0xFFFD) ||
    0x10000 ≤ c.toNat

/-- A whole text: its characters and the place where it ends. -/
structure Source where
  chars : List Placed
  stop : Mark
  deriving Repr, DecidableEq

namespace Source

/-- Puts a character in front of what is placed already. -/
def cons (c : Char) (mark : Mark) (s : Source) : Source :=
  { s with chars := ⟨c, mark⟩ :: s.chars }

def place (mark : Mark) : List Char → Source
  | [] => ⟨[], mark⟩
  | '\r' :: '\n' :: rest => (place (mark.below 2) rest).cons '\n' mark
  | c :: rest =>
    if c = '\r' ∨ c = '\u0085' then (place (mark.below c.utf8Size) rest).cons '\n' mark
    else if isBreak c then (place (mark.below c.utf8Size) rest).cons c mark
    else (place (mark.right c.utf8Size) rest).cons c mark

/-- The characters of a text, unless one of them may not stand there. -/
def ofString? (text : String) : Option Source :=
  if text.toList.all isAllowed then some (place {} text.toList) else none

end Source
end Yaml
end BadgeLink
