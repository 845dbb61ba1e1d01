import BadgeLink.Text.Unprinted

/-!
# Quoted text

A quoted text shows every character in a form that can be told apart on a terminal.  The common
controls and the backslash have short escapes, the enclosing quote is escaped, and what does not print
by itself is shown by its code point.
-/

namespace BadgeLink
namespace Text

/-- A code point between braces, in as few hexadecimal digits as it needs. -/
def codePointEscape (c : Char) : List Char :=
  ['\\', 'u', '\x7b'] ++ Nat.toDigits 16 c.toNat ++ ['\x7d']

/-- A character as shown between two copies of `mark`. -/
def escaped (mark c : Char) : List Char :=
  if c = '\x00' then ['\\', '0']
  else if c = '\t' then ['\\', 't']
  else if c = '\r' then ['\\', 'r']
  else if c = '\n' then ['\\', 'n']
  else if c = '\\' then ['\\', '\\']
  else if c = mark then ['\\', mark]
  else if isUnprinted c then codePointEscape c
  else [c]

def quoted (text : String) : String :=
  String.ofList (['"'] ++ text.toList.flatMap (escaped '"') ++ ['"'])

def quotedChar (c : Char) : String :=
  String.ofList (['\''] ++ escaped '\'' c ++ ['\''])

end Text
end BadgeLink
