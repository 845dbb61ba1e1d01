import BadgeLink.Yaml.Source

/-!
# Scalars

A scalar is a run of text, plain or between quotes.  Inside it, white space on one line is kept, a single
line break reads as a space, and of several line breaks all but the first are kept; white space around
line breaks is dropped.  Every reader of this module goes through the text once, character by character.
-/

namespace BadgeLink
namespace Yaml

/-- White space between two words of a scalar: nothing, blanks on one line, or line breaks of which the
first may be missing because it was escaped. -/
inductive Gap
  | nothing
  | blanks (chars : List Char)
  | breaks (first : Option Char) (more : List Char)
  deriving Repr, DecidableEq

namespace Gap

def isBroken : Gap → Bool
  | breaks .. => true
  | _ => false

def blank (c : Char) : Gap → Gap
  | nothing => .blanks [c]
  | .blanks chars => .blanks (chars ++ [c])
  | breaks first more => breaks first more

def newline (c : Char) : Gap → Gap
  | nothing | .blanks _ => breaks (some c) []
  | breaks first more => breaks first (more ++ [c])

def reading : Gap → List Char
  | nothing => []
  | .blanks chars => chars
  | breaks (some '\n') [] => [' ']
  | breaks (some '\n') more => more
  | breaks first more => first.toList ++ more

/-- A text with the gap behind it. -/
def after (text : String) (gap : Gap) : String :=
  text ++ String.ofList gap.reading

end Gap

/-- Whether the text is at its end or at white space. -/
def atSpace : List Placed → Bool
  | [] => true
  | c :: _ => isSpace c.char || isBreak c.char

/-- Whether three copies of a character stand alone at the start of a line. -/
def atTriple (c : Char) : List Placed → Bool
  | a :: b :: d :: rest =>
    a.mark.column == 0 && a.char == c && b.char == c && d.char == c && atSpace rest
  | _ => false

/-- Whether a line starts with the mark that starts or ends a document. -/
def atDocumentMark (text : List Placed) : Bool :=
  atTriple '-' text || atTriple '.' text

/-- Whether a character belongs to the grammar of flow collections. -/
def isFlowMark (c : Char) : Bool :=
  [',', '[', ']', '\x7b', '\x7d'].contains c

/-- A scalar that has been read, whether a line ended behind it, and the text after it. -/
structure ScalarRead where
  text : String
  broken : Bool
  rest : List Placed
  deriving Repr, DecidableEq

/-- Reads the rest of a plain scalar, whose words so far are `text` and whose white space since then is
`gap`.  A plain scalar ends at a comment, at the mark of a value, at a document mark, at a mark of the
flow collection around it, or at a line with less indentation; tabs cannot indent. -/
def readPlain (flow : Bool) (indent : Nat) (text : String) (gap : Gap) :
    List Placed → Option ScalarRead
  | [] => some ⟨text, gap.isBroken, []⟩
  | c :: rest =>
    let stop : Option ScalarRead := some ⟨text, gap.isBroken, c :: rest⟩
    if isSpace c.char then
      if gap.isBroken && c.char == '\t' && c.mark.column < indent then none
      else readPlain flow indent text (gap.blank c.char) rest
    else if isBreak c.char then readPlain flow indent text (gap.newline c.char) rest
    else if gap != .nothing &&
        (c.char == '#' || atDocumentMark (c :: rest) || (!flow && c.mark.column < indent)) then
      stop
    else if c.char == ':' && flow && rest.head?.any fun d => d.char == '?' || isFlowMark d.char then
      none
    else if c.char == ':' && atSpace rest || flow && isFlowMark c.char then stop
    else readPlain flow indent ((gap.after text).push c.char) .nothing rest

/-- Reads the rest of a scalar between single quotes, where a quote is written twice. -/
def readSingle (text : String) (gap : Gap) : List Placed → Option ScalarRead
  | [] => none
  | c :: rest =>
    if atDocumentMark (c :: rest) then none
    else if isSpace c.char then readSingle text (gap.blank c.char) rest
    else if isBreak c.char then readSingle text (gap.newline c.char) rest
    else if c.char == '\'' then
      match rest with
      | [] => some ⟨gap.after text, false, []⟩
      | d :: more =>
        if d.char == '\'' then readSingle ((gap.after text).push '\'') .nothing more
        else some ⟨gap.after text, false, d :: more⟩
    else readSingle ((gap.after text).push c.char) .nothing rest

/-- What an escape stands for by itself. -/
def escapedChar? (c : Char) : Option Char :=
  let table : List (Char × Char) :=
    [('0', '\x00'), ('a', '\x07'), ('b', '\x08'), ('t', '\t'), ('\t', '\t'), ('n', '\n'),
      ('v', '\x0b'), ('f', '\x0c'), ('r', '\r'), ('e', '\x1b'), (' ', ' '), ('"', '"'), ('/', '/'),
      ('\\', '\\'), ('N', '\u0085'), ('_', '\u00a0'), ('L', '\u2028'), ('P', '\u2029')]
  table.lookup c

/-- How many hexadecimal digits follow an escape. -/
def escapedDigits? (c : Char) : Option Nat :=
  let table : List (Char × Nat) := [('x', 2), ('u', 4), ('U', 8)]
  table.lookup c

def hexValue? (c : Char) : Option Nat :=
  if '0' ≤ c ∧ c ≤ '9' then some (c.toNat - '0'.toNat)
  else if 'a' ≤ c ∧ c ≤ 'f' then some (c.toNat - 'a'.toNat + 10)
  else if 'A' ≤ c ∧ c ≤ 'F' then some (c.toNat - 'A'.toNat + 10)
  else none

/-- The character with a code point, if there is one. -/
def charOf? (code : Nat) : Option Char :=
  if code.isValidChar then some (Char.ofNat code) else none

/-- Where the reader of a double-quoted scalar is: between characters, after a backslash, or inside the
digits of an escape, with the number of digits to come and the value so far. -/
inductive Escape
  | outside
  | marked
  | digits (left value : Nat)
  deriving Repr, DecidableEq

/-- Reads the rest of a scalar between double quotes, where a backslash escapes a character, a code point
or the end of a line. -/
def readDouble (text : String) (gap : Gap) (escape : Escape) : List Placed → Option ScalarRead
  | [] => none
  | c :: rest =>
    match escape with
    | .digits left value =>
      match hexValue? c.char with
      | none => none
      | some d =>
        if left ≤ 1 then
          match charOf? (16 * value + d) with
          | none => none
          | some character => readDouble (text.push character) .nothing .outside rest
        else readDouble text .nothing (.digits (left - 1) (16 * value + d)) rest
    | .marked =>
      if isBreak c.char then readDouble text (.breaks none []) .outside rest
      else
        match escapedChar? c.char, escapedDigits? c.char with
        | some character, _ => readDouble (text.push character) .nothing .outside rest
        | none, some count => readDouble text .nothing (.digits count 0) rest
        | none, none => none
    | .outside =>
      if atDocumentMark (c :: rest) then none
      else if isSpace c.char then readDouble text (gap.blank c.char) .outside rest
      else if isBreak c.char then readDouble text (gap.newline c.char) .outside rest
      else if c.char == '"' then some ⟨gap.after text, false, rest⟩
      else if c.char == '\\' then readDouble (gap.after text) .nothing .marked rest
      else readDouble ((gap.after text).push c.char) .nothing .outside rest

end Yaml
end BadgeLink
