import BadgeLink.Yaml.Scalar

/-!
# Layout

YAML writes structure partly with marks and partly with indentation.  Here a text becomes a list of
tokens in which both look alike: a block collection is opened and closed by tokens of its own, and every
key stands behind a token that says so.  Whether a scalar or a flow collection is a key is known only when
its colon comes, so each level of nesting remembers one candidate, and the token of the key is put in
front of it later.  A candidate has to be on the line of its colon and not too far from it.

Anchors, aliases, tags, block scalars and directives are left out.  There are no tokens for them, and a
text with the mark of one of them where a token starts is malformed here, though YAML allows it.
-/

namespace BadgeLink
namespace Yaml

/-- What a document is made of. -/
inductive Token
  | documentStart
  | documentEnd
  | openBlockSequence
  | openBlockMapping
  | closeBlock
  | openSequence
  | closeSequence
  | openMapping
  | closeMapping
  | comma
  | entry
  | key
  | value
  | scalar (plain : Bool) (text : String)
  deriving Repr, DecidableEq

structure Located where
  token : Token
  mark : Mark
  deriving Repr, DecidableEq

/-- A token that may turn out to start a key: how many tokens lie before it, and where it starts.  At
the column of a block mapping nothing but a key can stand, so there a candidate must not fail. -/
structure Candidate where
  before : Nat
  mark : Mark
  required : Bool
  deriving Repr, DecidableEq

namespace Candidate

/-- The most bytes of a key that has no mark in front. -/
def maxLength : Nat :=
  1024

/-- Whether the colon of a key can no longer come at a place. -/
def isStale (k : Candidate) (here : Mark) : Bool :=
  k.mark.line < here.line || k.mark.index + maxLength < here.index

end Candidate

/-- A text that has been read in part: what is left of it, the tokens so far with the last one first,
the columns of the open block collections with the innermost first, the candidate of this level and those
of the levels around it, and whether a key may start here. -/
structure Layout where
  rest : List Placed
  tokens : List Located := []
  count : Nat := 0
  columns : List Nat := []
  candidate : Option Candidate := none
  outer : List (Option Candidate) := []
  keyAllowed : Bool := true
  deriving Repr, DecidableEq

namespace Layout

def inFlow (l : Layout) : Bool :=
  !l.outer.isEmpty

/-- The least column at which the innermost block collection goes on inside an entry. -/
def indent (l : Layout) : Nat :=
  (l.columns.head?.map (· + 1)).getD 0

def emit (token : Token) (mark : Mark) (l : Layout) : Layout :=
  { l with tokens := ⟨token, mark⟩ :: l.tokens, count := l.count + 1 }

/-- Adds a token behind the first `before` tokens. -/
def insert (before : Nat) (token : Token) (mark : Mark) (l : Layout) : Layout :=
  let late := l.count - before
  { l with
    tokens := l.tokens.take late ++ ⟨token, mark⟩ :: l.tokens.drop late
    count := l.count + 1 }

/-- Opens a block collection behind the first `before` tokens, if its column is further to the right
than the innermost one. -/
def openBlock (column before : Nat) (token : Token) (mark : Mark) (l : Layout) : Layout :=
  if l.inFlow || column < l.indent then l
  else { l.insert before token mark with columns := column :: l.columns }

/-- Closes every block collection whose column fails a test. -/
def closeBlocks (keeps : Nat → Bool) (mark : Mark) (l : Layout) : Layout :=
  if l.inFlow then l
  else
    let closed := l.columns.takeWhile fun column => !keeps column
    { l with
      tokens := List.replicate closed.length ⟨.closeBlock, mark⟩ ++ l.tokens
      count := l.count + closed.length
      columns := l.columns.drop closed.length }

/-- Gives up the candidate of this level, which must not be required. -/
def dropCandidate (l : Layout) : Option Layout :=
  if l.candidate.any (·.required) then none else some { l with candidate := none }

/-- Makes what starts here the candidate of this level, where a key may start. -/
def saveCandidate (here : Mark) (l : Layout) : Option Layout :=
  if l.keyAllowed then do
    let free ← l.dropCandidate
    let required := !l.inFlow && l.columns.head? == some here.column
    return { free with candidate := some ⟨l.count, here, required⟩ }
  else some l

/-- A candidate that can still become a key; a required one must not be stale. -/
def refresh (here : Mark) (candidate : Option Candidate) : Option (Option Candidate) :=
  match candidate with
  | none => some none
  | some k =>
    if !k.isStale here then some (some k) else if k.required then none else some none

/-- Gives up the stale candidates of all levels. -/
def refreshAll (here : Mark) (l : Layout) : Option Layout := do
  let candidate ← refresh here l.candidate
  let outer ← l.outer.mapM (refresh here)
  return { l with candidate, outer }

/-- Skips blanks, comments and line breaks, and tells whether a key may start behind them.  A tab counts
as a blank only where it cannot be taken for indentation, and a byte order mark only where a line
starts. -/
def skipFiller (flow comment allowed : Bool) : List Placed → Bool × List Placed
  | [] => (allowed, [])
  | c :: rest =>
    if isBreak c.char then skipFiller flow false (allowed || !flow) rest
    else if comment then skipFiller flow true allowed rest
    else if c.char == ' ' || (c.char == '\t' && (flow || !allowed)) ||
        (c.char == '\uFEFF' && c.mark.column == 0) then
      skipFiller flow false allowed rest
    else if c.char == '#' then skipFiller flow true allowed rest
    else (allowed, c :: rest)

/-- Reads the mark of a document, which ends everything that is open. -/
def readDocumentMark (token : Token) (here : Mark) (l : Layout) : Option Layout := do
  let closed ← (l.closeBlocks (fun _ => false) here).dropCandidate
  return { closed.emit token here with rest := l.rest.drop 3, keyAllowed := false }

/-- Goes into a flow collection, which may be a key as a whole. -/
def readOpening (token : Token) (here : Mark) (l : Layout) : Option Layout := do
  let saved ← l.saveCandidate here
  return { saved.emit token here with
    rest := l.rest.drop 1
    candidate := none
    outer := saved.candidate :: saved.outer
    keyAllowed := true }

def readClosing (token : Token) (here : Mark) (l : Layout) : Option Layout :=
  match l.outer with
  | [] => none
  | candidate :: outer => do
    let dropped ← l.dropCandidate
    return { dropped.emit token here with rest := l.rest.drop 1, candidate, outer, keyAllowed := false }

def readComma (here : Mark) (l : Layout) : Option Layout :=
  if l.inFlow then do
    let dropped ← l.dropCandidate
    return { dropped.emit .comma here with rest := l.rest.drop 1, keyAllowed := true }
  else none

def readDash (here : Mark) (l : Layout) : Option Layout :=
  if !l.inFlow && l.keyAllowed then do
    let opened := l.openBlock here.column l.count .openBlockSequence here
    let dropped ← opened.dropCandidate
    return { dropped.emit .entry here with rest := l.rest.drop 1, keyAllowed := true }
  else none

def readKeyMark (here : Mark) (l : Layout) : Option Layout :=
  if l.inFlow || l.keyAllowed then do
    let opened := l.openBlock here.column l.count .openBlockMapping here
    let dropped ← opened.dropCandidate
    return { dropped.emit .key here with rest := l.rest.drop 1, keyAllowed := !l.inFlow }
  else none

/-- Reads the colon behind a key: behind a candidate, or on its own where a key may start. -/
def readColon (here : Mark) (l : Layout) : Option Layout :=
  match l.candidate with
  | some k =>
    let keyed := (l.insert k.before .key k.mark).openBlock k.mark.column k.before .openBlockMapping k.mark
    some { keyed.emit .value here with rest := l.rest.drop 1, candidate := none, keyAllowed := false }
  | none =>
    if l.inFlow || l.keyAllowed then
      let opened := l.openBlock here.column l.count .openBlockMapping here
      some { opened.emit .value here with rest := l.rest.drop 1, keyAllowed := !l.inFlow }
    else none

/-- Reads a scalar, which may be a key. -/
def readScalar (plain : Bool) (here : Mark) (read : Option ScalarRead) (l : Layout) :
    Option Layout := do
  let saved ← l.saveCandidate here
  let scalar ← read
  return { saved.emit (.scalar plain scalar.text) here with
    rest := scalar.rest
    keyAllowed := scalar.broken }

/-- Whether a character has a meaning of its own and so cannot start a plain scalar. -/
def isIndicator (c : Char) : Bool :=
  isFlowMark c || ['?', ':', '-', '#', '&', '*', '!', '|', '>', '%', '@', '\x60'].contains c

/-- Reads the token that starts with the character `c` in front of the text.  None starts with the mark of
an anchor, an alias, a tag, a block scalar or a directive. -/
def readToken (c : Placed) (behind : List Placed) (l : Layout) : Option Layout :=
  let here := c.mark
  let isMark := l.inFlow || atSpace behind
  if c.char == '%' && here.column == 0 then none
  else if atTriple '-' l.rest then l.readDocumentMark .documentStart here
  else if atTriple '.' l.rest then l.readDocumentMark .documentEnd here
  else if c.char == '[' then l.readOpening .openSequence here
  else if c.char == '\x7b' then l.readOpening .openMapping here
  else if c.char == ']' then l.readClosing .closeSequence here
  else if c.char == '\x7d' then l.readClosing .closeMapping here
  else if c.char == ',' then l.readComma here
  else if c.char == '-' && atSpace behind then l.readDash here
  else if c.char == '?' && isMark then l.readKeyMark here
  else if c.char == ':' && isMark then l.readColon here
  else if c.char == '\'' then l.readScalar false here (readSingle "" .nothing behind)
  else if c.char == '"' then l.readScalar false here (readDouble "" .nothing .outside behind)
  else if c.char == '\t' then none
  else if isIndicator c.char && !(['-', '?', ':'].contains c.char) then none
  else l.readScalar true here (readPlain l.inFlow l.indent "" .nothing l.rest)

/-- Where the last tokens of a text stand: on a line of their own. -/
def lastMark (stop : Mark) : Mark :=
  if stop.column = 0 then stop else { stop with line := stop.line + 1, column := 0 }

/-- Ends what is open at the end of the text. -/
def finish (stop : Mark) (l : Layout) : Option Layout :=
  (l.closeBlocks (fun _ => false) (lastMark stop)).dropCandidate

/-- Reads tokens to the end of the text.  Every token takes a character at least, so the first argument
is the length of the text and one more. -/
def readAll (stop : Mark) : Nat → Layout → Option Layout
  | 0, _ => none
  | rounds + 1, l => do
    let (keyAllowed, rest) := skipFiller l.inFlow false l.keyAllowed l.rest
    match rest with
    | [] =>
      let ready ← { l with keyAllowed, rest }.refreshAll stop
      ready.finish stop
    | c :: behind =>
      let ready ← { l with keyAllowed, rest }.refreshAll c.mark
      let placed := ready.closeBlocks (· ≤ c.mark.column) c.mark
      readAll stop rounds (← placed.readToken c behind)

/-- The tokens of a text, if its marks and its indentation make sense. -/
def tokens? (source : Source) : Option (List Located) := do
  let final ← readAll source.stop (source.chars.length + 1) { rest := source.chars }
  return final.tokens.reverse

end Layout
end Yaml
end BadgeLink
