import BadgeLink.Yaml.Layout

/-!
# Nodes

A document is a tree of scalars, sequences and mappings, and every node knows where it starts.  A key or
a value may be left out and is then an empty plain scalar.  Each reader of this module takes the tokens
that belong to one part of the tree and leaves fewer tokens than it was given, which is why reading ends.
-/

namespace BadgeLink
namespace Yaml

/-- A part of a document, with the place where it starts. -/
inductive Node
  | scalar (mark : Mark) (plain : Bool) (text : String)
  | sequence (mark : Mark) (items : List Node)
  | mapping (mark : Mark) (entries : List (Node × Node))
  deriving Repr

namespace Node

def mark : Node → Mark
  | scalar mark _ _ => mark
  | sequence mark _ => mark
  | mapping mark _ => mark

/-- The node that is left out at a place. -/
def missing (mark : Mark) : Node :=
  .scalar mark true ""

/-- A value with the tokens behind it, which are fewer than `tokens`. -/
abbrev Shorter (α : Type) (tokens : List Located) : Type :=
  α × { rest : List Located // rest.length < tokens.length }

/-- A value with the tokens behind it, which are not more than `tokens`. -/
abbrev NotLonger (α : Type) (tokens : List Located) : Type :=
  α × { rest : List Located // rest.length ≤ tokens.length }

def closeBlock (tokens : List Located) :
    Option { rest : List Located // rest.length < tokens.length } :=
  match tokens with
  | [] => none
  | t :: rest => if t.token = .closeBlock then some ⟨rest, by simp⟩ else none

/-- Whether a token stands where an entry of a block sequence is left out. -/
def leavesOutEntry : Token → Bool
  | .entry | .key | .value | .closeBlock => true
  | _ => false

/-- Whether a token stands where a key of a block mapping, or its value, is left out; a dash there starts
a sequence. -/
def leavesOutField : Token → Bool
  | .key | .value | .closeBlock => true
  | _ => false

/-- Whether a token stands where a key of a flow collection, or its value, is left out. -/
def leavesOutPart : Token → Bool
  | .value | .comma | .closeSequence | .closeMapping => true
  | _ => false

/-- Whether a token stands where a marked key of a flow sequence is left out. -/
def leavesOutItem : Token → Bool
  | .value | .comma | .closeSequence => true
  | _ => false

mutual

/-- Reads a node.  A sequence whose dashes are not indented has no tokens around it. -/
def read (tokens : List Located) : Option (Shorter Node tokens) :=
  match tokens with
  | [] => none
  | t :: rest =>
    match t.token with
    | .scalar plain text => some (.scalar t.mark plain text, ⟨rest, by simp⟩)
    | .openBlockSequence => do
      let (items, ⟨behind, h⟩) ← readEntries rest
      let ⟨after, _⟩ ← closeBlock behind
      return (.sequence t.mark items, ⟨after, by simp; omega⟩)
    | .openBlockMapping => do
      let (entries, ⟨behind, h⟩) ← readFields rest
      let ⟨after, _⟩ ← closeBlock behind
      return (.mapping t.mark entries, ⟨after, by simp; omega⟩)
    | .entry => do
      let (item, ⟨behind, h⟩) ← readUnless leavesOutEntry (some (t.mark.right 1)) rest
      let (items, ⟨after, _⟩) ← readEntries behind
      return (.sequence t.mark (item :: items), ⟨after, by simp; omega⟩)
    | .openSequence => do
      let (items, ⟨after, _⟩) ← readItems rest
      return (.sequence t.mark items, ⟨after, by simp; omega⟩)
    | .openMapping => do
      let (entries, ⟨after, _⟩) ← readPairs rest
      return (.mapping t.mark entries, ⟨after, by simp; omega⟩)
    | _ => none
termination_by (tokens.length, 0)

/-- Reads a node, unless the next token says that it is left out.  What is left out stands at `place`, or
else where the next token starts. -/
def readUnless (leavesOut : Token → Bool) (place : Option Mark) (tokens : List Located) :
    Option (NotLonger Node tokens) :=
  match tokens with
  | [] => none
  | t :: rest =>
    if leavesOut t.token then some (missing (place.getD t.mark), ⟨t :: rest, Nat.le_refl _⟩)
    else do
      let (node, ⟨after, h⟩) ← read (t :: rest)
      return (node, ⟨after, Nat.le_of_lt h⟩)
termination_by (tokens.length, 1)

/-- Reads the entries of a block sequence, each behind its dash. -/
def readEntries (tokens : List Located) : Option (NotLonger (List Node) tokens) :=
  match tokens with
  | [] => some ([], ⟨[], Nat.le_refl _⟩)
  | t :: rest =>
    if t.token = .entry then do
      let (item, ⟨behind, h⟩) ← readUnless leavesOutEntry (some (t.mark.right 1)) rest
      let (items, ⟨after, _⟩) ← readEntries behind
      return (item :: items, ⟨after, by simp; omega⟩)
    else some ([], ⟨t :: rest, Nat.le_refl _⟩)
termination_by (tokens.length, 0)

/-- Reads the keys of a block mapping with their values. -/
def readFields (tokens : List Located) : Option (NotLonger (List (Node × Node)) tokens) :=
  match tokens with
  | [] => some ([], ⟨[], Nat.le_refl _⟩)
  | t :: rest =>
    if t.token = .key then do
      let (key, ⟨behind, h⟩) ← readUnless leavesOutField (some (t.mark.right 1)) rest
      let (value, ⟨after, h'⟩) ← readValue false behind
      let (entries, ⟨final, _⟩) ← readFields after
      return ((key, value) :: entries, ⟨final, by simp; omega⟩)
    else some ([], ⟨t :: rest, Nat.le_refl _⟩)
termination_by (tokens.length, 0)

/-- Reads the value of a key: what follows a colon, or nothing where there is no colon. -/
def readValue (flow : Bool) (tokens : List Located) : Option (NotLonger Node tokens) :=
  match tokens with
  | [] => none
  | t :: rest =>
    if t.token = .value then do
      let (node, ⟨after, _⟩) ←
        if flow then readUnless leavesOutPart none rest
        else readUnless leavesOutField (some (t.mark.right 1)) rest
      return (node, ⟨after, by simp; omega⟩)
    else some (missing t.mark, ⟨t :: rest, Nat.le_refl _⟩)
termination_by (tokens.length, 0)

/-- Reads the items of a flow sequence up to its end; a comma may stand behind the last one. -/
def readItems (tokens : List Located) : Option (NotLonger (List Node) tokens) :=
  match tokens with
  | [] => none
  | t :: rest =>
    if t.token = .closeSequence then some ([], ⟨rest, by simp⟩)
    else do
      let (item, ⟨behind, h⟩) ← readItem (t :: rest)
      match behind, h with
      | [], _ => none
      | s :: more, h =>
        if s.token = .closeSequence then return ([item], ⟨more, by simp at h ⊢; omega⟩)
        else if s.token = .comma then
          have : more.length < rest.length := by simpa using h
          let (items, ⟨after, _⟩) ← readItems more
          return (item :: items, ⟨after, by simp; omega⟩)
        else none
termination_by (tokens.length, 2)

/-- Reads an item of a flow sequence; a key with its value is a mapping of its own.  Where the token behind
the mark of a key shows that the key is left out, that token belongs to the mark. -/
def readItem (tokens : List Located) : Option (Shorter Node tokens) :=
  match tokens with
  | [] => none
  | t :: rest =>
    if t.token = .key then
      match rest with
      | [] => none
      | s :: more => do
        let (key, ⟨behind, h⟩) ←
          if leavesOutItem s.token then some (missing s.mark, ⟨more, by simp⟩) else read (s :: more)
        have : behind.length < more.length + 1 := h
        let (value, ⟨after, _⟩) ← readValue true behind
        return (.mapping t.mark [(key, value)], ⟨after, by simp; omega⟩)
    else read (t :: rest)
termination_by (tokens.length, 1)

/-- Reads the pairs of a flow mapping up to its end; a comma may stand behind the last one. -/
def readPairs (tokens : List Located) : Option (NotLonger (List (Node × Node)) tokens) :=
  match tokens with
  | [] => none
  | t :: rest =>
    if t.token = .closeMapping then some ([], ⟨rest, by simp⟩)
    else do
      let (pair, ⟨behind, h⟩) ← readPair (t :: rest)
      match behind, h with
      | [], _ => none
      | s :: more, h =>
        if s.token = .closeMapping then return ([pair], ⟨more, by simp at h ⊢; omega⟩)
        else if s.token = .comma then
          have : more.length < rest.length := by simpa using h
          let (pairs, ⟨after, _⟩) ← readPairs more
          return (pair :: pairs, ⟨after, by simp; omega⟩)
        else none
termination_by (tokens.length, 2)

/-- Reads a pair of a flow mapping; a node that is no key has no value. -/
def readPair (tokens : List Located) : Option (Shorter (Node × Node) tokens) :=
  match tokens with
  | [] => none
  | t :: rest =>
    if t.token = .key then do
      let (key, ⟨behind, h⟩) ← readUnless leavesOutPart none rest
      let (value, ⟨after, _⟩) ← readValue true behind
      return ((key, value), ⟨after, by simp; omega⟩)
    else do
      let (node, behind) ← read (t :: rest)
      let next ← behind.val.head?
      return ((node, missing next.mark), behind)
termination_by (tokens.length, 1)

end

/-- Reads the root of a document that has no mark in front; a document mark there leaves it out. -/
def readRoot (tokens : List Located) : Option (Node × List Located) :=
  match tokens with
  | [] => some (missing {}, [])
  | t :: _ =>
    if t.token = .documentStart ∨ t.token = .documentEnd then some (missing t.mark, tokens)
    else do
      let (node, ⟨after, _⟩) ← read tokens
      return (node, after)

/-- The root of the only document among some tokens; without a document it is left out.  Marks of the end
may follow, and nothing else. -/
def ofTokens? (tokens : List Located) : Option Node := do
  let (root, after) ←
    match tokens with
    | [] => some (missing {}, [])
    | t :: rest =>
      if t.token = .documentStart then readRoot rest
      else if t.token = .documentEnd then none
      else readRoot tokens
  if after.all fun t => t.token = .documentEnd then some root else none

/-- The root of the only document in a text, if the text is well formed and in the part of YAML that
layout knows. -/
def ofString? (text : String) : Option Node := do
  let source ← Source.ofString? text
  ofTokens? (← Layout.tokens? source)

end Node
end Yaml
end BadgeLink
