import BadgeLink.CommandLine.Usage
import BadgeLink.CommandLine.Verb

/-!
# Invocations

A command line is read word by word, first in front of the verb and then behind it.  A word that starts
with a dash names settings; any other is the value of the setting in front of it, the verb, or an operand.
What a word means is settled only when the next one is looked at, so an unexpected word is noticed before
a wrong value in front of it.
-/

namespace BadgeLink
namespace CommandLine

/-- What a command line asks for, and the settings it gives. -/
structure Invocation where
  settings : Settings
  purpose : Purpose
  deriving Repr, DecidableEq

/-- A word that has been read and not settled: a setting with its value, if that has come, or an
operand. -/
inductive Pending
  | setting (setting : Setting) (value : Option String)
  | operand (operand : Operand) (word : String)
  deriving Repr, DecidableEq

/-- What has been read in front of the verb, or behind it.  Behind two dashes every word stands for
itself. -/
structure Reading where
  settings : Settings := {}
  operands : List Value := []
  pending : Option Pending := none
  literal : Bool := false
  deriving Repr, DecidableEq, Inhabited

namespace Reading

/-- Gives a setting its value; it may be given only once on either side of the verb. -/
def give (r : Reading) (setting : Setting) (value : String) : Except Usage Reading :=
  if r.settings.has setting then .error (.repeated setting)
  else
    match r.settings.put setting value with
    | .ok settings => .ok { r with settings, pending := none }
    | .error cause => .error (.badSetting value setting cause)

/-- Settles the word that is pending. -/
def settle (r : Reading) : Except Usage Reading :=
  match r.pending with
  | none => .ok r
  | some (.setting setting none) => .error (.missingValue setting)
  | some (.setting setting (some value)) => r.give setting value
  | some (.operand operand word) =>
    match operand.form.read word with
    | .ok value => .ok { r with operands := r.operands ++ [value], pending := none }
    | .error cause => .error (.badOperand word operand cause)

/-- The number of operands so far, with the one that is pending. -/
def operandCount (r : Reading) : Nat :=
  match r.pending with
  | some (.operand ..) => r.operands.length + 1
  | _ => r.operands.length

/-- The setting that waits for its value. -/
def waiting? (r : Reading) : Option Setting :=
  match r.pending with
  | some (.setting setting none) => if r.literal then none else some setting
  | _ => none

/-- Reads a setting by name, with the value that is written together with it. -/
def nameSetting (r : Reading) (setting : Setting) (attached : Option String) :
    Except Usage Reading :=
  match setting.takesValue, attached with
  | true, none => return { ← r.settle with pending := some (.setting setting none) }
  | true, some value => do (← r.settle).give setting value
  | false, none => do (← r.settle).give setting ""
  | false, some value => .error (.surplusValue value setting.shown)

/-- Reads the name of a notice, which ends the reading. -/
def nameNotice (r : Reading) (notice : Usage) (option : String) (attached : Option String) :
    Except Usage Reading :=
  match attached with
  | some value => .error (.surplusValue value option)
  | none => do
    let _ ← r.settle
    .error notice

/-- Reads a name behind two dashes.  The version is told only in front of the verb. -/
def readLong (r : Reading) (versioned : Bool) (name : String) (attached : Option String) :
    Except Usage Reading :=
  match Setting.ofLong? name with
  | some setting => r.nameSetting setting attached
  | none =>
    if name = "help" then r.nameNotice .help "--help" attached
    else if versioned ∧ name = "version" then r.nameNotice .version "--version" attached
    else .error (.unexpected ("--" ++ name))

/-- Reads letters behind one dash.  What follows the letter of a setting with a value is that value, and
an equals sign may stand between them. -/
def readLetters (r : Reading) (versioned : Bool) : List Char → Except Usage Reading
  | [] => .ok r
  | c :: rest =>
    match Setting.ofLetter? c with
    | some setting =>
      if setting.takesValue then
        match rest with
        | [] => r.nameSetting setting none
        | '=' :: value => r.nameSetting setting (some (String.ofList value))
        | value => r.nameSetting setting (some (String.ofList value))
      else do readLetters (← r.nameSetting setting none) versioned rest
    | none =>
      if c = 'h' then r.nameNotice .help "--help" none
      else if versioned ∧ c = 'V' then r.nameNotice .version "--version" none
      else .error (.unexpected (String.ofList ['-', c]))

/-- Reads a word that starts with a dash and is longer than it. -/
def readDashed (r : Reading) (versioned : Bool) (word : List Char) : Except Usage Reading :=
  match word with
  | ['-', '-'] => .ok { r with literal := true }
  | '-' :: '-' :: rest =>
    let name := String.ofList (rest.takeWhile (· != '='))
    match rest.dropWhile (· != '=') with
    | [] => r.readLong versioned name none
    | _ :: value => r.readLong versioned name (some (String.ofList value))
  | _ => r.readLetters versioned (word.drop 1)

def isDashed (word : String) : Bool :=
  word.toList.head? == some '-' && 1 < word.length

/-- Reads a word behind the verb: settings, the value of one, or the next operand. -/
def readWord (r : Reading) (operands : List Operand) (word : String) : Except Usage Reading :=
  if !r.literal && isDashed word then r.readDashed false word.toList
  else
    match r.waiting? with
    | some setting => .ok { r with pending := some (.setting setting (some word)) }
    | none =>
      match operands[r.operandCount]? with
      | some operand => return { ← r.settle with pending := some (.operand operand word) }
      | none => .error (.unexpected word)

/-- Reads the words behind a verb. -/
def behindVerb (verb : Verb) (words : List String) : Except Usage Invocation := do
  let read ← words.foldlM (fun r word => readWord r verb.operands word) {}
  let settled ← read.settle
  match verb.purpose? settled.operands with
  | some purpose => return { settings := settled.settings, purpose }
  | none => .error .missingOperands

/-- The word that asks for help about the words behind it. -/
def helpWord : String :=
  "help"

/-- Whether a word may stand where a verb is expected. -/
def isVerb (word : String) : Bool :=
  word == helpWord || (Verb.ofWord? word).isSome

/-- Answers a request for help about a verb; there is no help about anything inside a verb. -/
def helpAbout : List String → Usage
  | [] => .help
  | [word] => if isVerb word then .help else .unknownVerb word
  | word :: next :: _ => if isVerb word then .unknownVerb next else .unknownVerb word

def readLine (r : Reading) : List String → Except Usage Invocation
  | [] => do
    let settled ← r.settle
    .error (if settled.settings.isEmpty then .nothingGiven else .missingVerb)
  | word :: rest =>
    if r.literal then .error (if isVerb word then .unexpected word else .unknownVerb word)
    else if isDashed word then do readLine (← r.readDashed true word.toList) rest
    else
      match r.waiting? with
      | some setting => readLine { r with pending := some (.setting setting (some word)) } rest
      | none =>
        match Verb.ofWord? word with
        | some verb => do
          let inner ← behindVerb verb rest
          let outer ← r.settle
          return { inner with settings := outer.settings.overriddenBy inner.settings }
        | none => .error (if word = helpWord then helpAbout rest else .unknownVerb word)

end Reading

def Invocation.ofWords (words : List String) : Except Usage Invocation :=
  Reading.readLine {} words

end CommandLine
end BadgeLink
