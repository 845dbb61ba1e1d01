import BadgeLink.Text.Numeral

/-!
# Operands

An operand of a command has a name and a form.  Its text is read by the form, and what is wrong with it is
told in the words of the form.
-/

namespace BadgeLink
namespace CommandLine

/-- The forms of operands: whole numbers below a limit or between two ends, natural numbers of 64 bits,
addresses, words for on and off, and any text. -/
inductive Form
  | below (limit : Nat)
  | within (least greatest : Int)
  | natural
  | address (limit : Nat)
  | onOff
  | text
  deriving Repr, DecidableEq

/-- What an operand was read as. -/
inductive Value
  | number (value : Int)
  | onOff (value : Bool)
  | text (value : String)
  deriving Repr, DecidableEq

/-- Why the text of an operand has not its form. -/
inductive ValueFault
  | numeral (cause : Text.Numeral.Fault)
  | outside (value : Int) (form : Form)
  | notOnOff
  deriving Repr, DecidableEq

namespace Form

/-- The numbers of a form, in the words of a message. -/
def bounds : Form → String
  | below limit => s!"0..{limit}"
  | within least greatest => s!"{least}..={greatest}"
  | _ => ""

def onWords : List String :=
  ["y", "yes", "t", "true", "on", "1"]

def offWords : List String :=
  ["n", "no", "f", "false", "off", "0"]

/-- Reads a word for on or off, in any case. -/
def readOnOff (word : String) : Except ValueFault Value :=
  if onWords.contains word.toLower then .ok (.onOff true)
  else if offWords.contains word.toLower then .ok (.onOff false)
  else .error .notOnOff

/-- Reads a whole number that has to be in some set. -/
def readNumber (form : Form) (allowed : Int → Bool) (word : String) : Except ValueFault Value :=
  match Text.Numeral.integer 10 63 word.toList with
  | .error cause => .error (.numeral cause)
  | .ok value => if allowed value then .ok (.number value) else .error (.outside value form)

/-- A natural number that was read. -/
def ofNatural (outcome : Except Text.Numeral.Fault Nat) : Except ValueFault Value :=
  match outcome with
  | .error cause => .error (.numeral cause)
  | .ok value => .ok (.number value)

def read (form : Form) (word : String) : Except ValueFault Value :=
  match form with
  | below limit => readNumber form (fun n => 0 ≤ n && n < limit) word
  | within least greatest => readNumber form (fun n => least ≤ n && n ≤ greatest) word
  | natural => ofNatural (Text.Numeral.natural 10 Text.Numeral.largest64 word.toList)
  | address limit => ofNatural (Text.Numeral.address limit word)
  | onOff => readOnOff word
  | text => .ok (.text word)

end Form

def ValueFault.message : ValueFault → String
  | numeral cause => cause.message
  | outside value form => s!"{value} is not in {form.bounds}"
  | notOnOff => "value was not a boolean"

/-- An operand of a command. -/
structure Operand where
  name : String
  form : Form
  optional : Bool := false
  deriving Repr, DecidableEq

def Operand.shown (o : Operand) : String :=
  if o.optional then s!"[{o.name}]" else s!"<{o.name}>"

end CommandLine
end BadgeLink
