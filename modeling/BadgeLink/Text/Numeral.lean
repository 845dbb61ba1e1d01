/-!
# Numerals

Whole numbers in a given base, read from left to right.  The first thing that goes wrong decides the
fault: a character that is no digit, or a digit that carries the value past the bound.
-/

namespace BadgeLink
namespace Text
namespace Numeral

/-- Why a text is not a numeral of the wanted type. -/
inductive Fault
  | empty
  | invalidDigit
  | tooLarge
  | tooSmall
  | outOfRange (text : String)
  deriving Repr, DecidableEq

/-- What is told about a fault. -/
def Fault.message : Fault → String
  | .empty => "cannot parse integer from empty string"
  | .invalidDigit => "invalid digit found in string"
  | .tooLarge => "number too large to fit in target type"
  | .tooSmall => "number too small to fit in target type"
  | .outOfRange text => text ++ " is out of range"

/-- The value of a digit in either case, if it is one of the base. -/
def digit? (base : Nat) (c : Char) : Option Nat :=
  let value? :=
    if '0' ≤ c ∧ c ≤ '9' then some (c.toNat - '0'.toNat)
    else if 'a' ≤ c ∧ c ≤ 'z' then some (c.toNat - 'a'.toNat + 10)
    else if 'A' ≤ c ∧ c ≤ 'Z' then some (c.toNat - 'A'.toNat + 10)
    else none
  value?.filter (· < base)

/-- Reads digits after a value already read; `past` is the fault of a value above `limit`. -/
def digitsFrom (base limit : Nat) (past : Fault) (value : Nat) : List Char → Except Fault Nat
  | [] => .ok value
  | c :: rest =>
    match digit? base c with
    | none => .error .invalidDigit
    | some d =>
      if value * base + d ≤ limit then digitsFrom base limit past (value * base + d) rest
      else .error past

/-- Reads a value up to `limit`, with at most one plus sign in front. -/
def natural (base limit : Nat) (text : List Char) : Except Fault Nat :=
  match text with
  | [] => .error .empty
  | ['+'] => .error .invalidDigit
  | '+' :: rest => digitsFrom base limit .tooLarge 0 rest
  | _ => digitsFrom base limit .tooLarge 0 text

/-- Reads a value from `-2 ^ bits` to below `2 ^ bits`, with at most one sign in front. -/
def integer (base bits : Nat) (text : List Char) : Except Fault Int :=
  let bound := Nat.pow 2 bits
  match text with
  | ['-'] => .error .invalidDigit
  | '-' :: rest => (digitsFrom base bound .tooSmall 0 rest).map fun value => -(value : Int)
  | _ => (natural base (bound - 1) text).map Int.ofNat

def largest64 : Nat :=
  Nat.pow 2 64 - 1

/-- Reads an address: hexadecimal after `0x` or `0X`, else decimal; values above `limit` are out of
range, and values above 64 bits are too large for any range. -/
def address (limit : Nat) (text : String) : Except Fault Nat :=
  let value :=
    match text.toList with
    | '0' :: 'x' :: rest => natural 16 largest64 rest
    | '0' :: 'X' :: rest => natural 16 largest64 rest
    | all => natural 10 largest64 all
  value.bind fun v => if v ≤ limit then .ok v else .error (.outOfRange text)

end Numeral
end Text
end BadgeLink
