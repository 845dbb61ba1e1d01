/-!
# Decimal fractions

A decimal fraction is written with digits, at most one point among them and an optional exponent of
ten.  Its value is kept exactly, as a whole number of units of a power of ten.
-/

namespace BadgeLink
namespace Decimal

/-- The number `units · 10 ^ exponent`. -/
structure Fraction where
  units : Nat
  exponent : Int
  deriving Repr, DecidableEq

/-- The value of a run of decimal digits. -/
def valueOf (digits : List Char) : Nat :=
  digits.foldl (fun value c => 10 * value + (c.toNat - '0'.toNat)) 0

/-- A non-empty run of digits to the end of the text. -/
def wholeNumber? (text : List Char) : Option Nat :=
  if text.isEmpty || !text.all Char.isDigit then none else some (valueOf text)

/-- What follows the digits: nothing, or a marker and a power of ten with an optional sign. -/
def exponent? : List Char → Option Int
  | [] => some 0
  | marker :: rest =>
    if marker = 'e' ∨ marker = 'E' then
      match rest with
      | '-' :: digits => (wholeNumber? digits).map fun n => -(n : Int)
      | '+' :: digits => (wholeNumber? digits).map Int.ofNat
      | digits => (wholeNumber? digits).map Int.ofNat
    else none

/-- Reads an unsigned decimal fraction; there must be a digit on one side of the point. -/
def Fraction.read? (text : List Char) : Option Fraction :=
  let whole := text.takeWhile Char.isDigit
  let after := text.dropWhile Char.isDigit
  let (places, rest) :=
    match after with
    | '.' :: tail => (tail.takeWhile Char.isDigit, tail.dropWhile Char.isDigit)
    | _ => ([], after)
  if whole.isEmpty && places.isEmpty then none
  else (exponent? rest).map fun e => ⟨valueOf (whole ++ places), e - places.length⟩

end Decimal
end BadgeLink
