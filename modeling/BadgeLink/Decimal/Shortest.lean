import BadgeLink.Decimal.Binary64

/-!
# Shortest decimal text of a binary number

A binary magnitude is shown with the fewest significant digits that read back as the same magnitude,
and among those with the digits nearest to it; of two equally near the larger is shown.  The text is
positional, whatever the size, and always has a point.
-/

namespace BadgeLink
namespace Decimal

/-- The number `digits · 10 ^ exponent` for a whole number of digits. -/
structure Shown where
  digits : Nat
  exponent : Int
  deriving Repr, DecidableEq

namespace Binary64

def ratio (x : Binary64) : Nat × Nat :=
  scaled x.significand 2 x.exponent

/-- Four times the distance to the lower end of the numbers that round here, in steps: half a step,
or a quarter where the steps below are half as wide. -/
def quarterStepsBelow (x : Binary64) : Nat :=
  if x.significand = leastFull ∧ leastExponent < x.exponent then 1 else 2

/-- Whether `n · 10 ^ e` rounds to this magnitude; the ends belong to an even significand. -/
def covers (x : Binary64) (n : Nat) (e : Int) : Bool :=
  let (num, den) := scaled n 10 e
  let (power, unit) := scaled 1 2 x.exponent
  let point := 4 * num * unit
  let low := (4 * x.significand - x.quarterStepsBelow) * power * den
  let high := (4 * x.significand + 2) * power * den
  if x.significand % 2 = 0 then low ≤ point && point ≤ high else low < point && point < high

/-- The grid point below this magnitude on the grid of units `10 ^ e`. -/
def gridFloor (x : Binary64) (e : Int) : Nat :=
  let (num, den) := x.ratio
  let (power, unit) := scaled 1 10 e
  (num * unit) / (den * power)

/-- Whether this magnitude lies below the middle of a grid point `n` and its successor. -/
def isNearerBelow (x : Binary64) (n : Nat) (e : Int) : Bool :=
  let (num, den) := x.ratio
  let (power, unit) := scaled 1 10 e
  2 * num * unit < (2 * n + 1) * den * power

/-- The grid point of units `10 ^ e` that rounds to this magnitude, the nearest if there are two. -/
def onGrid? (x : Binary64) (e : Int) : Option Shown :=
  let below := x.gridFloor e
  match x.covers below e, x.covers (below + 1) e with
  | true, true => some ⟨if x.isNearerBelow below e then below else below + 1, e⟩
  | true, false => some ⟨below, e⟩
  | false, true => some ⟨below + 1, e⟩
  | false, false => none

/-- The number of digits before the point of a positive magnitude, negative for leading zeros. -/
def pointPosition (x : Binary64) : Int :=
  let (num, den) := x.ratio
  let guess : Int := (digitCount num : Int) - digitCount den
  let (power, unit) := scaled 1 10 guess
  if power * den ≤ num * unit then guess + 1 else guess

/-- The fewest digits that read back: the first grid, from coarse to fine, with a hit. -/
def shortest (x : Binary64) : Shown :=
  if x.significand = 0 then ⟨0, 0⟩
  else
    let position := x.pointPosition
    let grids := (List.range 17).map fun (n : Nat) => position - 1 - n
    (grids.findSome? x.onGrid?).getD ⟨x.gridFloor (position - 17), position - 17⟩

end Binary64

/-- Drops the zeros that end a run of digits, counting them. -/
def trimZeros (digits : List Char) : List Char × Nat :=
  let trimmed := (digits.reverse.dropWhile (· == '0')).reverse
  (trimmed, digits.length - trimmed.length)

/-- Positional text of a shown number, with at least one digit on both sides of the point. -/
def Shown.positional (x : Shown) : List Char :=
  let (digits, dropped) := trimZeros (Nat.toDigits 10 x.digits)
  let exponent := x.exponent + dropped
  if digits.isEmpty then "0.0".toList
  else if 0 ≤ exponent then digits ++ List.replicate exponent.toNat '0' ++ ".0".toList
  else
    let point := (digits.length : Int) + exponent
    if 0 < point then digits.take point.toNat ++ ['.'] ++ digits.drop point.toNat
    else "0.".toList ++ List.replicate (-point).toNat '0' ++ digits

end Decimal
end BadgeLink
