import BadgeLink.Decimal.Reading

/-!
# Binary floating point with 53 significant bits

The finite magnitudes of the 64-bit format, as exact numbers `significand · 2 ^ exponent`.  A decimal
fraction is rounded to the nearest of them, an exact tie going to the even significand.
-/

namespace BadgeLink
namespace Decimal

/-- A finite magnitude: the significand fills 53 bits unless the exponent is the least one. -/
structure Binary64 where
  significand : Nat
  exponent : Int
  deriving Repr, DecidableEq

namespace Binary64

/-- The exponent of the smallest step. -/
def leastExponent : Int :=
  -1074

/-- The exponent of the largest step. -/
def greatestExponent : Int :=
  971

/-- The least significand that fills 53 bits. -/
def leastFull : Nat :=
  Nat.pow 2 52

/-- Numerator and denominator of `n · b ^ e`. -/
def scaled (n b : Nat) (e : Int) : Nat × Nat :=
  if 0 ≤ e then (n * Nat.pow b e.toNat, 1) else (n, Nat.pow b (-e).toNat)

/-- The greatest `e` with `2 ^ e ≤ num / den`, for positive `num` and `den`. -/
def floorLog2 (num den : Nat) : Int :=
  let guess : Int := (num.log2 : Int) - den.log2
  let (power, unit) := scaled 1 2 guess
  if power * den ≤ num * unit then guess else guess - 1

/-- The whole number nearest to `num / den`, a tie going to the even one. -/
def roundToEven (num den : Nat) : Nat :=
  let below := num / den
  let rest := num % den
  if 2 * rest < den ∨ (2 * rest = den ∧ below % 2 = 0) then below else below + 1

/-- The finite magnitude nearest to `num / den`, if the result stays finite. -/
def nearest? (num den : Nat) : Option Binary64 :=
  if num = 0 then some ⟨0, leastExponent⟩
  else
    let step := max leastExponent (floorLog2 num den - 52)
    let (power, unit) := scaled 1 2 step
    let significand := roundToEven (num * unit) (den * power)
    let value : Binary64 :=
      if significand = 2 * leastFull then ⟨leastFull, step + 1⟩ else ⟨significand, step⟩
    if value.exponent ≤ greatestExponent then some value else none

/-- The number of decimal digits of a value, none for zero. -/
def digitCount (n : Nat) : Nat :=
  if n = 0 then 0 else (Nat.toDigits 10 n).length

/-- Rounds a decimal fraction.  Above `10 ^ 310` nothing is finite and below `10 ^ -330` everything
rounds to zero, so that powers of ten stay small whatever exponent is written. -/
def ofFraction? (x : Fraction) : Option Binary64 :=
  let position := (digitCount x.units : Int) + x.exponent
  if x.units = 0 ∨ position < -330 then some ⟨0, leastExponent⟩
  else if 310 < position then none
  else
    let (num, den) := scaled x.units 10 x.exponent
    nearest? num den

end Binary64
end Decimal
end BadgeLink
