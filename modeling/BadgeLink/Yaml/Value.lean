import BadgeLink.Decimal.Shortest
import BadgeLink.Text.Numeral
import BadgeLink.Text.Quoted

/-!
# Values of scalars

A quoted scalar is a text.  A plain scalar may also be null, a boolean, a whole number or a decimal
fraction, and the rules are tried in that order.  Whole numbers with more digits than they need, such as
`007`, are texts, and so is everything that no rule accepts.
-/

namespace BadgeLink
namespace Yaml

open Text (Numeral.natural Numeral.integer)

/-- What a scalar stands for.  Whole numbers are told apart by the smallest word that holds them; a number
with a minus sign is never a natural one, even if it is zero. -/
inductive Value
  | null
  | boolean (value : Bool)
  | natural (value : Nat)
  | integer (value : Int)
  | longNatural (value : Nat)
  | longInteger (value : Int)
  | fraction (negative : Bool) (magnitude : Decimal.Binary64)
  | infinity (negative : Bool)
  | notANumber
  | text (value : String)
  deriving Repr, DecidableEq

def isNull (text : String) : Bool :=
  ["null", "Null", "NULL", "~"].contains text

def boolean? (text : String) : Option Bool :=
  if ["true", "True", "TRUE"].contains text then some true
  else if ["false", "False", "FALSE"].contains text then some false
  else none

def startsWithSign : List Char → Bool
  | c :: _ => c == '+' || c == '-'
  | [] => false

/-- A text without the plus sign that may stand in front of it. -/
def withoutPlus : List Char → List Char
  | '+' :: rest => rest
  | text => text

/-- Whether a text is a zero followed by more digits, after a sign or none. -/
def hasIdleZero (text : List Char) : Bool :=
  match if startsWithSign text then text.drop 1 else text with
  | '0' :: c :: rest => (c :: rest).all Char.isDigit
  | _ => false

/-- The natural number that a text spells, if it is at most `limit`. -/
def natural? (limit : Nat) (text : List Char) : Option Nat :=
  let based := fun (base : Nat) (digits : List Char) =>
    if startsWithSign digits then none else (Numeral.natural base limit digits).toOption
  match withoutPlus text with
  | '0' :: 'x' :: digits => based 16 digits
  | '0' :: 'o' :: digits => based 8 digits
  | '0' :: 'b' :: digits => based 2 digits
  | digits => if hasIdleZero text then none else based 10 digits

/-- The whole number that a text spells, if it fits a word with a sign and `bits` bits more. -/
def integer? (bits : Nat) (text : List Char) : Option Int :=
  let based := fun (base : Nat) (digits : List Char) =>
    (Numeral.integer base bits ('-' :: digits)).toOption
  match text with
  | '-' :: '0' :: 'x' :: digits => based 16 digits
  | '-' :: '0' :: 'o' :: digits => based 8 digits
  | '-' :: '0' :: 'b' :: digits => based 2 digits
  | digits => if hasIdleZero text then none else (Numeral.integer 10 bits digits).toOption

/-- The decimal fraction that a text spells, rounded to a finite magnitude. -/
def finite? (text : List Char) : Option Value := do
  let negative := text.head? == some '-'
  let fraction ← Decimal.Fraction.read? (if negative then text.drop 1 else text)
  return .fraction negative (← Decimal.Binary64.ofFraction? fraction)

/-- The fraction, infinity or non-number that a text spells. -/
def fraction? (text : String) : Option Value :=
  let chars := text.toList
  let unsigned := withoutPlus chars
  if hasIdleZero chars || chars.head? == some '+' && startsWithSign unsigned then none
  else if [".inf", ".Inf", ".INF"].contains (String.ofList unsigned) then some (.infinity false)
  else if ["-.inf", "-.Inf", "-.INF"].contains text then some (.infinity true)
  else if [".nan", ".NaN", ".NAN"].contains text then some .notANumber
  else finite? unsigned

/-- The whole number that a text spells, in the smallest word that holds it. -/
def whole? (text : List Char) : Option Value :=
  ((natural? (Nat.pow 2 64 - 1) text).map .natural).or <|
    ((integer? 63 text).map .integer).or <|
      ((natural? (Nat.pow 2 128 - 1) text).map .longNatural).or <|
        (integer? 127 text).map .longInteger

namespace Value

/-- What a scalar stands for. -/
def ofScalar (plain : Bool) (text : String) : Value :=
  if !plain then .text text
  else if text.isEmpty || isNull text then .null
  else
    (((boolean? text).map .boolean).or ((whole? text.toList).or (fraction? text))).getD (.text text)

/-- A value in the words of a message about it. -/
def described : Value → String
  | .null => "unit value"
  | .boolean value => s!"boolean `{value}`"
  | .natural value => s!"integer `{value}`"
  | .integer value => s!"integer `{value}`"
  | .longNatural value => s!"integer `{value}` as u128"
  | .longInteger value => s!"integer `{value}` as i128"
  | .fraction negative magnitude =>
    let sign := if negative then "-" else ""
    s!"floating point `{sign}" ++ String.ofList magnitude.shortest.positional ++ "`"
  | .infinity negative => if negative then "floating point `-inf`" else "floating point `inf`"
  | .notANumber => "floating point `NaN`"
  | .text value => "string " ++ Text.quoted value

end Value
end Yaml
end BadgeLink
