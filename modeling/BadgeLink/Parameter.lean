import BadgeLink.Error

/-!
# Parameters of commands

The small closed choices a command can carry.  Each is read from a number and travels as that number.
The measures of the display bound the places a command can name.
-/

namespace BadgeLink

/-- One of the two user LEDs. -/
inductive Led
  | led1
  | led2
  deriving Repr, DecidableEq

namespace Led

def number : Led → UInt8
  | led1 => 0
  | led2 => 1

def ofNumber (n : UInt8) : Except Error Led :=
  match n with
  | 0 => .ok led1
  | 1 => .ok led2
  | _ => .error (.argument (.led n))

/-- The number of an LED names it. -/
theorem ofNumber_number (led : Led) : ofNumber led.number = .ok led := by
  cases led <;> rfl

end Led

/-- The colour of a display pixel. -/
inductive Color
  | black
  | white
  deriving Repr, DecidableEq, Inhabited

namespace Color

def number : Color → UInt8
  | black => 0
  | white => 1

def ofNumber (n : UInt8) : Except Error Color :=
  match n with
  | 0 => .ok black
  | 1 => .ok white
  | _ => .error (.argument (.color n))

theorem ofNumber_number (color : Color) : ofNumber color.number = .ok color := by
  cases color <;> rfl

end Color

/-- Polarity and phase of the SPI clock: the clock idles low in the first two modes and high in the
others, and the outer two capture on the rising edge. -/
inductive SpiMode
  | mode0
  | mode1
  | mode2
  | mode3
  deriving Repr, DecidableEq, Inhabited

namespace SpiMode

def number : SpiMode → UInt8
  | mode0 => 0
  | mode1 => 1
  | mode2 => 2
  | mode3 => 3

def ofNumber (n : Int) : Except Error SpiMode :=
  if n = 0 then .ok mode0
  else if n = 1 then .ok mode1
  else if n = 2 then .ok mode2
  else if n = 3 then .ok mode3
  else .error (.argument (.spiMode n))

theorem ofNumber_number (mode : SpiMode) : ofNumber mode.number.toNat = .ok mode := by
  cases mode <;> rfl

end SpiMode

namespace Lcd

def width : Nat :=
  128

def height : Nat :=
  64

/-- The number of rows of text on the display. -/
def textRows : Nat :=
  8

/-- Rows of text fill the display, each eight pixels high. -/
theorem textRows_mul_eight : textRows * 8 = height := by
  decide

end Lcd

end BadgeLink
