import BadgeLink.Badge
import BadgeLink.CommandLine.Operand

/-!
# Verbs and jobs

The first word of a command line that is no setting is a verb; it says what to do and which operands
follow.  A verb with its operands is a job.  The bounds of the operands are those of the display where a
place on it is named, and otherwise those of the numbers a command can carry; what else a device refuses
shows only when the job is done.
-/

namespace BadgeLink
namespace CommandLine

inductive Verb
  | ports
  | reset
  | uart
  | lcdClear
  | lcdRefresh
  | lcdPixel
  | lcdText
  | led
  | ledBlink
  | buttons
  | i2cClock
  | i2cRead
  | i2cWrite
  | spiConfig
  | spiTransfer
  deriving Repr, DecidableEq

namespace Verb

def all : List Verb :=
  [ports, reset, uart, lcdClear, lcdRefresh, lcdPixel, lcdText, led, ledBlink, buttons, i2cClock,
    i2cRead, i2cWrite, spiConfig, spiTransfer]

def word : Verb → String
  | ports => "ports"
  | reset => "reset"
  | uart => "uart"
  | lcdClear => "lcd-clear"
  | lcdRefresh => "lcd-refresh"
  | lcdPixel => "lcd-pixel"
  | lcdText => "lcd-text"
  | led => "led"
  | ledBlink => "led-blink"
  | buttons => "buttons"
  | i2cClock => "i2c-clock"
  | i2cRead => "i2c-read"
  | i2cWrite => "i2c-write"
  | spiConfig => "spi-config"
  | spiTransfer => "spi-transfer"

def ofWord? (text : String) : Option Verb :=
  all.find? fun verb => verb.word == text

/-- A word belongs to one verb only. -/
theorem ofWord?_word (verb : Verb) : ofWord? verb.word = some verb := by
  cases verb <;> decide

def anyByte : Form :=
  .within 0 255

/-- Any word of 32 bits without a sign. -/
def anyWord : Form :=
  .within 0 4294967295

def anySignedWord : Form :=
  .within (-2147483648) 2147483647

/-- The operands of a verb in their order; only the last one may be optional. -/
def operands : Verb → List Operand
  | ports | reset | lcdClear | lcdRefresh | buttons => []
  | uart | spiTransfer => [⟨"DATA", .text, false⟩]
  | lcdPixel =>
    [⟨"X", .below Lcd.width, false⟩, ⟨"Y", .below Lcd.height, false⟩, ⟨"COLOR", anyByte, true⟩]
  | lcdText =>
    [⟨"ROW", .below Lcd.textRows, false⟩, ⟨"COL", anyByte, false⟩, ⟨"TEXT", .text, false⟩]
  | led => [⟨"LED", anyByte, false⟩, ⟨"ON", .onOff, false⟩]
  | ledBlink => [⟨"LED", anyByte, false⟩, ⟨"PERIOD", anyByte, false⟩]
  | i2cClock => [⟨"KHZ", anyWord, false⟩]
  | i2cRead =>
    [⟨"DEV_ADDR", .address 255, false⟩, ⟨"REG_ADDR", .address Text.Numeral.largest64, false⟩,
      ⟨"LEN", .natural, false⟩]
  | i2cWrite =>
    [⟨"DEV_ADDR", .address 255, false⟩, ⟨"REG_ADDR", .address Text.Numeral.largest64, false⟩,
      ⟨"DATA", .text, false⟩]
  | spiConfig => [⟨"KHZ", anyWord, false⟩, ⟨"MODE", anySignedWord, false⟩]

end Verb

/-- What is to be done with a badge.  Data are kept as they were written, and choices as numbers: both
are looked at once the badge is there. -/
inductive Job
  | reset
  | uart (data : String)
  | lcdClear
  | lcdRefresh
  | lcdPixel (x y color : UInt8)
  | lcdText (row col : UInt8) (text : String)
  | led (led : UInt8) (on : Bool)
  | ledBlink (led period : UInt8)
  | buttons
  | i2cClock (khz : Nat)
  | i2cRead (device : UInt8) (register : UInt64) (length : Nat)
  | i2cWrite (device : UInt8) (register : UInt64) (data : String)
  | spiConfig (khz : Nat) (mode : Int)
  | spiTransfer (data : String)
  deriving Repr, DecidableEq

/-- What a command line asks for. -/
inductive Purpose
  | listPorts
  | work (job : Job)
  deriving Repr, DecidableEq

/-- The colour of a pixel that names none: white. -/
def defaultColor : UInt8 :=
  Color.white.number

/-- The purpose of a verb with its operands, if none of them is missing. -/
def Verb.purpose? (verb : Verb) (operands : List Value) : Option Purpose :=
  let byte := fun (n : Int) => n.toNat.toUInt8
  match verb, operands with
  | .ports, _ => some .listPorts
  | .reset, _ => some (.work .reset)
  | .uart, [.text data] => some (.work (.uart data))
  | .lcdClear, _ => some (.work .lcdClear)
  | .lcdRefresh, _ => some (.work .lcdRefresh)
  | .lcdPixel, [.number x, .number y] => some (.work (.lcdPixel (byte x) (byte y) defaultColor))
  | .lcdPixel, [.number x, .number y, .number color] =>
    some (.work (.lcdPixel (byte x) (byte y) (byte color)))
  | .lcdText, [.number row, .number col, .text text] =>
    some (.work (.lcdText (byte row) (byte col) text))
  | .led, [.number n, .onOff on] => some (.work (.led (byte n) on))
  | .ledBlink, [.number n, .number period] => some (.work (.ledBlink (byte n) (byte period)))
  | .buttons, _ => some (.work .buttons)
  | .i2cClock, [.number khz] => some (.work (.i2cClock khz.toNat))
  | .i2cRead, [.number device, .number register, .number length] =>
    some (.work (.i2cRead (byte device) register.toNat.toUInt64 length.toNat))
  | .i2cWrite, [.number device, .number register, .text data] =>
    some (.work (.i2cWrite (byte device) register.toNat.toUInt64 data))
  | .spiConfig, [.number khz, .number mode] => some (.work (.spiConfig khz.toNat mode))
  | .spiTransfer, [.text data] => some (.work (.spiTransfer data))
  | _, _ => none

end CommandLine
end BadgeLink
