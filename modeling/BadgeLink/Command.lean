import BadgeLink.Command.Kind
import BadgeLink.Parameter
import BadgeLink.RegisterAddress

/-!
# Commands

A command is one of the kinds of the catalogue with its parameters.  The functions `of…` make a
command from what a caller asks for and refuse what the device cannot do; a command can also be written
down directly, with fields of any size, and then only its encoding can fail.
-/

namespace BadgeLink

/-- What a device can be asked to do. -/
inductive Command
  | reset
  | uart (data : List UInt8)
  | lcdClear
  | lcdRefresh
  | lcdPixel (x y : UInt8) (color : Color)
  | lcdText (row col : UInt8) (text : String)
  | ledSet (led : Led) (on : Bool)
  | ledBlink (led : Led) (period : UInt8)
  | buttons
  | i2cClock (khz : UInt16)
  | i2cRead (device : UInt8) (register : List UInt8) (length : UInt8)
  | i2cWrite (device : UInt8) (register data : List UInt8)
  | spiConfig (khz : UInt16) (mode : SpiMode)
  | spiTransfer (data : List UInt8)
  deriving Repr, DecidableEq

namespace Command

/-- The largest value of a length byte. -/
def maxField : Nat :=
  255

def kind : Command → Kind
  | reset => .reset
  | uart .. => .uart
  | lcdClear => .lcdClear
  | lcdRefresh => .lcdRefresh
  | lcdPixel .. => .lcdPixel
  | lcdText .. => .lcdText
  | ledSet .. => .ledSet
  | ledBlink .. => .ledBlink
  | buttons => .buttons
  | i2cClock .. => .i2cClock
  | i2cRead .. => .i2cRead
  | i2cWrite .. => .i2cWrite
  | spiConfig .. => .spiConfig
  | spiTransfer .. => .spiTransfer

def isAscii (text : String) : Bool :=
  text.toList.all fun c => c.toNat < 128

/-- Draws a text that is ASCII and short enough for its length byte. -/
def ofText (row col : UInt8) (text : String) : Except Error Command :=
  if !isAscii text then .error (.argument .textNotAscii)
  else if maxField < (Text.utf8 text).length then
    .error (.argument (.textLength (Text.utf8 text).length))
  else .ok (.lcdText row col text)

/-- Sets the I2C clock to a frequency from 1 to 400 kHz. -/
def ofI2cClock (khz : Nat) : Except Error Command :=
  if 1 ≤ khz ∧ khz ≤ 400 then .ok (.i2cClock khz.toUInt16) else .error (.argument (.i2cClock khz))

/-- Reads up to 255 bytes from a register of an I2C device. -/
def ofI2cRead (device : UInt8) (register : RegisterAddress) (length : Nat) :
    Except Error Command := do
  let address ← register.toBytes
  if length ≤ maxField then .ok (.i2cRead device address length.toUInt8)
  else .error (.argument (.readLength length))

/-- Writes up to 255 bytes to a register of an I2C device. -/
def ofI2cWrite (device : UInt8) (register : RegisterAddress) (data : List UInt8) :
    Except Error Command := do
  let address ← register.toBytes
  if data.length ≤ maxField then .ok (.i2cWrite device address data)
  else .error (.argument (.writeLength data.length))

/-- Sets the SPI clock to a frequency from 1 to 60000 kHz, and its mode. -/
def ofSpiConfig (khz : Nat) (mode : SpiMode) : Except Error Command :=
  if 1 ≤ khz ∧ khz ≤ 60000 then .ok (.spiConfig khz.toUInt16 mode)
  else .error (.argument (.spiClock khz))

/-- Exchanges up to 255 bytes over SPI. -/
def ofSpiTransfer (data : List UInt8) : Except Error Command :=
  if data.length ≤ maxField then .ok (.spiTransfer data)
  else .error (.argument (.spiLength data.length))

end Command
end BadgeLink
