/-!
# Kinds of commands

The catalogue of what a device can be asked for.  A type byte selects a group of peripherals, and an
opcode selects the command inside a group that has several.
-/

namespace BadgeLink
namespace Command

/-- What a command is about, without its parameters. -/
inductive Kind
  | reset
  | uart
  | lcdClear
  | lcdRefresh
  | lcdPixel
  | lcdText
  | ledSet
  | ledBlink
  | buttons
  | i2cClock
  | i2cRead
  | i2cWrite
  | spiConfig
  | spiTransfer
  deriving Repr, DecidableEq

namespace Kind

/-- The whole catalogue in its order. -/
def all : List Kind :=
  [reset, uart, lcdClear, lcdRefresh, lcdPixel, lcdText, ledSet, ledBlink, buttons, i2cClock, i2cRead,
    i2cWrite, spiConfig, spiTransfer]

/-- The place of a kind in the catalogue. -/
def rank (kind : Kind) : Nat :=
  all.idxOf kind

def name : Kind → String
  | reset => "Reset"
  | uart => "Uart"
  | lcdClear => "LcdClear"
  | lcdRefresh => "LcdRefresh"
  | lcdPixel => "LcdPixel"
  | lcdText => "LcdText"
  | ledSet => "LedSet"
  | ledBlink => "LedBlink"
  | buttons => "Buttons"
  | i2cClock => "I2cClock"
  | i2cRead => "I2cRead"
  | i2cWrite => "I2cWrite"
  | spiConfig => "SpiConfig"
  | spiTransfer => "SpiTransfer"

/-- The type byte of a kind's group. -/
def group : Kind → UInt8
  | reset => 0x00
  | uart => 0x01
  | lcdClear | lcdRefresh | lcdPixel | lcdText => 0x02
  | ledSet | ledBlink => 0x03
  | buttons => 0x04
  | i2cClock | i2cRead | i2cWrite => 0x05
  | spiConfig | spiTransfer => 0x06

/-- The opcode inside the group, for groups that need one. -/
def opcode : Kind → Option UInt8
  | reset | uart | buttons => none
  | lcdClear => some 0x00
  | lcdRefresh => some 0x01
  | lcdPixel => some 0x02
  | lcdText => some 0x03
  | ledSet => some 0x00
  | ledBlink => some 0x01
  | i2cClock => some 0x00
  | i2cRead => some 0x01
  | i2cWrite => some 0x02
  | spiConfig => some 0x00
  | spiTransfer => some 0x01

theorem mem_all (kind : Kind) : kind ∈ all := by
  cases kind <;> decide

/-- The catalogue is ordered by rank. -/
theorem all_pairwise_rank : all.Pairwise fun a b => a.rank < b.rank := by
  decide

end Kind
end Command
end BadgeLink
