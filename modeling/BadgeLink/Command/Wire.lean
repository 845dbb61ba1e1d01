import BadgeLink.Command
import BadgeLink.Frame

/-!
# Commands on the wire

A reset is one bare byte.  Every other command is a frame whose body is the type byte of its group, its
opcode if it has one, and its parameters.  A parameter of varying size follows a length byte of its own,
and a frequency takes two bytes, the high one first.  Nothing is ever cut off: a field or a body too
long for its length byte is refused.
-/

namespace BadgeLink
namespace Command

/-- The byte that asks for a reset. -/
def resetByte : UInt8 :=
  Kind.reset.group

/-- A field behind its length byte. -/
def counted (field : List UInt8) : Except Error (List UInt8) :=
  if maxField < field.length then .error (.argument (.fieldLength field.length))
  else .ok (field.length.toUInt8 :: field)

/-- The two bytes of a frequency, the high one first. -/
def bigEndian (khz : UInt16) : List UInt8 :=
  [(khz >>> 8).toUInt8, khz.toUInt8]

def parameters : Command → Except Error (List UInt8)
  | reset | lcdClear | lcdRefresh | buttons => .ok []
  | uart data => .ok data
  | lcdPixel x y color => .ok [x, y, color.number]
  | lcdText row col text => (counted (Text.utf8 text)).map fun field => row :: col :: field
  | ledSet led on => .ok [led.number, if on then 1 else 0]
  | ledBlink led period => .ok [led.number, period]
  | i2cClock khz => .ok (bigEndian khz)
  | i2cRead device register length =>
    (counted register).map fun field => device :: field ++ [length]
  | i2cWrite device register data => do
    let address ← counted register
    let written ← counted data
    return device :: address ++ written
  | spiConfig khz mode => .ok (bigEndian khz ++ [mode.number])
  | spiTransfer data => counted data

/-- What follows the type byte: the opcode, if any, and the parameters. -/
def data (command : Command) : Except Error (List UInt8) :=
  command.parameters.map fun bytes => command.kind.opcode.toList ++ bytes

/-- The bytes that are sent for a command. -/
def toWire (command : Command) : Except Error (List UInt8) :=
  match command with
  | reset => .ok [resetByte]
  | _ => command.data.bind fun bytes => Frame.encode command.kind.group bytes

end Command
end BadgeLink
