import BadgeLink.Text.Hex

/-!
# What can go wrong with a badge

Every fault is a value that says what happened: which argument was out of range, which part of a
frame was missing, or what the byte link reported.  The wording of all of them is in this module.
-/

namespace BadgeLink

/-- A value that the device cannot accept, noticed before anything is sent. -/
inductive ArgumentFault
  | led (number : UInt8)
  | color (number : UInt8)
  | spiMode (number : Int)
  | addressLength (length : Nat)
  | textNotAscii
  | textLength (length : Nat)
  | i2cClock (khz : Nat)
  | readLength (length : Nat)
  | writeLength (length : Nat)
  | spiClock (khz : Nat)
  | spiLength (length : Nat)
  | fieldLength (length : Nat)
  | bodyLength (length : Nat)
  deriving Repr, DecidableEq

/-- A response that cannot be taken apart. -/
inductive FrameFault
  | missingChecksum
  | missingStatus
  | emptyButtons
  deriving Repr, DecidableEq

/-- What a byte link reports when a request to it fails. -/
inductive LinkFault
  | io (message : String)
  | serial (message : String)
  deriving Repr, DecidableEq

/-- Why an operation on a badge has no result. -/
inductive Error
  | argument (cause : ArgumentFault)
  | checksum (expected received : UInt8)
  | refused (status : UInt8) (payload : List UInt8)
  | timeout (expected received : Nat)
  | noReset (attempts : Nat)
  | frame (cause : FrameFault)
  | link (cause : LinkFault)
  deriving Repr, DecidableEq

def ArgumentFault.message : ArgumentFault → String
  | .led n => s!"invalid LED number {n}, expected LED1 (0) or LED2 (1)"
  | .color n => s!"invalid color {n}, expected BLACK (0) or WHITE (1)"
  | .spiMode n => s!"SPI mode must be in range [0-3], got {n}"
  | .addressLength n => s!"I2C register address cannot be longer than 4 bytes (got {n})"
  | .textNotAscii => "LCD text must be ASCII"
  | .textLength n => s!"LCD text length must be in range [0-255], got {n}"
  | .i2cClock khz => s!"I2C clock must be in range [1-400] kHz, got {khz}"
  | .readLength n => s!"Requested data length must be in range [0-255], got {n}"
  | .writeLength n => s!"Written data length must be in range [0-255], got {n}"
  | .spiClock khz => s!"SPI clock must be in range [1-60000] kHz, got {khz}"
  | .spiLength n => s!"SPI data length must be in range [0-255], got {n}"
  | .fieldLength n => s!"field of {n} bytes exceeds 255"
  | .bodyLength n => s!"frame body is {n} bytes, at most 255 fit the length byte"

def FrameFault.message : FrameFault → String
  | .missingChecksum => "missing checksum"
  | .missingStatus => "missing status byte"
  | .emptyButtons => "empty buttons response"

/-- What the link itself said. -/
def LinkFault.detail : LinkFault → String
  | .io message => message
  | .serial message => message

def LinkFault.message : LinkFault → String
  | .io message => "I/O error: " ++ message
  | .serial message => "Serial port error: " ++ message

def Error.message : Error → String
  | .argument cause => "Invalid argument: " ++ cause.message
  | .checksum expected received =>
    s!"CRC error (expected {Text.Hex.byte expected}, got {Text.Hex.byte received})"
  | .refused status payload =>
    "Response != OK: response = " ++ Text.Hex.byte status ++ ", data = \"" ++
      Text.Hex.encode payload ++ "\""
  | .timeout expected received => s!"Timeout: expected {expected} bytes, received {received}"
  | .noReset attempts => s!"No response after reset ({attempts} attempts)"
  | .frame cause => "Invalid response frame: " ++ cause.message
  | .link cause => cause.message

/-- The wording of an error followed by that of what caused it. -/
def Error.chain (e : Error) : List String :=
  match e with
  | .link cause => [e.message, cause.detail]
  | _ => [e.message]

end BadgeLink
