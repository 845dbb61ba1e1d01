import BadgeLink.Config
import BadgeLink.Response

/-!
# Log records

What a session tells about itself, as data.  Records of sent and received bytes carry the bytes, so the
log can be compared with the wire; the wording is fixed in one place.
-/

namespace BadgeLink

inductive Level
  | trace
  | debug
  | info
  | warn
  | error
  deriving Repr, DecidableEq

def Level.name : Level → String
  | trace => "TRACE"
  | debug => "DEBUG"
  | info => "INFO"
  | warn => "WARN"
  | error => "ERROR"

/-- The place of a level among all, the more important the higher. -/
def Level.rank : Level → Nat
  | trace => 0
  | debug => 1
  | info => 2
  | warn => 3
  | error => 4

/-- Something worth telling. -/
inductive Record
  | sent (bytes : List UInt8)
  | received (bytes : List UInt8)
  | reported (response : Response)
  | readLength (requested : Nat) (device : UInt8) (got : Nat)
  | missedAck (attempt : Nat) (got expected : List UInt8)
  | gaveUp (attempts : Nat)
  | ready
  | opening (port : String) (baud : Nat)
  | closing (port : String)
  | noPorts
  | loaded (path : String) (config : Config)
  deriving Repr, DecidableEq

namespace Record

def level : Record → Level
  | sent _ | received _ | reported _ | closing _ | loaded .. => .debug
  | readLength .. | noPorts => .warn
  | missedAck .. => .trace
  | gaveUp _ => .error
  | ready | opening .. => .info

def text : Record → String
  | sent bytes => s!"=> {Text.Hex.encode bytes}"
  | received bytes => s!"<= {Text.Hex.encode bytes}"
  | reported response => s!"device reported {response.debug}"
  | readLength requested device got =>
    s!"i2c_read: requested {requested} bytes from {Text.Hex.byte device}, got {got}"
  | missedAck attempt got expected =>
    s!"reset attempt {attempt} got [{Text.Hex.encode got}], expected [{Text.Hex.encode expected}]"
  | gaveUp attempts => s!"No response after {attempts} reset attempts"
  | ready => "Badge reset, command interface ready"
  | opening port baud => "Opening serial port: \"" ++ port ++ s!"\" @ {baud} baud"
  | closing port => "Closing serial port: \"" ++ port ++ "\""
  | noPorts => "No serial ports found"
  | loaded path config => s!"Loaded config from {path}: {config.debug}"

/-- A record as a line of the log. -/
def line (record : Record) : String :=
  record.level.name ++ " " ++ record.text

end Record
end BadgeLink
