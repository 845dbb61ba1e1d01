import BadgeLink.Buttons
import BadgeLink.Handshake

/-!
# Badge sessions

A session holds the settings that every operation on a badge uses.  An operation is a handshake or a
request; a request is checked, sent as one command and answered by one response.
-/

namespace BadgeLink

/-- What can be requested from a badge in command mode. -/
inductive Request
  | uart (data : List UInt8)
  | lcdClear
  | lcdRefresh
  | lcdPixel (x y : UInt8) (color : Color)
  | lcdText (row col : UInt8) (text : String)
  | ledSet (led : Led) (on : Bool)
  | ledBlink (led : Led) (period : UInt8)
  | buttons
  | i2cClock (khz : Nat)
  | i2cRead (device : UInt8) (register : RegisterAddress) (length : Nat)
  | i2cWrite (device : UInt8) (register : RegisterAddress) (data : List UInt8)
  | spiConfig (khz : Nat) (mode : SpiMode)
  | spiTransfer (data : List UInt8)
  deriving Repr, DecidableEq

inductive Reply
  | done
  | bytes (data : List UInt8)
  | buttons (state : Buttons)
  deriving Repr, DecidableEq

namespace Request

/-- The command that is sent for a request, if its arguments can be accepted. -/
def command : Request → Except Error Command
  | uart data => .ok (.uart data)
  | lcdClear => .ok .lcdClear
  | lcdRefresh => .ok .lcdRefresh
  | lcdPixel x y color => .ok (.lcdPixel x y color)
  | lcdText row col text => Command.ofText row col text
  | ledSet led on => .ok (.ledSet led on)
  | ledBlink led period => .ok (.ledBlink led period)
  | buttons => .ok .buttons
  | i2cClock khz => Command.ofI2cClock khz
  | i2cRead device register length => Command.ofI2cRead device register length
  | i2cWrite device register data => Command.ofI2cWrite device register data
  | spiConfig khz mode => Command.ofSpiConfig khz mode
  | spiTransfer data => Command.ofSpiTransfer data

/-- What a payload means as the answer to a request. -/
def reply (request : Request) (payload : List UInt8) : Except Error Reply :=
  match request with
  | uart _ | i2cRead .. | spiTransfer _ => .ok (.bytes payload)
  | buttons =>
    match payload with
    | mask :: _ => .ok (.buttons ⟨mask⟩)
    | [] => .error (.frame .emptyButtons)
  | _ => .ok .done

/-- What is worth telling about a payload: that a read has not the length asked for. -/
def remark (request : Request) (payload : List UInt8) : Option Record :=
  match request with
  | i2cRead device _ length =>
    if payload.length = length then none else some (.readLength length device payload.length)
  | _ => none

end Request

/-- The settings of a session with one badge. -/
structure Badge where
  timeout : Nat := defaultTimeout
  resetInterval : Nat := defaultResetInterval
  deriving Repr, DecidableEq, Inhabited

/-- What can be done with a badge. -/
inductive Operation
  | init
  | request (request : Request)
  deriving Repr, DecidableEq

namespace Badge

/-- Brings the badge to a known state. -/
def init (badge : Badge) : Exchange Unit := do
  ExceptT.mk do
    let (outcome, _) ← Handshake.run { interval := badge.resetInterval } badge.timeout
    return outcome
  Exchange.note .ready

/-- Sends a request and reads its reply. -/
def ask (badge : Badge) (request : Request) : Exchange Reply := do
  let command ← Exchange.ofExcept request.command
  let payload ← Exchange.transfer command badge.timeout
  if let some record := request.remark payload then Exchange.note record
  Exchange.ofExcept (request.reply payload)

def perform (badge : Badge) : Operation → Exchange Reply
  | .init => do
    badge.init
    return .done
  | .request request => badge.ask request

end Badge
end BadgeLink
