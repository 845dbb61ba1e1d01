import BadgeLink.Command.Wire
import BadgeLink.Dialogue

/-!
# Exchanges with a device

An exchange is a dialogue that can fail.  The basic one sends a command and reads one response frame:
the length byte comes first and says how many bytes the rest of the frame has.
-/

namespace BadgeLink

/-- A dialogue that ends in a value or an error. -/
abbrev Exchange (α : Type) : Type :=
  ExceptT Error Dialogue α

namespace Exchange

/-- The exchange that has its outcome already. -/
def ofExcept {α : Type} (outcome : Except Error α) : Exchange α :=
  ExceptT.mk (.done outcome)

def send (bytes : List UInt8) : Exchange Unit :=
  ExceptT.mk (.send bytes fun answer => .done (answer.mapError .link))

/-- Receives up to `count` bytes, fewer if the time runs out. -/
def receive (count timeout : Nat) : Exchange (List UInt8) :=
  ExceptT.mk (.receive count timeout fun answer => .done (answer.mapError .link))

def clear : Exchange Unit :=
  ExceptT.mk (.clear fun answer => .done (answer.mapError .link))

def note (record : Record) : Exchange Unit :=
  ExceptT.mk (.note record (.done (.ok ())))

/-- Receives exactly `count` bytes; too few are a timeout. -/
def receiveExact (count timeout : Nat) : Exchange (List UInt8) := do
  let bytes ← receive count timeout
  if bytes.length < count then ofExcept (.error (.timeout count bytes.length)) else return bytes

def receiveResponse (timeout : Nat) : Exchange Response := do
  let head ← receiveExact 1 timeout
  let length := head.headD 0
  let body ← receiveExact (length.toNat + 1) timeout
  note (.received (length :: body))
  ofExcept (Response.ofBody body)

/-- Sends a command and receives the payload of its response. -/
def transfer (command : Command) (timeout : Nat) : Exchange (List UInt8) := do
  let wire ← ofExcept command.toWire
  note (.sent wire)
  send wire
  let response ← receiveResponse timeout
  if !response.isOk then note (.reported response)
  ofExcept response.toPayload

end Exchange
end BadgeLink
