import BadgeLink.Dialogue

/-!
# Serial ports

A serial port delivers bytes in pieces, may be interrupted and keeps a timeout of its own.  A link wants
more: all bytes are sent or the request fails, and the time to receive is counted over all pieces.  This
module builds the link from the port.  Both loops go round again only after a piece or an interruption,
so the bytes wanted and the interruptions to come bound them.
-/

namespace BadgeLink
namespace Serial

def baudRate : Nat :=
  115200

/-- What one read of a port yields. -/
inductive Piece
  | bytes (data : List UInt8)
  | timedOut
  | interrupted
  | failed (message : String)
  deriving Repr, DecidableEq

/-- What one write to a port yields: how many bytes were taken, or why none were. -/
inductive Taken
  | bytes (count : Nat)
  | interrupted
  | failed (message : String)
  deriving Repr, DecidableEq

/-- What a port can be asked for.  `patience` bounds the interruptions that are still to come. -/
structure Port (m : Type → Type) where
  now : m Nat
  timeout : m (Option Nat)
  setTimeout : Nat → m (Except String Unit)
  read : Nat → m Piece
  write : List UInt8 → m Taken
  flush : m (Except String Unit)
  clearInput : m (Except String Unit)
  patience : m Nat

/-- How a loop over pieces ends; the last case is that it may not go on. -/
inductive Received
  | complete (bytes : List UInt8)
  | fault (cause : LinkFault)
  | exhausted (bytes : List UInt8)
  deriving Repr, DecidableEq

/-- What a link makes of it. -/
def Received.outcome : Received → Except LinkFault (List UInt8)
  | complete bytes => .ok bytes
  | fault cause => .error cause
  | exhausted bytes => .ok bytes

namespace Port

variable {m : Type → Type} [Monad m]

/-- Sees to it that a read waits no longer than `wanted`. -/
def limit (port : Port m) (wanted : Nat) : m (Except String Unit) := do
  if (← port.timeout) = some wanted then return .ok () else port.setTimeout wanted

/-- Reads until `count` bytes are there, the deadline is reached or a read brings nothing more. -/
def collect (port : Port m) (count deadline : Nat) : Nat → List UInt8 → m Received
  | 0, got => return .exhausted got
  | rounds + 1, got => do
    if count ≤ got.length then return .complete got
    let now ← port.now
    if deadline ≤ now then return .complete got
    match ← port.limit (deadline - now) with
    | .error message => return .fault (.serial message)
    | .ok () =>
      match ← port.read (count - got.length) with
      | .bytes [] => return .complete got
      | .bytes piece => collect port count deadline rounds (got ++ piece)
      | .timedOut => return .complete got
      | .interrupted => collect port count deadline rounds got
      | .failed message => return .fault (.io message)

/-- Receives up to `count` bytes; the time counts for all pieces together. -/
def receive (port : Port m) (count timeout : Nat) : m Received := do
  let start ← port.now
  let rounds := count + (← port.patience) + 1
  port.collect count (start + timeout) rounds []

/-- Writes until every byte is taken. -/
def deliver (port : Port m) : Nat → List UInt8 → m (Except LinkFault Unit)
  | _, [] => return .ok ()
  | 0, _ :: _ => return .error (.io "failed to write whole buffer")
  | rounds + 1, bytes => do
    match ← port.write bytes with
    | .bytes 0 => return .error (.io "failed to write whole buffer")
    | .bytes count => deliver port rounds (bytes.drop count)
    | .interrupted => deliver port rounds bytes
    | .failed message => return .error (.io message)

/-- Sends all bytes and waits until they have left. -/
def send (port : Port m) (bytes : List UInt8) : m (Except LinkFault Unit) := do
  let rounds := bytes.length + (← port.patience)
  match ← port.deliver rounds bytes with
  | .error cause => return .error cause
  | .ok () => return (← port.flush).mapError .io

def link (port : Port m) (pause : Nat → m Unit) (note : Record → m Unit) : Link m where
  send := port.send
  receive count timeout := do return (← port.receive count timeout).outcome
  clear := do return (← port.clearInput).mapError .serial
  pause := pause
  note := note

end Port
end Serial
end BadgeLink
