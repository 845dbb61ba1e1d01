import Mathlib.Order.Monotone.Basic
import BadgeLink.Serial.Port
import BadgeLink.Proofs.Outcome

/-!
# Ports of any conduct

A port may deliver what it likes when it likes, and be slow, interrupted or broken at any time.  Its
conduct says what every request meets, and by a clock that only goes forward when it is over.  What
happens at the port is written down, so that a call can be judged by the requests that it has made.
-/

namespace BadgeLink
namespace Serial

/-- The bytes of a piece. -/
def Piece.data : Piece → List UInt8
  | bytes data => data
  | timedOut | interrupted | failed _ => []

/-- One read: the timeout in force, the room for bytes, what is read, and the times at which the read is
issued and returns. -/
structure Reading where
  limit : Nat
  space : Nat
  piece : Piece
  issued : Nat
  returned : Nat
  deriving Repr, DecidableEq

/-- What happens at a port.  A timeout that is set is only mentioned where this fails; otherwise it shows
in the next read. -/
inductive PortEvent
  | look (time : Nat)
  | refused (message : String)
  | read (reading : Reading)
  | write (taken : Taken)
  | flush (answer : Except String Unit)
  | clear (answer : Except String Unit)

/-- What a port does at each event, counted from the first.  An event is issued at the time of its number,
and is over at the time of the next one. -/
structure Conduct where
  clock : Nat → Nat
  yields : Nat → Nat → Piece
  refuses : Nat → Option String
  takes : Nat → List UInt8 → Taken
  flushes : Nat → Except String Unit
  clears : Nat → Except String Unit
  clock_mono : Monotone clock
  /-- A read does not bring more than there is room for. -/
  fits : ∀ event space, (yields event space).data.length ≤ space

/-- What has happened at a port, and the timeout that is in force. -/
structure Watch where
  events : List PortEvent := []
  inForce : Nat := 0

namespace Watch

def note (event : PortEvent) (w : Watch) : Watch :=
  { w with events := w.events ++ [event] }

end Watch

namespace Conduct

variable (conduct : Conduct)

/-- The time at which the last event was over. -/
def now (w : Watch) : Nat :=
  conduct.clock w.events.length

/-- The time at which the next event will be over. -/
def later (w : Watch) : Nat :=
  conduct.clock (w.events.length + 1)

def setTimeout (wanted : Nat) (w : Watch) : Except String Unit × Watch :=
  match conduct.refuses w.events.length with
  | some message => (.error message, w.note (.refused message))
  | none => (.ok (), { w with inForce := wanted })

/-- The read that a port makes next. -/
def nextReading (space : Nat) (w : Watch) : Reading where
  limit := w.inForce
  space := space
  piece := conduct.yields w.events.length space
  issued := conduct.now w
  returned := conduct.later w

def port (patience : Nat) : Port (StateM Watch) where
  now := fun w => (conduct.later w, w.note (.look (conduct.later w)))
  timeout := fun w => (some w.inForce, w)
  setTimeout := conduct.setTimeout
  read space := fun w =>
    let reading := conduct.nextReading space w
    (reading.piece, w.note (.read reading))
  write bytes := fun w =>
    let taken := conduct.takes w.events.length bytes
    (taken, w.note (.write taken))
  flush := fun w =>
    let answer := conduct.flushes w.events.length
    (answer, w.note (.flush answer))
  clearInput := fun w =>
    let answer := conduct.clears w.events.length
    (answer, w.note (.clear answer))
  patience := pure patience

end Conduct
end Serial
end BadgeLink
