import BadgeLink.Serial.Station

/-!
# Test benches

A bench is a station whose ports all follow one script: the bytes that lie in the input buffer, what
each read and each write will do, and one fault at most for every other request.  Time passes on a bench
only where the script or a pause says so: in reads, and before looks at the clock.  Everything that
happens is recorded.
-/

namespace BadgeLink
namespace Serial

/-- What a read meets. -/
inductive ReadEvent
  | data (bytes : List UInt8)
  | nothing
  | delay (time : Nat)
  | timedOut
  | interrupted
  | failed (message : String)
  deriving Repr, DecidableEq

/-- What a write meets. -/
inductive WriteEvent
  | atMost (count : Nat)
  | interrupted
  | failed (message : String)
  deriving Repr, DecidableEq

structure Opening where
  port : String
  baud : Nat
  timeout : Nat
  deriving Repr, DecidableEq

/-- A bench with what has happened on it.  `inForce` is the timeout of the port, for a port that can tell;
`ticks` are the times that pass before the next looks at the clock, and `looks` is what the clock showed. -/
structure Bench where
  ports : List String := []
  stale : List UInt8 := []
  reads : List ReadEvent := []
  writes : List WriteEvent := []
  portsFault : Option String := none
  openFault : Option String := none
  clearFault : Option String := none
  timeoutFault : Option String := none
  flushFault : Option String := none
  inForce : Option Nat := none
  ticks : List Nat := []
  time : Nat := 0
  looks : List Nat := []
  opened : List Opening := []
  closed : Nat := 0
  sent : List (List UInt8) := []
  unflushed : List UInt8 := []
  clears : Nat := 0
  log : List Record := []
  deriving Repr, DecidableEq, Inhabited

namespace Bench

/-- Plays the script of reads up to the first event that ends a read of `count` bytes: what the read
yields, the time spent, and the script that is left.  Data that does not fit stays in front. -/
def play (count : Nat) : List ReadEvent → Piece × Nat × List ReadEvent
  | [] => (.timedOut, 0, [])
  | .data bytes :: rest =>
    let left := bytes.drop count
    (.bytes (bytes.take count), 0, if left.isEmpty then rest else .data left :: rest)
  | .nothing :: rest => (.bytes [], 0, rest)
  | .delay time :: rest =>
    let (piece, spent, left) := play count rest
    (piece, time + spent, left)
  | .timedOut :: rest => (.timedOut, 0, rest)
  | .interrupted :: rest => (.interrupted, 0, rest)
  | .failed message :: rest => (.failed message, 0, rest)

/-- Reads from the input buffer, or from the script when the buffer is empty. -/
def read (count : Nat) (b : Bench) : Piece × Bench :=
  if b.stale.isEmpty then
    let (piece, spent, reads) := play count b.reads
    (piece, { b with reads, time := b.time + spent })
  else (.bytes (b.stale.take count), { b with stale := b.stale.drop count })

def accept (bytes : List UInt8) (b : Bench) : Bench :=
  { b with unflushed := b.unflushed ++ bytes }

/-- Writes as the script of writes says, and everything where it says nothing. -/
def write (bytes : List UInt8) (b : Bench) : Taken × Bench :=
  match b.writes with
  | [] => (.bytes bytes.length, b.accept bytes)
  | .atMost count :: rest =>
    let taken := bytes.take count
    (.bytes taken.length, { b.accept taken with writes := rest })
  | .interrupted :: rest => (.interrupted, { b with writes := rest })
  | .failed message :: rest => (.failed message, { b with writes := rest })

/-- Hands over what has been written since the last time. -/
def flush (b : Bench) : Except String Unit × Bench :=
  match b.flushFault with
  | some message => (.error message, { b with flushFault := none })
  | none => (.ok (), { b with sent := b.sent ++ [b.unflushed], unflushed := [] })

def clearInput (b : Bench) : Except String Unit × Bench :=
  match b.clearFault with
  | some message => (.error message, { b with clearFault := none })
  | none => (.ok (), { b with stale := [], clears := b.clears + 1 })

/-- Sets how long a read waits, which no script depends on. -/
def setTimeout (time : Nat) (b : Bench) : Except String Unit × Bench :=
  match b.timeoutFault with
  | some message => (.error message, { b with timeoutFault := none })
  | none => (.ok (), { b with inForce := b.inForce.map fun _ => time })

def look (b : Bench) : Nat × Bench :=
  let time := b.time + b.ticks.headD 0
  (time, { b with ticks := b.ticks.tail, time, looks := b.looks ++ [time] })

def listPorts (b : Bench) : Except String (List String) × Bench :=
  match b.portsFault with
  | some message => (.error message, { b with portsFault := none })
  | none => (.ok b.ports, b)

/-- Opens a port, whatever its name. -/
def openPort (name : String) (timeout : Nat) (b : Bench) : Except String Unit × Bench :=
  match b.openFault with
  | some message => (.error message, { b with openFault := none })
  | none => (.ok (), { b with opened := b.opened ++ [⟨name, baudRate, timeout⟩] })

def port : Port (StateM Bench) where
  now := look
  timeout := fun b => (b.inForce, b)
  setTimeout := setTimeout
  read := read
  write := write
  flush := flush
  clearInput := clearInput
  patience := fun b => (b.reads.length + b.writes.length, b)

def pause (time : Nat) (b : Bench) : Unit × Bench :=
  ((), { b with time := b.time + time })

def note (record : Record) (b : Bench) : Unit × Bench :=
  ((), { b with log := b.log ++ [record] })

def station : Station (StateM Bench) where
  toLink := port.link pause note
  ports := listPorts
  openPort := openPort
  closePort _ := fun b => ((), { b with closed := b.closed + 1 })

def feed (reads : List ReadEvent) (writes : List WriteEvent) (b : Bench) : Bench :=
  { b with reads := b.reads ++ reads, writes := b.writes ++ writes }

end Bench
end Serial
end BadgeLink
