import BadgeLink.Serial.Station

/-!
# Serial devices

The station of the machine that the program runs on.  Its ports are the serial devices in the device
directory.  A read of a device waits for bytes however long it takes, so it runs on the side, and a port
looks at it until its own timeout is over; what comes later is kept for the next read.
-/

namespace BadgeLink
namespace Serial

def deviceDirectory : String :=
  "/dev"

/-- How the names of serial devices start. -/
def deviceNames : List String :=
  ["ttyACM", "ttyUSB", "cu.usbmodem", "cu.usbserial"]

/-- The most bytes that one read of a device takes. -/
def deviceChunk : USize :=
  256

/-- A device that is open: the read on the side, what has arrived and not been taken, and how long a read
may wait. -/
structure Device where
  handle : IO.FS.Handle
  reading : IO.Ref (Option (Task (Except IO.Error ByteArray)))
  arrived : IO.Ref (List UInt8)
  patience : IO.Ref Nat

namespace Device

def openNamed (name : String) (timeout : Nat) : IO Device := do
  let handle ← IO.FS.Handle.mk name .readWrite
  return { handle, reading := ← IO.mkRef none, arrived := ← IO.mkRef [], patience := ← IO.mkRef timeout }

/-- The read on the side, started if none is under way. -/
def current (d : Device) : IO (Task (Except IO.Error ByteArray)) := do
  match ← d.reading.get with
  | some task => return task
  | none =>
    let task ← IO.asTask (d.handle.read deviceChunk)
    d.reading.set (some task)
    return task

/-- Whether a task ends within some milliseconds. -/
def endsWithin {α : Type} (task : Task α) : Nat → IO Bool
  | 0 => IO.hasFinished task
  | time + 1 => do
    if ← IO.hasFinished task then return true
    IO.sleep 1
    endsWithin task time

/-- Waits for bytes, and keeps them. -/
def await (d : Device) (time : Nat) : IO Piece := do
  let task ← d.current
  if ← endsWithin task time then
    d.reading.set none
    match task.get with
    | .ok bytes =>
      d.arrived.modify (· ++ bytes.toList)
      return .bytes bytes.toList
    | .error e => return .failed (toString e)
  else return .timedOut

/-- Takes up to `count` bytes, waiting for some if there are none. -/
def read (d : Device) (count : Nat) : IO Piece := do
  let outcome ← if (← d.arrived.get).isEmpty then d.await (← d.patience.get) else pure (.bytes [])
  match outcome with
  | .bytes _ =>
    let bytes ← d.arrived.get
    d.arrived.set (bytes.drop count)
    return .bytes (bytes.take count)
  | other => return other

def clear (d : Device) : IO Unit := do
  let _ ← d.await 0
  d.arrived.set []

/-- An action of the machine whose faults are texts. -/
def attempt {α : Type} (action : IO α) : IO (Except String α) := do
  match ← action.toBaseIO with
  | .ok value => return .ok value
  | .error e => return .error (toString e)

def port (d : Device) : Port IO where
  now := IO.monoMsNow
  timeout := return some (← d.patience.get)
  setTimeout time := attempt (d.patience.set time)
  read := d.read
  write bytes := do
    match ← attempt (d.handle.write ⟨bytes.toArray⟩) with
    | .ok () => return .bytes bytes.length
    | .error message => return .failed message
  flush := attempt d.handle.flush
  clearInput := attempt d.clear
  patience := pure 0

/-- The names of the serial devices of the machine. -/
def all : IO (List String) := do
  let entries ← (← IO.FS.realPath deviceDirectory).readDir
  let names := entries.toList.map (·.fileName)
  let serial := names.filter fun name => deviceNames.any (name.startsWith ·)
  return (serial.mergeSort (· ≤ ·)).map fun name => deviceDirectory ++ "/" ++ name

/-- What a link says about a port that nobody opened. -/
def notOpen : String :=
  "no port is open"

/-- The port of the device that is open, if one is. -/
def held (slot : IO.Ref (Option Device)) : IO (Option (Port IO)) := do
  return (← slot.get).map Device.port

/-- The station of this machine, with a place for the device that is open. -/
def station (slot : IO.Ref (Option Device)) (note : Record → IO Unit) : Station IO where
  send bytes := do
    match ← held slot with
    | some port => port.send bytes
    | none => return .error (.serial notOpen)
  receive count timeout := do
    match ← held slot with
    | some port => return (← port.receive count timeout).outcome
    | none => return .error (.serial notOpen)
  clear := do
    match ← held slot with
    | some port => return (← port.clearInput).mapError .serial
    | none => return .error (.serial notOpen)
  pause time := IO.sleep time.toUInt32
  note := note
  ports := attempt all
  openPort name timeout := attempt do slot.set (some (← openNamed name timeout))
  closePort _ := slot.set none

end Device
end Serial
end BadgeLink
