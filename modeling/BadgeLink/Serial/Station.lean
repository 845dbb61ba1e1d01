import BadgeLink.Badge
import BadgeLink.Serial.Port

/-!
# Stations

A station is a machine with serial ports.  It can list them, and open one at a time for a link to talk
over.  Whoever opens a port through a function of this module holds it, and gives it back exactly once;
opening a badge gives the port back by itself if the badge cannot be brought to a known state.
-/

namespace BadgeLink
namespace Serial

/-- What a machine with serial ports can be asked for, with the link over the port that is open. -/
structure Station (m : Type → Type) extends Link m where
  ports : m (Except String (List String))
  openPort : String → Nat → m (Except String Unit)
  closePort : String → m Unit

namespace Station

variable {m : Type → Type} [Monad m]

/-- An answer of the station, whose own faults are those of the serial ports. -/
def answer {α : Type} (request : m (Except String α)) : ExceptT Error m α :=
  ExceptT.mk do return (← request).mapError fun message => .link (.serial message)

def scan (station : Station m) : ExceptT Error m (List String) :=
  answer station.ports

def openNamed (station : Station m) (name : String) (timeout : Nat) : ExceptT Error m Unit := do
  station.note (.opening name baudRate)
  answer (station.openPort name timeout)

/-- Opens a port by its place in the list of ports, counted from zero, and yields its name. -/
def openNth (station : Station m) (index timeout : Nat) : ExceptT Error m String := do
  match (← station.scan)[index]? with
  | none => throw (.link (.serial s!"No serial port found at index #{index}"))
  | some name =>
    station.openNamed name timeout
    return name

/-- Opens the port with the given name, or the first one if none is given, and yields its name. -/
def openPreferred (station : Station m) (preferred : Option String) (timeout : Nat) :
    ExceptT Error m String := do
  match preferred with
  | some name =>
    station.openNamed name timeout
    return name
  | none => station.openNth 0 timeout

def release (station : Station m) (name : String) : m Unit := do
  station.note (.closing name)
  station.closePort name

/-- Runs an exchange over the port that is open. -/
def carryOut {α : Type} (station : Station m) (exchange : Exchange α) : ExceptT Error m α :=
  ExceptT.mk (exchange.run.overLink station.toLink)

/-- Opens the configured port and resets the badge on it; yields the name of the port with the badge. -/
def openBadge (station : Station m) (config : Config) : ExceptT Error m (String × Badge) := do
  let name ← station.openPreferred config.port config.timeout
  let badge : Badge := { timeout := config.timeout, resetInterval := config.resetInterval }
  ExceptT.mk do
    match ← station.carryOut badge.init with
    | .ok () => return .ok (name, badge)
    | .error e =>
      station.release name
      return .error e

end Station
end Serial
end BadgeLink
