import BadgeLink.CommandLine.Invocation
import BadgeLink.Failure
import BadgeLink.Serial.Station

/-!
# Sessions

A session does what a command line asks for, at a machine that has serial ports and files.  It opens a
port, brings the badge on it to a known state unless it is told not to, does its job and gives the port
back, whatever happens in between.
-/

namespace BadgeLink

open CommandLine (Invocation Job Settings)

/-- A machine with serial ports and files. -/
structure Workplace (m : Type → Type) extends Serial.Station m where
  readFile : String → m (Except FileFault (List UInt8))

namespace Config

variable {m : Type → Type} [Monad m]

def load (place : Workplace m) (path : String) : ExceptT Failure m Config := do
  let data ← ExceptT.mk do return (← place.readFile path).mapError (.reading path)
  let text ← ExceptT.mk (pure ((Files.decode data).mapError (.reading path)))
  let config ← ExceptT.mk (pure ((Config.ofYaml text).mapError (.parsing path)))
  place.note (.loaded path config)
  return config

end Config

namespace CommandLine

/-- Reads data that were written in hexadecimal. -/
def readData (text : String) : Except Failure (List UInt8) :=
  (Text.Hex.read text).mapError (.hexData text)

/-- A choice that a number stands for. -/
def choose {α : Type} (choice : Except Error α) : Except Failure α :=
  choice.mapError .badge

namespace Job

/-- The requests of a job, in their order.  Drawing is followed by a refresh of the display. -/
def requests : Job → Except Failure (List Request)
  | reset => .ok []
  | uart data => return [.uart (← readData data)]
  | lcdClear => .ok [.lcdClear]
  | lcdRefresh => .ok [.lcdRefresh]
  | lcdPixel x y color => return [.lcdPixel x y (← choose (Color.ofNumber color)), .lcdRefresh]
  | lcdText row col text => .ok [.lcdText row col text, .lcdRefresh]
  | led n on => return [.ledSet (← choose (Led.ofNumber n)) on]
  | ledBlink n period => return [.ledBlink (← choose (Led.ofNumber n)) period]
  | buttons => .ok [.buttons]
  | i2cClock khz => .ok [.i2cClock khz]
  | i2cRead device register length => .ok [.i2cRead device (.number register) length]
  | i2cWrite device register data => return [.i2cWrite device (.number register) (← readData data)]
  | spiConfig khz mode => return [.spiConfig khz (← choose (SpiMode.ofNumber mode))]
  | spiTransfer data => return [.spiTransfer (← readData data)]

/-- Everything a job does on an open badge.  A reset has been done already when the badge was opened,
unless the settings forbid it. -/
def operations (job : Job) (settings : Settings) : Except Failure (List Operation) := do
  let requests ← job.requests
  let first := if job = .reset ∧ settings.noReset then [Operation.init] else []
  return first ++ requests.map .request

end Job
end CommandLine

/-- The line that is printed for a reply, if there is something to tell. -/
def Reply.line? : Reply → Option String
  | done => none
  | bytes data => some (Text.Hex.encode data)
  | buttons state => some s!"{state.display} ({Text.Hex.byte state.bits})"

namespace Session

variable {m : Type → Type} [Monad m]

/-- What a session works with: the port that is open and the badge on it. -/
structure Connection where
  port : String
  badge : Badge
  deriving Repr, DecidableEq

/-- The configuration of a session: that of the file, if one is named, with the settings in front. -/
def configure (place : Workplace m) (settings : Settings) : ExceptT Failure m Config := do
  let base ←
    match settings.configPath with
    | some path => Config.load place path
    | none => pure Config.default
  let named := { base with port := settings.port.or base.port }
  match settings.timeout with
  | none => return named
  | some 0 => throw .zeroTimeout
  | some timeout => return { named with timeout }

/-- Opens the port of a session, and resets the badge on it unless the settings forbid it. -/
def connect (place : Workplace m) (settings : Settings) : ExceptT Failure m Connection := do
  let config ← configure place settings
  let station := place.toStation
  if settings.noReset then
    let port ← (station.openPreferred config.port config.timeout).adapt .badge
    return { port, badge := { timeout := config.timeout } }
  else
    let (port, badge) ← (station.openBadge config).adapt .connecting
    return { port, badge }

/-- Carries out operations one after another, up to the first that fails. -/
def performAll (place : Workplace m) (badge : Badge) :
    List Operation → ExceptT Failure m (List Reply)
  | [] => return []
  | operation :: rest => do
    let reply ← (place.toStation.carryOut (badge.perform operation)).adapt .badge
    return reply :: (← performAll place badge rest)

/-- Does a job and gives the port back; yields the lines to print. -/
def work (place : Workplace m) (settings : Settings) (job : Job) :
    ExceptT Failure m (List String) := do
  let connection ← connect place settings
  ExceptT.mk do
    let outcome ← ExceptT.run do
      let operations ← ExceptT.mk (pure (job.operations settings))
      performAll place connection.badge operations
    place.toStation.release connection.port
    return outcome.map (·.filterMap Reply.line?)

/-- Lists the ports; yields the lines to print. -/
def listPorts (place : Workplace m) : ExceptT Failure m (List String) := do
  let names ← (place.toStation.scan).adapt .badge
  if names.isEmpty then place.note .noPorts
  return names

/-- Does what a command line asks for; yields the lines to print. -/
def run (place : Workplace m) (invocation : Invocation) : ExceptT Failure m (List String) :=
  match invocation.purpose with
  | .listPorts => listPorts place
  | .work job => work place invocation.settings job

end Session
end BadgeLink
