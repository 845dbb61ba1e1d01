import BadgeLink.Text.Quoted

/-!
# Session configuration

Which serial port to use, how long to wait for a response and how long to pause between attempts to
reset the device.  Times are in milliseconds.
-/

namespace BadgeLink

/-- How long a response may take unless something else is asked for. -/
def defaultTimeout : Nat :=
  500

/-- The pause between attempts to reset unless something else is asked for. -/
def defaultResetInterval : Nat :=
  100

/-- The settings of a session; without a port the first one found is used. -/
structure Config where
  port : Option String := none
  timeout : Nat := defaultTimeout
  resetInterval : Nat := defaultResetInterval
  deriving Repr, DecidableEq, Inhabited

namespace Config

/-- The settings that hold when nothing is configured. -/
def default : Config := {}

def debug (config : Config) : String :=
  let port :=
    match config.port with
    | none => "None"
    | some name => "Some(" ++ Text.quoted name ++ ")"
  "BadgeConfig \x7b " ++
    s!"port: {port}, timeout_ms: {config.timeout}, reset_interval_ms: {config.resetInterval}" ++
    " \x7d"

end Config
end BadgeLink
