import BadgeLink.Text.Numeral

/-!
# Settings of the command line

Every command takes the same few settings, in front of the command or behind it.  Some take a value, the
others are switched on by being named.
-/

namespace BadgeLink
namespace CommandLine

/-- What can be set, whatever the command. -/
inductive Setting
  | port
  | config
  | timeout
  | noReset
  | verbose
  deriving Repr, DecidableEq

namespace Setting

def all : List Setting :=
  [port, config, timeout, noReset, verbose]

/-- The name behind two dashes. -/
def long : Setting → String
  | port => "port"
  | config => "config"
  | timeout => "timeout-ms"
  | noReset => "no-reset"
  | verbose => "verbose"

/-- The letter behind one dash, for settings that have one. -/
def letter? : Setting → Option Char
  | port => some 'p'
  | config => some 'c'
  | verbose => some 'v'
  | timeout | noReset => none

/-- The name of the value, for settings that take one. -/
def valueName? : Setting → Option String
  | port => some "PORT"
  | config => some "CONFIG"
  | timeout => some "TIMEOUT_MS"
  | noReset | verbose => none

def takesValue (s : Setting) : Bool :=
  s.valueName?.isSome

/-- How messages name a setting. -/
def shown (s : Setting) : String :=
  match s.valueName? with
  | some name => s!"--{s.long} <{name}>"
  | none => s!"--{s.long}"

def ofLong? (name : String) : Option Setting :=
  all.find? fun s => s.long == name

def ofLetter? (c : Char) : Option Setting :=
  all.find? fun s => s.letter? == some c

/-- A long name belongs to one setting only. -/
theorem ofLong?_long (s : Setting) : ofLong? s.long = some s := by
  cases s <;> decide

end Setting

structure Settings where
  port : Option String := none
  configPath : Option String := none
  timeout : Option Nat := none
  noReset : Bool := false
  verbose : Bool := false
  deriving Repr, DecidableEq, Inhabited

namespace Settings

def has (given : Settings) : Setting → Bool
  | .port => given.port.isSome
  | .config => given.configPath.isSome
  | .timeout => given.timeout.isSome
  | .noReset => given.noReset
  | .verbose => given.verbose

def isEmpty (given : Settings) : Bool :=
  !Setting.all.any given.has

/-- Gives a setting its value; a time is a natural number of 64 bits. -/
def put (given : Settings) (setting : Setting) (value : String) :
    Except Text.Numeral.Fault Settings :=
  match setting with
  | .port => .ok { given with port := some value }
  | .config => .ok { given with configPath := some value }
  | .timeout =>
    (Text.Numeral.natural 10 Text.Numeral.largest64 value.toList).map fun time =>
      { given with timeout := some time }
  | .noReset => .ok { given with noReset := true }
  | .verbose => .ok { given with verbose := true }

/-- The settings given in front of a command with those given behind it, which win. -/
def overriddenBy (before behind : Settings) : Settings :=
  { port := behind.port.or before.port
    configPath := behind.configPath.or before.configPath
    timeout := behind.timeout.or before.timeout
    noReset := before.noReset || behind.noReset
    verbose := before.verbose || behind.verbose }

end Settings
end CommandLine
end BadgeLink
