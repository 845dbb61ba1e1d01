import BadgeLink.CommandLine.Operand
import BadgeLink.CommandLine.Setting
import BadgeLink.Text.Terminal

/-!
# Usage

A command line that cannot be followed, or that only asks how to write one, ends in a usage notice.  Its
first line says what the matter is.  Words of the command line appear in it without what would steer a
terminal.
-/

namespace BadgeLink
namespace CommandLine

/-- The name under which the program speaks of itself. -/
def programName : String :=
  "kibadge"

def version : String :=
  "0.1.0"

/-- Why a command line is not followed. -/
inductive Usage
  | nothingGiven
  | help
  | version
  | missingVerb
  | unknownVerb (word : String)
  | missingOperands
  | unexpected (word : String)
  | missingValue (setting : Setting)
  | repeated (setting : Setting)
  | surplusValue (value option : String)
  | badSetting (value : String) (setting : Setting) (cause : Text.Numeral.Fault)
  | badOperand (value : String) (operand : Operand) (cause : ValueFault)
  deriving Repr, DecidableEq

namespace Usage

/-- A word in quotes, as far as it is visible. -/
def quoted (word : String) : String :=
  s!"'{Text.Terminal.visible word}'"

/-- The whole text of a notice, for notices that have one besides the help. -/
def text? : Usage → Option String
  | nothingGiven | help => none
  | version => some s!"{programName} {CommandLine.version}"
  | missingVerb =>
    some s!"error: {quoted programName} requires a subcommand but one was not provided"
  | unknownVerb word => some s!"error: unrecognized subcommand {quoted word}"
  | missingOperands => some "error: the following required arguments were not provided:"
  | unexpected word => some s!"error: unexpected argument {quoted word} found"
  | missingValue setting =>
    some s!"error: a value is required for {quoted setting.shown} but none was supplied"
  | repeated setting =>
    some s!"error: the argument {quoted setting.shown} cannot be used multiple times"
  | surplusValue value option =>
    some s!"error: unexpected value {quoted value} for {quoted option} found; no more were expected"
  | badSetting value setting cause =>
    some s!"error: invalid value {quoted value} for {quoted setting.shown}: {cause.message}"
  | badOperand value operand cause =>
    some s!"error: invalid value {quoted value} for {quoted operand.shown}: {cause.message}"

/-- A line without the carriage return that may end it. -/
def withoutReturn (line : List Char) : List Char :=
  if line.getLast? = some '\r' then line.dropLast else line

/-- The first line of a notice. -/
def message? (u : Usage) : Option String :=
  u.text?.map fun text =>
    let line := text.toList.takeWhile (· != '\n')
    String.ofList (if line.length < text.length then withoutReturn line else line)

end Usage
end CommandLine
end BadgeLink
