import BadgeLink.Serial.Device
import BadgeLink.Session

/-!
# The program

Reads the command line, does what it asks for at this machine, and prints what there is to tell: lines of
a job on the standard output, the log and everything that went wrong on the standard error.
-/

namespace BadgeLink
namespace Program

open CommandLine (Invocation Usage Verb)

/-- Prints a record of the log, unless it is less important than what is asked for. -/
def report (verbose : Bool) (record : Record) : IO Unit := do
  let least : Level := if verbose then .debug else .info
  if least.rank ≤ record.level.rank then IO.eprintln record.line

def readFile (path : String) : IO (Except FileFault (List UInt8)) := do
  match ← (IO.FS.readBinFile path).toBaseIO with
  | .ok data => return .ok data.toList
  | .error (.noFileOrDirectory ..) => return .error .notFound
  | .error (.inappropriateType ..) => return .error .isDirectory
  | .error e => return .error (.other (toString e))

/-- This machine as a place to work at. -/
def workplace (verbose : Bool) : IO (Workplace IO) := do
  let slot ← IO.mkRef none
  return { Serial.Device.station slot (report verbose) with readFile }

/-- How to write a command line. -/
def help : String :=
  let verbs := Verb.all.map fun verb =>
    " ".intercalate ("  " :: verb.word :: verb.operands.map (·.shown))
  let settings := CommandLine.Setting.all.map fun setting => "   " ++ setting.shown
  "\n".intercalate
    ([s!"Usage: {CommandLine.programName} [OPTIONS] <COMMAND>", "", "Commands:"] ++ verbs ++
      ["", "Options:"] ++ settings)

/-- Shows a notice about the command line; only a wrong one is a fault. -/
def showUsage (usage : Usage) : IO UInt32 := do
  match usage with
  | .help => IO.println help; return 0
  | .version => IO.println (usage.message?.getD ""); return 0
  | .nothingGiven => IO.eprintln help; return 2
  | _ => IO.eprintln (usage.message?.getD ""); return 2

def showFailure (failure : Failure) : IO UInt32 := do
  IO.eprintln ("Error: " ++ "\n  caused by: ".intercalate failure.chain)
  return 1

/-- Does what a command line asks for, and yields the exit status. -/
def run (words : List String) : IO UInt32 := do
  match Invocation.ofWords words with
  | .error usage => showUsage usage
  | .ok invocation =>
    match ← (Session.run (← workplace invocation.settings.verbose) invocation).run with
    | .ok lines => do
      lines.forM IO.println
      return 0
    | .error failure => showFailure failure

end Program
end BadgeLink

/-- Runs the program on the words of the command line. -/
def main (words : List String) : IO UInt32 :=
  BadgeLink.Program.run words
