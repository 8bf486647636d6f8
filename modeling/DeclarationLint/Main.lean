import DeclarationLint.CommandLine.Arguments
import DeclarationLint.Snapshot

/-!
# The program

Takes the command line from its arguments and the project from standard input, as a
snapshot. Reports go to standard output, and everything else to standard error.
-/
namespace DeclarationLint.Main

open CommandLine

def usageText : UsageError → String
  | .misuse => "Missing or unknown command, or extra arguments"
  | .noSuchOption => "No such option"
  | .badOptionUse => "Option used wrongly"
  | .missingParameter => "Missing argument"
  | .badParameter none => "Invalid value"
  | .badParameter (some message) => message

def failureText : Failure → String
  | .usage error => usageText error
  | .config error => error.message
  | .discovery error => error.message
  | .overflow cause => cause.message
  | .unusablePath defect => defect.message

/-- The exit code of a command line that could not be carried out. -/
def exitUsage : UInt32 := 2

/-- The exit code of a run that failed for another reason. -/
def exitFailure : UInt32 := 1

def exitOf : Failure → UInt32
  | .usage _ => exitUsage
  | _ => exitFailure

/-- How wide the console is taken to be. -/
def consoleWidth : Nat := 80

def noticeLine (notice : Notice) : String :=
  s!"{notice.level}:{notice.channel}:{notice.message}"

def withoutNewline (line : String) : String :=
  String.ofList (line.toList.filter (· ≠ '\n'))

partial def readLines (input : IO.FS.Stream) (read : List String) : IO (List String) := do
  let line ← input.getLine
  if line.isEmpty then return read.reverse
  else readLines input (withoutNewline line :: read)

def run (arguments : List String) : IO UInt32 := do
  match Snapshot.parse (← readLines (← IO.getStdin) []) with
  | .error number =>
    IO.eprintln s!"error: line {number} of the snapshot cannot be read"
    return exitFailure
  | .ok snapshot =>
    let env : Environment := ⟨snapshot.disk, snapshot.parser, consoleWidth⟩
    let outcome := CommandLine.run readArguments env arguments
    for notice in outcome.entries do
      IO.eprintln (noticeLine notice)
    match outcome.result with
    | .ok finished =>
      IO.print finished.output
      IO.eprint finished.errors
      return finished.exitCode.toUInt32
    | .error failure =>
      IO.eprintln s!"error: {failureText failure}"
      return exitOf failure

end DeclarationLint.Main

def main (arguments : List String) : IO UInt32 := DeclarationLint.Main.run arguments
