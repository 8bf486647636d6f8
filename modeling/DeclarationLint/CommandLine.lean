import DeclarationLint.CommandLine.Request
import DeclarationLint.Config.Overrides
import DeclarationLint.LintPaths
import DeclarationLint.Report.Console
import DeclarationLint.Report.Text

/-!
# The command line

Two commands: one analyzes files and prints a report, the other lists the rules. The exit
code tells whether there were issues, or that a syntax tree was malformed. How arguments are read
is left open: a reader of arguments either says which command they stand for or refuses them.
-/
namespace DeclarationLint.CommandLine

/-- What ends a command without an exit code of its own. -/
inductive Failure where
  | usage (error : UsageError)
  | config (error : ConfigError)
  | discovery (error : DiscoveryError)
  | overflow (cause : NumberOverflow)
  | unusablePath (defect : PathDefect)
deriving DecidableEq, Repr

/-- What a command prints and the code it exits with. -/
structure Finished where
  exitCode : Nat
  output : String
  errors : String
deriving DecidableEq, Repr

abbrev Outcome := Journal Notice Failure Finished

/-- Where a command is carried out: the file system, what parses the files in it, and how wide the
console is. -/
structure Environment where
  disk : Disk
  parser : Parser
  consoleWidth : Nat

/-- What reads arguments. It may look at the file system. -/
abbrev ArgumentReader := Disk → List String → Except Failure Command

def exitClean : Nat := 0

def exitIssues : Nat := 1

def exitMalformedTree : Nat := 2

namespace Environment

def directory (env : Environment) : String := env.disk.directory.render

def reporterFor (env : Environment) : OutputFormat → Reporter
  | .text => Report.Text.reporter env.directory
  | .console => Report.Console.reporter env.directory env.consoleWidth

end Environment

/-- The configuration that a request asks for. -/
def configFor (request : AnalyzeRequest) : Except Failure Config := do
  let overrides ← match Overrides.parse request.overrides with
    | .ok overrides => .ok overrides
    | .error error =>
      .error (.usage (.badParameter (some ("Invalid value for --config: " ++ error.message))))
  let standard := Config.standard (overrides.mapValues Value.text)
  let rules ← match standard.enabledRules request.rules with
    | .ok rules => .ok rules
    | .error error =>
      .error (.usage (.badParameter (some ("Invalid value for --rule: " ++ error.message))))
  (Config.make rules standard.runSettings).mapError Failure.config

/-- The files that a request is about. -/
def collectFor (disk : Disk) (request : AnalyzeRequest) :
    Journal Notice DiscoveryError (List Place) :=
  Discovery.collect (.standard request.includeHeaders) disk (request.targets.map Path.parse)

/-- What has to be settled before any file is read. -/
def prepare (disk : Disk) (request : AnalyzeRequest) :
    Journal Notice Failure (Config × List Path) := do
  let config ← Journal.ofExcept (configFor request)
  let found := collectFor disk request
  let places ← ⟨found.entries, found.result.mapError Failure.discovery⟩
  pure (config, places.map Place.toPath)

def syntaxWarning (identifier : String) : String :=
  s!"warning: {identifier}: syntax errors, declarations may be incomplete\n"

def reportResult (env : Environment) (format : OutputFormat) (result : LintResult) : Finished :=
  { exitCode := if result.issues = [] then exitClean else exitIssues
    output := (env.reporterFor format).render result.issues result.numberOfFiles ++ "\n"
    errors := String.join (result.filesWithParseErrors.map syntaxWarning) }

def conclude (env : Environment) (format : OutputFormat) :
    Except Fault LintResult → Except Failure Finished
  | .ok result => .ok (reportResult env format result)
  | .error (.malformedTree defect) =>
    .ok ⟨exitMalformedTree, "", s!"error: malformed syntax tree: {defect.message}\n"⟩
  | .error (.overflow cause) => .error (.overflow cause)
  | .error (.unusablePath defect) => .error (.unusablePath defect)

/-- Carries out an analysis on one worker. -/
def analyze (env : Environment) (request : AnalyzeRequest) : Outcome := do
  let (config, paths) ← prepare env.disk request
  let run := lintPaths config env.disk env.parser paths .empty
  ⟨run.notices, conclude env request.format run.linted.result⟩

def ruleLine (rule : Rule) : String :=
  s!"{rule.identifier}: {rule.name} ({rule.severity.word}, {rule.category.word})\n"

def listRules : Finished :=
  ⟨exitClean, String.join (Config.builtinRules.map ruleLine), ""⟩

/-- Carries out a command line. -/
def run (reader : ArgumentReader) (env : Environment) (arguments : List String) : Outcome :=
  match reader env.disk arguments with
  | .error failure => Journal.fail failure
  | .ok (.analyze request) => analyze env request
  | .ok .listRules => pure listRules

end DeclarationLint.CommandLine
