import DeclarationLint.CommandLine
import DeclarationLint.Number.WholeNumber

/-!
# Command line arguments

One way to read arguments. Options may stand before, between and after the targets. A long option
takes its value after an equals sign or from the next argument, and short options can be run
together, the last of them with its value. Two dashes alone end the options. Targets are resolved,
and every one has to be there and to be readable.
-/
namespace DeclarationLint.CommandLine

inductive OptionKey where
  | format
  | config
  | rule
  | includeHeaders
  | workers
  | verbose
deriving DecidableEq, Repr

structure OptionSpec where
  key : OptionKey
  long : String
  short : Option Char
  takesValue : Bool
deriving DecidableEq, Repr

/-- The options of the command that analyzes files. -/
def analyzeOptions : List OptionSpec :=
  [⟨.format, "--format", some 'f', true⟩,
   ⟨.config, "--config", some 'c', true⟩,
   ⟨.rule, "--rule", some 'r', true⟩,
   ⟨.includeHeaders, "--include-headers", none, false⟩,
   ⟨.workers, "--workers", some 'j', true⟩,
   ⟨.verbose, "--verbose", some 'v', false⟩]

/-- An option with its value, which is empty for options that take none. -/
abbrev Setting := OptionKey × String

/-- What one argument gives: settings, and perhaps an option that waits for its value. -/
structure OptionReading where
  settings : List Setting
  awaiting : Option OptionKey
deriving DecidableEq, Repr

/-- Short options run together. -/
def readCluster (specs : List OptionSpec) : List Char → Except UsageError OptionReading
  | [] => .ok ⟨[], none⟩
  | c :: rest =>
    match specs.find? (·.short = some c) with
    | none => .error .noSuchOption
    | some spec =>
      if spec.takesValue then
        if rest = [] then .ok ⟨[], some spec.key⟩
        else .ok ⟨[(spec.key, String.ofList rest)], none⟩
      else
        (readCluster specs rest).map fun reading =>
          { reading with settings := (spec.key, "") :: reading.settings }

/-- One argument that starts with a dash. -/
def readOption (specs : List OptionSpec) (argument : List Char) :
    Except UsageError OptionReading :=
  let name := argument.takeWhile (· ≠ '=')
  let value := argument.dropWhile (· ≠ '=')
  match specs.find? (·.long.toList = name) with
  | some spec =>
    match spec.takesValue, value with
    | true, [] => .ok ⟨[], some spec.key⟩
    | true, _ :: given => .ok ⟨[(spec.key, String.ofList given)], none⟩
    | false, [] => .ok ⟨[(spec.key, "")], none⟩
    | false, _ :: _ => .error .badOptionUse
  | none =>
    if ['-', '-'].isPrefixOf argument then .error .noSuchOption
    else readCluster specs (argument.drop 1)

def isOption (argument : String) : Bool :=
  argument.toList.head? = some '-' && 1 < argument.length

/-- Options and targets, each in the order given. -/
structure Arguments where
  settings : List Setting
  targets : List String
deriving DecidableEq, Repr

namespace Arguments

def addTarget (target : String) (arguments : Arguments) : Arguments :=
  { arguments with targets := target :: arguments.targets }

def addSettings (settings : List Setting) (arguments : Arguments) : Arguments :=
  { arguments with settings := settings ++ arguments.settings }

def parse (specs : List OptionSpec) : List String → Except UsageError Arguments
  | [] => .ok ⟨[], []⟩
  | argument :: rest =>
    if argument = "--" then .ok ⟨[], rest⟩
    else if isOption argument then
      match readOption specs argument.toList with
      | .error error => .error error
      | .ok ⟨settings, none⟩ => (parse specs rest).map (addSettings settings)
      | .ok ⟨settings, some key⟩ =>
        match rest with
        | [] => .error .badOptionUse
        | value :: following =>
          (parse specs following).map (addSettings (settings ++ [(key, value)]))
    else (parse specs rest).map (addTarget argument)

/-- All values of an option, in order. -/
def valuesOf (arguments : Arguments) (key : OptionKey) : List String :=
  (arguments.settings.filter (·.1 = key)).map Prod.snd

/-- The value of an option that counts once: the last one given. -/
def lastOf? (arguments : Arguments) (key : OptionKey) : Option String :=
  (arguments.valuesOf key).getLast?

def has (arguments : Arguments) (key : OptionKey) : Bool :=
  !(arguments.valuesOf key).isEmpty

end Arguments

def formatOf (arguments : Arguments) : Except UsageError OutputFormat :=
  match arguments.lastOf? .format with
  | none => .ok .text
  | some name =>
    match OutputFormat.ofName? name with
    | some format => .ok format
    | none => .error (.badParameter none)

/-- The number of workers has to be an integer from one up, in the lenient form of numbers. -/
def workersOf (arguments : Arguments) : Except UsageError Nat :=
  match arguments.lastOf? .workers with
  | none => .ok 1
  | some value =>
    match WholeNumber.read value with
    | .ok workers => if 1 ≤ workers then .ok workers.toNat else .error (.badParameter none)
    | .error _ => .error (.badParameter none)

def requestOf (arguments : Arguments) : Except UsageError AnalyzeRequest := do
  let format ← formatOf arguments
  let workers ← workersOf arguments
  if arguments.targets = [] then throw .missingParameter
  pure
    { targets := arguments.targets
      format := format
      overrides := arguments.valuesOf .config
      rules := arguments.valuesOf .rule
      includeHeaders := arguments.has .includeHeaders
      workers := workers }

def commandNamed (name : String) (rest : List String) : Except UsageError Command :=
  if name = "analyze" then do
    let arguments ← Arguments.parse analyzeOptions rest
    .ok (.analyze (← requestOf arguments))
  else if name = "rules" then do
    let arguments ← Arguments.parse [] rest
    if arguments.targets = [] then .ok .listRules else .error .misuse
  else .error .misuse

/-- The command is the first argument, or the first after two dashes. The program itself takes
no options, so what looks like one in that place is an unknown one. -/
def parseCommand : List String → Except UsageError Command
  | [] | ["--"] | "--" :: "--" :: _ => .error .misuse
  | "--" :: name :: rest | name :: rest =>
    if isOption name then .error .noSuchOption else commandNamed name rest

def isReadable : FileTree → Bool
  | .file readable _ | .special readable _ => readable
  | .directory rights _ => rights.list
  | .link _ => false

/-- The path of the place that a target leads to, if something is there that can be read. -/
def resolveTarget (disk : Disk) (target : String) : Except Failure String :=
  match (Path.parse target).defect? with
  | some defect => .error (.unusablePath defect)
  | none =>
    let path := (disk.resolve (.parse target)).toPath
    match disk.locate path with
    | .ok found =>
      if isReadable found then .ok path.render else .error (.usage (.badParameter none))
    | .error _ => .error (.usage (.badParameter none))

def readArguments : ArgumentReader := fun disk arguments =>
  match parseCommand arguments with
  | .error error => .error (.usage error)
  | .ok (.analyze request) =>
    (request.targets.mapM (resolveTarget disk)).map fun targets =>
      .analyze { request with targets := targets }
  | .ok .listRules => .ok .listRules

end DeclarationLint.CommandLine
