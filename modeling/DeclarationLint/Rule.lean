import DeclarationLint.Journal
import DeclarationLint.Rule.Visit
import DeclarationLint.Settings.Cache

/-!
# Rules and their runs

A rule has an identity and a visit. A run walks the declarations of one file, parents before
members; the answer of a visit tells whether the walk goes on into the members. Declarations
of kinds that are not visited are passed through.
-/
namespace DeclarationLint

structure Rule where
  identifier : String
  name : String
  severity : Severity
  category : Category
  description : String
  /-- What the rule does at a declaration, and whether to go on into its members. -/
  visit : Declaration → Visit Bool

/-- Settings for a whole run, by key. -/
abbrev RunSettings := KeyedList String Value

/-- The settings in force at one place: those of the line come before those of the run. -/
structure SettingSources where
  line : KeyedList String Value
  run : RunSettings

namespace SettingSources

/-- The raw values of a key in the order in which they are tried. -/
def candidates (sources : SettingSources) (key : String) : List Value :=
  (sources.line.get? key).toList ++ (sources.run.get? key).toList

/-- The first candidate that converts to the type of the default, or the default. -/
def firstConvertible (default : Value) : List Value → Except NumberOverflow Value
  | [] => .ok default
  | raw :: rest =>
    match default.convertLike? raw with
    | .error overflow => .error overflow
    | .ok (some value) => .ok value
    | .ok none => firstConvertible default rest

def resolve (sources : SettingSources) (key : String) (default : Value) :
    Except NumberOverflow Value :=
  firstConvertible default (sources.candidates key)

end SettingSources

/-- Where a visit finds its settings: the comments of the file, the run as a whole, and the
declaration being visited, if any, on whose first line the comments are looked for. -/
structure RuleContext where
  settings : Settings
  runSettings : RunSettings
  current : Option Declaration

namespace RuleContext

/-- The settings of the line on which the declaration being visited starts. -/
def lineSettings (context : RuleContext) : KeyedList String String :=
  match context.current with
  | none => .empty
  | some declaration => context.settings.configurationAt declaration.line

def sources (context : RuleContext) : SettingSources :=
  ⟨context.lineSettings.mapValues .text, context.runSettings⟩

def resolve (context : RuleContext) (key : String) (default : Value) :
    Except NumberOverflow Value :=
  context.sources.resolve key default

end RuleContext

/-- What a run writes down as it goes: the visits it makes, and what they come to. -/
inductive Finding where
  | visit (declaration : Declaration)
  | issue (issue : Issue)
  | event (event : Event)
deriving Repr

namespace Finding

def visit? : Finding → Option Declaration
  | visit declaration => some declaration
  | _ => none

def issue? : Finding → Option Issue
  | issue found => some found
  | _ => none

def event? : Finding → Option Event
  | event noted => some noted
  | _ => none

end Finding

namespace Rule

/-- The issue that a report makes, unless its first line is silent for the rule. -/
def issue? (rule : Rule) (settings : Settings) (span : Span) (description : String)
    (correction : Option Correction) : Option Issue :=
  if settings.isSuppressed span.start.line rule.identifier then none
  else some
    { rule := rule.identifier
      description := description
      category := rule.category
      severity := rule.severity
      span := span
      correction := correction }

/-- Carries out the program of one visit. -/
def perform {α : Type} (rule : Rule) (context : RuleContext) :
    Visit α → Journal Finding Fault α
  | .done answer => pure answer
  | .fail fault => Journal.fail fault
  | .lookup key default next =>
    match context.resolve key default with
    | .error overflow => Journal.fail (.overflow overflow)
    | .ok value => rule.perform context (next value)
  | .report span description correction next => do
    match rule.issue? context.settings span description correction with
    | none => pure ()
    | some issue => Journal.write (.issue issue)
    rule.perform context next
  | .note event next => do
    Journal.write (.event event)
    rule.perform context next

/-- Visits one declaration. -/
def visitOne (rule : Rule) (settings : Settings) (runSettings : RunSettings)
    (declaration : Declaration) : Journal Finding Fault Bool := do
  Journal.write (.visit declaration)
  rule.perform ⟨settings, runSettings, some declaration⟩ (rule.visit declaration)

mutual

def walk (rule : Rule) (settings : Settings) (runSettings : RunSettings) :
    Declaration → Journal Finding Fault Unit
  | ⟨kind, name, span, body, members⟩ => do
    let descend ←
      if kind.isVisited then
        rule.visitOne settings runSettings ⟨kind, name, span, body, members⟩
      else pure true
    if descend then rule.walkAll settings runSettings members

def walkAll (rule : Rule) (settings : Settings) (runSettings : RunSettings) :
    List Declaration → Journal Finding Fault Unit
  | [] => pure ()
  | declaration :: rest => do
    rule.walk settings runSettings declaration
    rule.walkAll settings runSettings rest

end

/-- The outcome of a walk: its events, and its issues unless it failed. -/
def outcome (walked : Journal Finding Fault Unit) : Journal Event Fault (List Issue) :=
  ⟨walked.entries.filterMap Finding.event?,
    walked.result.map fun _ => walked.entries.filterMap Finding.issue?⟩

/-- Checks a file whose settings are known. -/
def check (rule : Rule) (runSettings : RunSettings) (settings : Settings) (file : SourceFile) :
    Journal Event Fault (List Issue) :=
  outcome (rule.walkAll settings runSettings file.declarations)

/-- Checks a file with the settings that the cache has for it. The cache that is left holds
them, however the check ends. -/
def run (rule : Rule) (runSettings : RunSettings) (cache : SettingsCache) (file : SourceFile) :
    SettingsCache × Journal Event Fault (List Issue) :=
  let (reading, cache) := cache.settingsFor file
  (cache, rule.check runSettings reading.settings file)

end Rule
end DeclarationLint
