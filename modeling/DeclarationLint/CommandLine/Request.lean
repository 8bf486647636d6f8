/-!
# Requests

What the command line asks for, once its arguments are read.
-/
namespace DeclarationLint.CommandLine

inductive UsageError where
  /-- No command, an unknown one, or arguments that a command has no use for. -/
  | misuse
  | noSuchOption
  /-- An option without its value, or with one that it does not take. -/
  | badOptionUse
  | missingParameter
  | badParameter (message : Option String)
deriving DecidableEq, Repr

inductive OutputFormat where
  | text
  | console
deriving DecidableEq, Repr

def OutputFormat.ofName? : String → Option OutputFormat
  | "text" => some text
  | "console" => some console
  | _ => none

/-- What the command that analyzes files is asked to do. Its targets are paths. -/
structure AnalyzeRequest where
  targets : List String
  format : OutputFormat
  overrides : List String
  rules : List String
  includeHeaders : Bool
  workers : Nat
deriving DecidableEq, Repr

inductive Command where
  | analyze (request : AnalyzeRequest)
  | listRules
deriving DecidableEq, Repr

end DeclarationLint.CommandLine
