import DeclarationLint.Rule

/-!
# Scripted rules

Rules given by a table instead of code: which kinds of declaration they report, which names
they do not go into, at which names they give up, and which setting they ask for.
-/
namespace DeclarationLint

structure RuleScript where
  identifier : String
  severity : Severity
  category : Category
  /-- Declarations of the kinds with these words are reported. -/
  reported : List String
  /-- The members of declarations with these names are passed over. -/
  closed : List String
  /-- A visit of a declaration with one of these names fails. -/
  faulty : List String
  /-- A key that every visit looks up, with its default. -/
  setting : Option (String × Value)
  /-- What reports suggest. -/
  correction : Option String
  /-- Reports without a suggestion have no description either. -/
  bare : Bool
deriving Repr

namespace RuleScript

def report (script : RuleScript) (declaration : Declaration) : Visit Unit :=
  let description := "saw " ++ declaration.name
  match script.correction with
  | some suggestion => Visit.issue declaration.span description (some ⟨suggestion, none⟩)
  | none => Visit.issue declaration.span (if script.bare then "" else description) none

def visit (script : RuleScript) (declaration : Declaration) : Visit Bool :=
  if declaration.name ∈ script.faulty then
    Visit.fail (.malformedTree (.reported ("fault at " ++ declaration.name)))
  else do
    let value ← match script.setting with
      | none => pure none
      | some (key, default) => some <$> Visit.setting key default
    Visit.noted ⟨script.identifier, declaration.kind, declaration.name, value⟩
    if declaration.kind.word ∈ script.reported then
      script.report declaration
    pure (declaration.name ∉ script.closed)

def rule (script : RuleScript) : Rule where
  identifier := script.identifier
  name := script.identifier
  severity := script.severity
  category := script.category
  description := ""
  visit := script.visit

end RuleScript
end DeclarationLint
