import DeclarationLint.Rule

/-!
# The statement count rule

Reports functions whose body has more statements than a threshold. The threshold is a
setting, so a comment on the first line of a function can raise it for that function alone.
-/
namespace DeclarationLint.Rule.StatementCount

def thresholdKey : String := "NCSS"

def defaultThreshold : Int := 30

def describe (count : Nat) (threshold : Int) : String :=
  s!"Method of {count} NCSS exceeds limit of {threshold}"

def visit (declaration : Declaration) : Visit Bool :=
  if declaration.kind.isCallable then do
    let threshold ← Visit.integerSetting thresholdKey defaultThreshold
    if threshold < declaration.ncss then
      Visit.issue declaration.span (describe declaration.ncss threshold) none
    pure true
  else pure true

def rule : Rule where
  identifier := "high_ncss"
  name := "High Non-Commenting Source Statements"
  severity := .major
  category := .readability
  description := "Counts the statements of a method body, ignoring braces, empty " ++
    "statements and comments. Long methods are harder to read and test."
  visit := visit

end DeclarationLint.Rule.StatementCount
