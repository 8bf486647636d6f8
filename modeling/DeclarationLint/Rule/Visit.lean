import DeclarationLint.Declaration
import DeclarationLint.Fault
import DeclarationLint.Issue

/-!
# Visits

What a rule does at one declaration, as a program. A visit can ask for a setting, report an
issue and note an event, and it ends with an answer or a fault; it has no other way to see or
change the run it is part of.
-/
namespace DeclarationLint

/-- Something a visit notes about itself for whoever follows the run. -/
structure Event where
  rule : String
  kind : DeclarationKind
  name : String
  value : Option Value
deriving Repr

inductive Visit (α : Type) where
  | done (answer : α)
  | fail (fault : Fault)
  | lookup (key : String) (default : Value) (next : Value → Visit α)
  | report (span : Span) (description : String) (correction : Option Correction)
      (next : Visit α)
  | note (event : Event) (next : Visit α)

namespace Visit

variable {α β : Type}

protected def bind : Visit α → (α → Visit β) → Visit β
  | done answer, rest => rest answer
  | fail fault, _ => fail fault
  | lookup key default next, rest => lookup key default fun value => (next value).bind rest
  | report span description correction next, rest =>
    report span description correction (next.bind rest)
  | note event next, rest => note event (next.bind rest)

instance : Monad Visit where
  pure := done
  bind := Visit.bind

/-- The setting under a key, in the type of the default. -/
def setting (key : String) (default : Value) : Visit Value := lookup key default done

/-- An integer setting. A value in the type of an integer default is an integer, so the
second case does not arise. -/
def integerSetting (key : String) (default : Int) : Visit Int :=
  lookup key (.integer default) fun
    | .integer value => done value
    | _ => done default

def issue (span : Span) (description : String) (correction : Option Correction) : Visit Unit :=
  report span description correction (done ())

def noted (event : Event) : Visit Unit := note event (done ())

end Visit
end DeclarationLint
