import DeclarationLint.Rule.StatementCount

/-!
# Rules by kind

A rule has a method for each kind of declaration that is visited. The methods that it leaves out
do nothing and go on into the members.
-/
namespace DeclarationLint

structure Visitors where
  function : Declaration → Visit Bool := fun _ => pure true
  initializer : Declaration → Visit Bool := fun _ => pure true
  deinitializer : Declaration → Visit Bool := fun _ => pure true
  subscript : Declaration → Visit Bool := fun _ => pure true
  typeDefinition : Declaration → Visit Bool := fun _ => pure true

namespace Visitors

/-- The method for a kind, if declarations of this kind are visited. -/
def method? (visitors : Visitors) : DeclarationKind → Option (Declaration → Visit Bool)
  | .function => some visitors.function
  | .initializer => some visitors.initializer
  | .deinitializer => some visitors.deinitializer
  | .subscript => some visitors.subscript
  | .typeDefinition => some visitors.typeDefinition
  | .binding | .other => none

/-- The same method for all kinds. -/
def all (visit : Declaration → Visit Bool) : Visitors := ⟨visit, visit, visit, visit, visit⟩

theorem eq_of_mem_method?_all {visit method : Declaration → Visit Bool} {kind : DeclarationKind}
    (member : method ∈ (all visit).method? kind) : method = visit := by
  cases kind with
  | binding | other => cases member
  | function | initializer | deinitializer | subscript | typeDefinition =>
    exact (Option.some.inj member).symm

theorem isSome_method? (visitors : Visitors) (kind : DeclarationKind) :
    (visitors.method? kind).isSome = kind.isVisited := by
  cases kind <;> rfl

end Visitors

namespace Rule

/-- At every declaration that is visited, the rule does what its method for the kind says. -/
def HasVisitors (rule : Rule) (visitors : Visitors) : Prop :=
  ∀ declaration, ∀ method ∈ visitors.method? declaration.kind,
    rule.visit declaration = method declaration

/-- There are such methods for every rule. -/
theorem hasVisitors_all (rule : Rule) : rule.HasVisitors (.all rule.visit) := by
  intro declaration method member
  rw [Visitors.eq_of_mem_method?_all member]

/-- The statement count rule measures all that has a body, and passes over types. -/
def StatementCount.visitors : Visitors where
  function := StatementCount.visit
  initializer := StatementCount.visit
  deinitializer := StatementCount.visit
  subscript := StatementCount.visit

theorem StatementCount.hasVisitors : StatementCount.rule.HasVisitors StatementCount.visitors := by
  intro declaration method member
  change StatementCount.visit declaration = method declaration
  unfold Visitors.method? at member
  cases kind : declaration.kind with
  | binding | other =>
    rw [kind] at member
    cases member
  | typeDefinition =>
    rw [kind] at member
    obtain rfl := Option.some.inj member
    unfold StatementCount.visit
    rw [kind]
    rfl
  | function | initializer | deinitializer | subscript =>
    rw [kind] at member
    obtain rfl := Option.some.inj member
    rfl

end Rule
end DeclarationLint
