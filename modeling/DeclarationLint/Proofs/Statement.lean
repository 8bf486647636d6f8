import DeclarationLint.Declaration
import Mathlib.Data.List.Basic

/-!
# Counting statements

The count of a body goes down its trees and adds up as it comes back. It is the number of
statements that a walk through the body meets and that are no blocks, empty statements or
comments.
-/
namespace DeclarationLint

theorem StatementKind.counts_eq_decide (kind : StatementKind) :
    kind.counts = decide (kind ≠ .block ∧ kind ≠ .empty ∧ kind ≠ .comment) := by
  cases kind <;> rfl

namespace Statement

mutual

theorem ncss_eq_countP (statement : Statement) :
    statement.ncss = statement.walk.countP (·.kind.counts) := by
  obtain ⟨kind, span, children⟩ := statement
  rw [ncss, walk, List.countP_cons, ncssAll_eq_countP children, Nat.add_comm]

theorem ncssAll_eq_countP (statements : List Statement) :
    ncssAll statements = (walkAll statements).countP (·.kind.counts) := by
  cases statements with
  | nil => rfl
  | cons statement rest =>
    rw [ncssAll, walkAll, List.countP_append, ncss_eq_countP statement, ncssAll_eq_countP rest]

end

theorem ncssAll_append (statements others : List Statement) :
    ncssAll (statements ++ others) = ncssAll statements + ncssAll others := by
  induction statements with
  | nil => exact (Nat.zero_add _).symm
  | cons statement rest ih => rw [List.cons_append, ncssAll, ih, ncssAll, Nat.add_assoc]

/-- Statements that come from a list of names count as much more or less as those from the one
name for which they differ. -/
theorem ncssAll_flatMap_of_single_change {names : List String} {inside other : String → List Statement}
    {changed : String} (unique : names.Nodup) (member : changed ∈ names)
    (others : ∀ name, name ≠ changed → other name = inside name) :
    ncssAll (names.flatMap other) + ncssAll (inside changed) =
      ncssAll (names.flatMap inside) + ncssAll (other changed) := by
  induction names with
  | nil => cases member
  | cons head tail ih =>
    obtain ⟨absent, nodup⟩ := List.nodup_cons.mp unique
    rw [List.flatMap_cons, List.flatMap_cons, ncssAll_append, ncssAll_append]
    by_cases here : head = changed
    · subst here
      have same : tail.flatMap other = tail.flatMap inside := by
        apply List.flatMap_congr
        intro name later
        exact others name fun equal => absent (equal ▸ later)
      rw [same]
      omega
    · have later : changed ∈ tail := (List.mem_cons.mp member).resolve_left fun equal =>
        here equal.symm
      have tailChange := ih nodup later
      rw [others head here]
      omega

theorem mem_walkAll_iff {statements : List Statement} {inner : Statement} :
    inner ∈ walkAll statements ↔ ∃ statement ∈ statements, inner ∈ statement.walk := by
  induction statements with
  | nil => simp [walkAll]
  | cons statement rest ih => simp [walkAll, ih]

end Statement

namespace Declaration

/-- The statements of the body at any depth. -/
def statements (declaration : Declaration) : List Statement :=
  Statement.walkAll (declaration.body.getD [])

/-- How many statements of the body are more than braces, stray semicolons and comments. -/
def statementCount (declaration : Declaration) : Nat :=
  declaration.statements.countP fun statement =>
    statement.kind ≠ .block ∧ statement.kind ≠ .empty ∧ statement.kind ≠ .comment

theorem ncss_eq_statementCount (declaration : Declaration) :
    declaration.ncss = declaration.statementCount := by
  unfold ncss statementCount statements
  simp only [← StatementKind.counts_eq_decide]
  cases declaration.body with
  | none => rfl
  | some body => exact Statement.ncssAll_eq_countP body

mutual

/-- A declaration and all declarations inside it, parents before members. -/
def preorder : Declaration → List Declaration
  | ⟨kind, name, span, body, members⟩ =>
    ⟨kind, name, span, body, members⟩ :: preorderAll members

def preorderAll : List Declaration → List Declaration
  | [] => []
  | declaration :: rest => preorder declaration ++ preorderAll rest

end

end Declaration
end DeclarationLint
