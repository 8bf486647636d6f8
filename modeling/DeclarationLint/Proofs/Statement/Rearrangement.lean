import DeclarationLint.Proofs.Statement
import Mathlib.Algebra.BigOperators.Group.Multiset.Basic
import Mathlib.Logic.Relation

/-!
# Rearranging statements

What a body counts is how many statements of the counting kinds there are in it at any depth. It
does not matter how they are nested or ordered: blocks, empty statements and comments can be taken
away around what is in them, statements can be put into a block, and statements that stand side by
side can change places, at the top of a body and at any depth.
-/
namespace DeclarationLint.Statement

/-- One step that rearranges a list of statements, somewhere in it. -/
inductive Rearranges : List Statement → List Statement → Prop
  | unwrap {kind : StatementKind} (span : Span) (before children after : List Statement)
      (silent : kind = .block ∨ kind = .empty ∨ kind = .comment) :
      Rearranges (before ++ ⟨kind, span, children⟩ :: after) (before ++ children ++ after)
  | wrap (span : Span) (before run after : List Statement) :
      Rearranges (before ++ run ++ after) (before ++ ⟨.block, span, run⟩ :: after)
  | permute {statements others : List Statement} (moved : statements.Perm others) :
      Rearranges statements others
  | inside {children others : List Statement} (kind : StatementKind) (span : Span)
      (before after : List Statement) (step : Rearranges children others) :
      Rearranges (before ++ ⟨kind, span, children⟩ :: after)
        (before ++ ⟨kind, span, others⟩ :: after)

/-- The statements at any depth that count, each as its kind and its range. -/
def counting (statements : List Statement) : Multiset (StatementKind × Span) :=
  ((walkAll statements).filter (·.kind.counts)).map fun statement =>
    (statement.kind, statement.span)

theorem ncssAll_eq_card (statements : List Statement) :
    ncssAll statements = (counting statements).card := by
  rw [ncssAll_eq_countP, List.countP_eq_length_filter, counting, Multiset.coe_card, List.length_map]

theorem walkAll_append (statements others : List Statement) :
    walkAll (statements ++ others) = walkAll statements ++ walkAll others := by
  induction statements with
  | nil => rfl
  | cons statement rest ih => rw [List.cons_append, walkAll, ih, walkAll, List.append_assoc]

theorem counting_append (statements others : List Statement) :
    counting (statements ++ others) = counting statements + counting others := by
  rw [counting, walkAll_append, List.filter_append, List.map_append, ← Multiset.coe_add]
  rfl

theorem counting_cons (kind : StatementKind) (span : Span) (children rest : List Statement) :
    counting (⟨kind, span, children⟩ :: rest) =
      (if kind.counts then {(kind, span)} else 0) + counting children + counting rest := by
  rw [counting, walkAll, walk, List.cons_append, ← walkAll_append, List.filter_cons, add_assoc,
    ← counting_append]
  by_cases counts : kind.counts = true
  · rw [if_pos counts, if_pos counts]
    rfl
  · rw [if_neg counts, if_neg counts, zero_add]
    rfl

theorem counting_perm {statements others : List Statement} (moved : statements.Perm others) :
    counting statements = counting others := by
  induction moved with
  | nil => rfl
  | cons statement _ ih =>
    obtain ⟨kind, span, children⟩ := statement
    rw [counting_cons, counting_cons, ih]
  | swap first second rest =>
    change counting ([second] ++ [first] ++ rest) = counting ([first] ++ [second] ++ rest)
    rw [counting_append, counting_append, counting_append, counting_append,
      add_comm (counting [second])]
  | trans _ _ first second => exact first.trans second

/-- What does not count itself can go, if what is in it stays. -/
theorem counting_unwrap {kind : StatementKind} (span : Span)
    (before children after : List Statement)
    (silent : kind = .block ∨ kind = .empty ∨ kind = .comment) :
    counting (before ++ ⟨kind, span, children⟩ :: after) =
      counting (before ++ children ++ after) := by
  have uncounted : kind.counts = false := by
    rcases silent with rfl | rfl | rfl <;> rfl
  rw [counting_append, counting_cons, uncounted, if_neg Bool.false_ne_true, zero_add,
    counting_append, counting_append, add_assoc]

/-- A step loses no statement that counts, and adds none. -/
theorem Rearranges.counting_eq {statements others : List Statement}
    (step : Rearranges statements others) : counting statements = counting others := by
  induction step with
  | unwrap span before children after silent =>
    exact counting_unwrap span before children after silent
  | wrap span before run after =>
    exact (counting_unwrap span before run after (Or.inl rfl)).symm
  | permute moved => exact counting_perm moved
  | inside kind span before after _ ih =>
    rw [counting_append, counting_append, counting_cons, counting_cons, ih]

/-- Any number of steps, in either direction. -/
theorem counting_eq_of_eqvGen {statements others : List Statement}
    (steps : Relation.EqvGen Rearranges statements others) :
    counting statements = counting others := by
  induction steps with
  | rel _ _ step => exact step.counting_eq
  | refl _ => rfl
  | symm _ _ _ ih => exact ih.symm
  | trans _ _ _ _ _ first second => exact first.trans second

/-- The count of a statement is the number of statements on a walk through it that are no blocks,
empty statements or comments. Lists of statements that come from each other by rearranging have the
same statements that count, and lists with the same kinds of these have the same count. -/
theorem ncss_rearranged :
    (∀ statement : Statement, statement.ncss = statement.walk.countP fun inner =>
        inner.kind ≠ .block ∧ inner.kind ≠ .empty ∧ inner.kind ≠ .comment) ∧
      (∀ statements others : List Statement,
        Relation.EqvGen Rearranges statements others →
          counting statements = counting others ∧ ncssAll statements = ncssAll others) ∧
      ∀ statements others : List Statement,
        (counting statements).map Prod.fst = (counting others).map Prod.fst →
          ncssAll statements = ncssAll others := by
  refine ⟨?_, ?_, ?_⟩
  · intro statement
    simp only [ncss_eq_countP, StatementKind.counts_eq_decide]
  · intro statements others steps
    have same := counting_eq_of_eqvGen steps
    exact ⟨same, by rw [ncssAll_eq_card, ncssAll_eq_card, same]⟩
  · intro statements others kinds
    rw [ncssAll_eq_card, ncssAll_eq_card, ← Multiset.card_map Prod.fst, kinds, Multiset.card_map]

def leaf (kind : StatementKind) : Statement := ⟨kind, .between "a.c" 1 1 9 2, []⟩

/-- A declaration, and a condition whose consequence is a block with some statements. -/
def declaredThenIf (consequence : List Statement) : List Statement :=
  [leaf .declaration,
    ⟨.ifThen, .between "a.c" 1 1 9 2, [⟨.block, .between "a.c" 1 1 9 2, consequence⟩]⟩]

theorem Rearranges.declaredThenIf {consequence others : List Statement}
    (step : Rearranges consequence others) :
    Rearranges (declaredThenIf consequence) (declaredThenIf others) :=
  .inside .ifThen _ [leaf .declaration] [] (.inside .block _ [] [] step)

theorem ncss_rearranged_nested :
    Relation.EqvGen Rearranges
        (declaredThenIf [leaf .comment, ⟨.block, .empty, [leaf .expression]⟩, leaf .returning])
        (declaredThenIf [leaf .returning, leaf .expression]) ∧
      ncssAll (declaredThenIf
          [leaf .comment, ⟨.block, .empty, [leaf .expression]⟩, leaf .returning]) =
        ncssAll (declaredThenIf [leaf .returning, leaf .expression]) ∧
      (counting (declaredThenIf [leaf .returning, leaf .expression])).map Prod.fst =
        (counting [leaf .returning, leaf .ifThen, leaf .empty, leaf .expression,
          leaf .declaration]).map Prod.fst ∧
      ncssAll (declaredThenIf [leaf .returning, leaf .expression]) =
        ncssAll [leaf .returning, leaf .ifThen, leaf .empty, leaf .expression,
          leaf .declaration] := by
  obtain ⟨-, rearranged, sameKinds⟩ := ncss_rearranged
  have uncommented := Rearranges.unwrap (leaf .comment).span [] []
    [⟨.block, .empty, [leaf .expression]⟩, leaf .returning] (Or.inr (Or.inr rfl))
  have unblocked := Rearranges.unwrap .empty [] [leaf .expression] [leaf .returning] (Or.inl rfl)
  have swapped := Rearranges.permute (List.Perm.swap (leaf .returning) (leaf .expression) [])
  have steps := Relation.EqvGen.trans _ _ _ (.rel _ _ uncommented.declaredThenIf)
    (.trans _ _ _ (.rel _ _ unblocked.declaredThenIf) (.rel _ _ swapped.declaredThenIf))
  have kinds : (counting (declaredThenIf [leaf .returning, leaf .expression])).map Prod.fst =
      (counting [leaf .returning, leaf .ifThen, leaf .empty, leaf .expression,
        leaf .declaration]).map Prod.fst := by decide
  exact ⟨steps, (rearranged _ _ steps).2, kinds, sameKinds _ _ kinds⟩

end DeclarationLint.Statement
