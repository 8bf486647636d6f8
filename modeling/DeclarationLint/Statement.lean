import DeclarationLint.Location
import DeclarationLint.Vocabulary

/-!
# Statements and their count

The statements of a body form trees. Their count takes every statement at any depth, except
for blocks, empty statements and comments, whose content counts all the same.
-/
namespace DeclarationLint

inductive StatementKind where
  | expression | declaration | returning | ifThen | otherwise | loop | switch | case | jump
  | label | block | empty | comment | other
deriving DecidableEq, Repr

namespace StatementKind

def word : StatementKind → String
  | expression => "expression"
  | declaration => "declaration"
  | returning => "return"
  | ifThen => "if"
  | otherwise => "else"
  | loop => "loop"
  | switch => "switch"
  | case => "case"
  | jump => "jump"
  | label => "label"
  | block => "block"
  | empty => "empty"
  | comment => "comment"
  | other => "other"

instance : Vocabulary StatementKind where
  title := "StatementKind"
  all := [expression, declaration, returning, ifThen, otherwise, loop, switch, case, jump,
    label, block, empty, comment, other]
  word := word

/-- Braces, stray semicolons and comments are no statements of their own. -/
def counts : StatementKind → Bool
  | block | empty | comment => false
  | _ => true

end StatementKind

structure Statement where
  kind : StatementKind
  span : Span
  children : List Statement
deriving Repr

namespace Statement

mutual

/-- The statement and everything below it, parents first. -/
def walk : Statement → List Statement
  | ⟨kind, span, children⟩ => ⟨kind, span, children⟩ :: walkAll children

def walkAll : List Statement → List Statement
  | [] => []
  | statement :: rest => walk statement ++ walkAll rest

end

mutual

/-- How many statements one statement amounts to, itself included. -/
def ncss : Statement → Nat
  | ⟨kind, _, children⟩ => (if kind.counts then 1 else 0) + ncssAll children

def ncssAll : List Statement → Nat
  | [] => 0
  | statement :: rest => ncss statement + ncssAll rest

end

end Statement
end DeclarationLint
