import DeclarationLint.Statement

/-!
# Declarations and source files

A source file is the tree of its declarations together with all of its comments.
-/
namespace DeclarationLint

inductive DeclarationKind where
  | function | initializer | deinitializer | subscript | typeDefinition | binding | other
deriving DecidableEq, Repr

namespace DeclarationKind

def word : DeclarationKind → String
  | function => "function"
  | initializer => "initializer"
  | deinitializer => "deinitializer"
  | subscript => "subscript"
  | typeDefinition => "type"
  | binding => "variable"
  | other => "other"

instance : Vocabulary DeclarationKind where
  title := "DeclarationKind"
  all := [function, initializer, deinitializer, subscript, typeDefinition, binding, other]
  word := word

/-- Rules look at declarations of these kinds and pass through the others. -/
def isVisited : DeclarationKind → Bool
  | binding | other => false
  | _ => true

/-- Kinds whose declarations have a body to measure. -/
def isCallable : DeclarationKind → Bool
  | function | initializer | deinitializer | subscript => true
  | _ => false

end DeclarationKind

/-- A comment as written, and the line it starts on. -/
structure Comment where
  line : Int
  text : String
deriving DecidableEq, Repr

/-- One declaration. Prototypes and variables have no body; members are the declarations
inside, such as the methods of a type. -/
structure Declaration where
  kind : DeclarationKind
  name : String
  span : Span
  body : Option (List Statement)
  members : List Declaration
deriving Repr

namespace Declaration

def line (declaration : Declaration) : Int := declaration.span.start.line

/-- The statement count of the body, which is nothing without a body. -/
def ncss (declaration : Declaration) : Nat :=
  match declaration.body with
  | none => 0
  | some statements => Statement.ncssAll statements

end Declaration

structure SourceFile where
  identifier : String
  declarations : List Declaration
  comments : List Comment
deriving Repr

end DeclarationLint
