import DeclarationLint.Location

/-!
# Syntax trees

What a parser makes of a C file. Every node covers a range of the file's bytes; named nodes
are the constructs of the language and the others its punctuation.
-/
namespace DeclarationLint

structure Node where
  type : String
  named : Bool
  /-- The role of the node in its parent, if the grammar gives it one. -/
  field : Option String
  start : Point
  stop : Point
  firstByte : Nat
  endByte : Nat
  children : List Node
deriving Repr

namespace Node

/-- The first child in a role. -/
def childIn? (node : Node) (role : String) : Option Node :=
  node.children.find? (·.field = some role)

def namedChildren (node : Node) : List Node := node.children.filter Node.named

def span (file : String) (node : Node) : Span :=
  ⟨node.start.toLocation file, node.stop.toLocation file⟩

/-- The bytes that a node covers, as far as the file has them. -/
def bytes (source : List UInt8) (node : Node) : List UInt8 :=
  (source.drop node.firstByte).take (node.endByte - node.firstByte)

end Node

structure SyntaxTree where
  /-- Whether some part of the file could not be parsed. -/
  hasError : Bool
  root : Node
deriving Repr

/-- The tree of a file without content. -/
def SyntaxTree.empty : SyntaxTree :=
  ⟨false, ⟨"unit", true, none, ⟨0, 0⟩, ⟨0, 0⟩, 0, 0, []⟩⟩

end DeclarationLint
