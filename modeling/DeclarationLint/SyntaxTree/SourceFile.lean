import DeclarationLint.Declaration
import DeclarationLint.Fault
import DeclarationLint.SyntaxTree
import DeclarationLint.Text.Utf8

/-!
# From syntax trees to source files

A source file has the outermost function definitions of its tree, wherever they stand, and
every comment. A body keeps those of its nodes that are statements; a node of another type is
left out with everything below it.
-/
namespace DeclarationLint.Node

def functionType : String := "function_definition"

def commentType : String := "comment"

def declaratorRole : String := "declarator"

def bodyRole : String := "body"

/-- The statements of C, by the type of their node. -/
def statementKinds : List (String × StatementKind) :=
  [("expression_statement", .expression),
   ("declaration", .declaration),
   ("type_definition", .declaration),
   ("return_statement", .returning),
   ("if_statement", .ifThen),
   ("else_clause", .otherwise),
   ("for_statement", .loop),
   ("while_statement", .loop),
   ("do_statement", .loop),
   ("switch_statement", .switch),
   ("case_statement", .case),
   ("break_statement", .jump),
   ("continue_statement", .jump),
   ("goto_statement", .jump),
   ("labeled_statement", .label),
   ("compound_statement", .block),
   ("comment", .comment)]

/-- Where the statements inside a statement stand. -/
inductive Nesting where
  | roles (names : List String)
  | namedChildren
  | none
deriving DecidableEq, Repr

/-- Conditions and the headers of loops hold no statements. -/
def nestingOf (type : String) : Nesting :=
  if type = "if_statement" then .roles ["consequence", "alternative"]
  else if type ∈ ["for_statement", "while_statement", "do_statement", "switch_statement"] then
    .roles [bodyRole]
  else if type ∈ ["compound_statement", "else_clause", "case_statement", "labeled_statement"] then
    .namedChildren
  else .none

/-- The kind of statement that a node is, if it is one. An expression statement without an
expression is a stray semicolon. -/
def statementKind? (type : String) (children : List Node) : Option StatementKind :=
  (statementKinds.lookup type).map fun kind =>
    if kind = .expression ∧ !children.any Node.named then .empty else kind

mutual

def toStatement? (file : String) : Node → Option Statement
  | ⟨type, named, field, start, stop, firstByte, endByte, children⟩ =>
    (statementKind? type children).map fun kind =>
      { kind := kind
        span := span file ⟨type, named, field, start, stop, firstByte, endByte, children⟩
        children := match nestingOf type with
          | .roles names => names.flatMap fun role => statementInRole file role children
          | .namedChildren => statementsAmong file children
          | .none => [] }

/-- The statements among the named nodes of a list. -/
def statementsAmong (file : String) : List Node → List Statement
  | [] => []
  | node :: rest =>
    (if node.named then (toStatement? file node).toList else []) ++ statementsAmong file rest

/-- The statement in a role, if the first node in that role is a statement. -/
def statementInRole (file role : String) : List Node → List Statement
  | [] => []
  | node :: rest =>
    if node.field = some role then (toStatement? file node).toList
    else statementInRole file role rest

end

mutual

/-- Function definitions at any depth, except for those inside other ones. -/
def outermostFunctions : Node → List Node
  | ⟨type, named, field, start, stop, firstByte, endByte, children⟩ =>
    if type = functionType then
      [⟨type, named, field, start, stop, firstByte, endByte, children⟩]
    else outermostFunctionsAmong children

def outermostFunctionsAmong : List Node → List Node
  | [] => []
  | node :: rest => outermostFunctions node ++ outermostFunctionsAmong rest

end

mutual

/-- The node and everything below it, parents first. -/
def walk : Node → List Node
  | ⟨type, named, field, start, stop, firstByte, endByte, children⟩ =>
    ⟨type, named, field, start, stop, firstByte, endByte, children⟩ :: walkAll children

def walkAll : List Node → List Node
  | [] => []
  | node :: rest => walk node ++ walkAll rest

end

mutual

/-- Follows declarators inward to an identifier, or as far as there are any. -/
def innermostDeclarator : Node → Node
  | ⟨type, named, field, start, stop, firstByte, endByte, children⟩ =>
    let node : Node := ⟨type, named, field, start, stop, firstByte, endByte, children⟩
    if type = "identifier" then node
    else (innermostDeclaratorAmong children).getD node

def innermostDeclaratorAmong : List Node → Option Node
  | [] => none
  | node :: rest =>
    if node.field = some declaratorRole then some (innermostDeclarator node)
    else innermostDeclaratorAmong rest

end

/-- The parts that a function definition has to have: declarator and body. -/
def functionParts (node : Node) : Except TreeDefect (Node × Node) :=
  match node.childIn? bodyRole with
  | none => .error (.functionWithoutBody node.start)
  | some body =>
    match node.childIn? declaratorRole with
    | none => .error (.functionWithoutDeclarator node.start)
    | some declarator => .ok (declarator, body)

def toFunction (file : String) (source : List UInt8) (node : Node) :
    Except TreeDefect Declaration := do
  let (declarator, body) ← node.functionParts
  .ok
    { kind := .function
      name := Text.Utf8.decode ((innermostDeclarator declarator).bytes source)
      span := node.span file
      body := some (statementsAmong file body.children)
      members := [] }

def toComment (source : List UInt8) (node : Node) : Comment :=
  ⟨node.start.row + 1, Text.Utf8.decode (node.bytes source)⟩

end DeclarationLint.Node

namespace DeclarationLint.SyntaxTree

def comments (tree : SyntaxTree) (source : List UInt8) : List Comment :=
  (tree.root.walk.filter (·.type = Node.commentType)).map (Node.toComment source)

/-- The source file under an identifier, or the first defect of the tree. -/
def toSourceFile (identifier : String) (source : List UInt8) (tree : SyntaxTree) :
    Except TreeDefect SourceFile := do
  let declarations ← tree.root.outermostFunctions.mapM (Node.toFunction identifier source)
  .ok ⟨identifier, declarations, tree.comments source⟩

/-- The same with an identifier that may be no text. Such an identifier fails where it is
first needed: in the range of the first function, or else in the file itself. -/
def toSourceFileUnder (identifier : Value) (source : List UInt8) (tree : SyntaxTree) :
    Except TreeDefect SourceFile :=
  match identifier with
  | .text identifier => tree.toSourceFile identifier source
  | other =>
    match tree.root.outermostFunctions with
    | [] => .error (.unusableIdentifier other.render "SourceFile")
    | first :: _ =>
      match first.functionParts with
      | .error defect => .error defect
      | .ok _ => .error (.unusableIdentifier other.render "SourceLocation")

end DeclarationLint.SyntaxTree
