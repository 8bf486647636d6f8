import DeclarationLint.Proofs.FirstFailure
import DeclarationLint.SyntaxTree.SourceFile

/-!
# Defects of syntax trees

Of a syntax tree no source file can be made if and only if one of its outermost function definitions
lacks a part. The first such definition is blamed, and its body is looked for before its declarator.
-/
namespace DeclarationLint

namespace Node

/-- A function definition lacks a part that it has to have. -/
def Incomplete (node : Node) : Prop :=
  (node.childIn? bodyRole).isNone = true ∨ (node.childIn? declaratorRole).isNone = true

instance (node : Node) : Decidable node.Incomplete :=
  inferInstanceAs (Decidable (_ ∨ _))

/-- What an incomplete function definition is blamed for: the body is looked for first. -/
def defect (node : Node) : TreeDefect :=
  if (node.childIn? bodyRole).isNone = true then .functionWithoutBody node.start
  else .functionWithoutDeclarator node.start

variable {node : Node} {file : String} {source : List UInt8}

theorem toFunction_eq_error_iff {defect : TreeDefect} :
    node.toFunction file source = .error defect ↔ node.Incomplete ∧ defect = node.defect := by
  unfold toFunction functionParts Incomplete Node.defect
  cases node.childIn? bodyRole with
  | none =>
    simp only [bind, Except.bind, Except.error.injEq, Option.isNone_none, true_or, true_and,
      if_true]
    exact eq_comm
  | some body =>
    cases node.childIn? declaratorRole with
    | none =>
      simp only [bind, Except.bind, Except.error.injEq, Option.isNone_none, or_true, true_and,
        Option.isNone_some, Bool.false_eq_true, if_false]
      exact eq_comm
    | some declarator => simp [bind, Except.bind]

theorem exists_toFunction_error_iff :
    (∃ defect, node.toFunction file source = .error defect) ↔ node.Incomplete := by
  simp only [toFunction_eq_error_iff, exists_and_left, exists_eq, and_true]

end Node

namespace SyntaxTree

/-- One of the outermost function definitions lacks a part. -/
def Malformed (tree : SyntaxTree) : Prop := ∃ node ∈ tree.root.outermostFunctions, node.Incomplete

instance (tree : SyntaxTree) : Decidable tree.Malformed :=
  inferInstanceAs (Decidable (∃ node ∈ tree.root.outermostFunctions, node.Incomplete))

variable {tree : SyntaxTree} {identifier : String} {source : List UInt8}

theorem toSourceFile_eq_map (tree : SyntaxTree) (identifier : String) (source : List UInt8) :
    tree.toSourceFile identifier source =
      (tree.root.outermostFunctions.mapM (Node.toFunction identifier source)).map
        fun declarations => ⟨identifier, declarations, tree.comments source⟩ := by
  unfold toSourceFile
  cases tree.root.outermostFunctions.mapM (Node.toFunction identifier source) <;> rfl

theorem toSourceFile_eq_error_iff {defect : TreeDefect} :
    tree.toSourceFile identifier source = .error defect ↔
      ∃ node, IsFirst Node.Incomplete tree.root.outermostFunctions node ∧
        defect = node.defect := by
  have failed : tree.toSourceFile identifier source = .error defect ↔
      tree.root.outermostFunctions.mapM (Node.toFunction identifier source) = .error defect := by
    rw [toSourceFile_eq_map]
    cases tree.root.outermostFunctions.mapM (Node.toFunction identifier source) <;>
      simp [Except.map]
  have lacking : (fun node : Node => ∃ defect,
      node.toFunction identifier source = .error defect) = Node.Incomplete :=
    funext fun _ => propext Node.exists_toFunction_error_iff
  rw [failed, mapM_eq_error_iff, lacking]
  simp only [Node.toFunction_eq_error_iff]
  constructor
  · intro first
    obtain ⟨node, first, -, blamed⟩ := first
    exact ⟨node, first, blamed⟩
  · intro first
    obtain ⟨node, first, blamed⟩ := first
    exact ⟨node, first, first.property, blamed⟩

theorem identifier_of_toSourceFile {file : SourceFile}
    (success : tree.toSourceFile identifier source = .ok file) : file.identifier = identifier := by
  rw [toSourceFile_eq_map] at success
  cases made : tree.root.outermostFunctions.mapM (Node.toFunction identifier source) with
  | error defect =>
    rw [made] at success
    cases success
  | ok declarations =>
    rw [made] at success
    rw [← Except.ok.inj success]

end SyntaxTree

end DeclarationLint
