import DeclarationLint.Proofs.SyntaxTree.Defects
import DeclarationLint.Proofs.SyntaxTree.Positions

/-!
# The outline of a file

What a source file has of a syntax tree, told by where the nodes of the tree stand. Its declarations
are the function definitions that are inside no other one, at any depth and in order, and its
comments are all comments of the tree, those in the bodies of functions included. There is no source
file if and only if one of these function definitions lacks a part.
-/
namespace DeclarationLint

namespace Node

/-- Declarators are followed inward, until there is an identifier or no further declarator. -/
inductive LeadsToName : Node → Node → Prop
  | identifier {node : Node} (named : node.type = "identifier") : LeadsToName node node
  | innermost {node : Node} (last : node.childIn? declaratorRole = none) : LeadsToName node node
  | inward {node inner name : Node} (unnamed : node.type ≠ "identifier")
      (next : node.childIn? declaratorRole = some inner) (rest : LeadsToName inner name) :
      LeadsToName node name

theorem innermostDeclaratorAmong_eq (nodes : List Node) :
    innermostDeclaratorAmong nodes =
      (nodes.find? (·.field = some declaratorRole)).map innermostDeclarator := by
  induction nodes with
  | nil => rfl
  | cons node rest ih =>
    rw [innermostDeclaratorAmong, List.find?_cons]
    by_cases inRole : node.field = some declaratorRole <;> simp [inRole, ih]

theorem innermostDeclarator_eq (node : Node) :
    node.innermostDeclarator =
      if node.type = "identifier" then node
      else ((node.childIn? declaratorRole).map innermostDeclarator).getD node := by
  obtain ⟨type, named, field, start, stop, firstByte, endByte, children⟩ := node
  rw [innermostDeclarator, innermostDeclaratorAmong_eq]
  rfl

theorem leadsToName_innermostDeclarator (node : Node) :
    node.LeadsToName node.innermostDeclarator := by
  rw [innermostDeclarator_eq]
  by_cases named : node.type = "identifier"
  · rw [if_pos named]
    exact .identifier named
  · rw [if_neg named]
    cases next : node.childIn? declaratorRole with
    | none => exact .innermost next
    | some inner =>
      have inside : inner ∈ node.children := List.mem_of_find?_eq_some next
      exact .inward named next (leadsToName_innermostDeclarator inner)
termination_by sizeOf node
decreasing_by exact sizeOf_lt_of_mem_children inside

theorem leadsToName_iff {node name : Node} :
    node.LeadsToName name ↔ name = node.innermostDeclarator := by
  constructor
  · intro leads
    induction leads with
    | identifier named => rw [innermostDeclarator_eq, if_pos named]
    | innermost last => simp [innermostDeclarator_eq, last]
    | inward unnamed next _ ih =>
      rw [innermostDeclarator_eq, if_neg unnamed, next]
      exact ih
  · intro same
    exact same ▸ leadsToName_innermostDeclarator node

/-- A declaration tells what stands in a function definition. -/
structure Describes (identifier : String) (source : List UInt8) (function : Node)
    (declaration : Declaration) : Prop where
  kind : declaration.kind = .function
  name : ∃ declarator name, function.childIn? declaratorRole = some declarator ∧
    declarator.LeadsToName name ∧ declaration.name = Text.Utf8.decode (name.bytes source)
  start : declaration.span.start =
    ⟨identifier, function.start.row + 1, function.start.column + 1⟩
  stop : declaration.span.stop = ⟨identifier, function.stop.row + 1, function.stop.column + 1⟩
  body : ∃ body, function.childIn? bodyRole = some body ∧
    declaration.body = some (statementsAmong identifier body.children)
  members : declaration.members = []

variable {identifier : String} {source : List UInt8}

theorem toFunction_eq_ok_iff {function : Node} {declaration : Declaration} :
    function.toFunction identifier source = .ok declaration ↔
      Describes identifier source function declaration := by
  unfold toFunction functionParts
  constructor
  · intro success
    cases inBody : function.childIn? bodyRole with
    | none =>
      rw [inBody] at success
      cases success
    | some body =>
      cases inDeclarator : function.childIn? declaratorRole with
      | none =>
        rw [inBody, inDeclarator] at success
        cases success
      | some declarator =>
        rw [inBody, inDeclarator] at success
        obtain rfl := Except.ok.inj success
        exact ⟨rfl, ⟨declarator, _, inDeclarator, leadsToName_iff.mpr rfl, rfl⟩, rfl, rfl,
          ⟨body, inBody, rfl⟩, rfl⟩
  · intro describes
    obtain ⟨kind, ⟨declarator, name, inDeclarator, leads, named⟩, start, stop,
      ⟨body, inBody, statements⟩, members⟩ := describes
    obtain rfl := leadsToName_iff.mp leads
    obtain ⟨_, _, ⟨_, _⟩, _, _⟩ := declaration
    rw [inBody, inDeclarator]
    simp only at kind named start stop statements members
    subst kind named start stop statements members
    rfl

end Node

namespace SyntaxTree

theorem listsInOrder_functions (root : Node) :
    ListsInOrder root.OutermostFunctionAt root.placedFunctions where
  ordered := ((root.listsInOrder_placed Node.isFunction).filter Node.isFunction).ordered
  mem_iff position node := by
    rw [Node.placedFunctions,
      ((root.listsInOrder_placed Node.isFunction).filter Node.isFunction).mem_iff]
    simp only [Node.isFunction, decide_eq_true_eq, decide_eq_false_iff_not,
      Node.OutermostFunctionAt]
    exact ⟨fun ⟨⟨found, around⟩, function⟩ => ⟨found, function, around⟩,
      fun ⟨found, function, around⟩ => ⟨⟨found, around⟩, function⟩⟩

/-- The comments of a tree with their positions. -/
def placedComments (root : Node) : List (Position × Node) :=
  (root.placed fun _ => false).filter fun stop => stop.2.type = Node.commentType

theorem listsInOrder_comments (root : Node) :
    ListsInOrder root.CommentAt (placedComments root) where
  ordered := ((root.listsInOrder_placed fun _ => false).filter
    (·.type = Node.commentType)).ordered
  mem_iff position node := by
    rw [placedComments, ((root.listsInOrder_placed fun _ => false).filter
      (·.type = Node.commentType)).mem_iff]
    simp [Node.CommentAt]

theorem comments_eq (tree : SyntaxTree) (source : List UInt8) :
    tree.comments source =
      (placedComments tree.root).map fun stop => Node.toComment source stop.2 := by
  rw [comments, ← Node.map_snd_placed_open, List.filter_map, List.map_map]
  rfl

variable {tree : SyntaxTree} {identifier : String} {source : List UInt8}

theorem toSourceFile_eq_ok_iff {file : SourceFile} :
    tree.toSourceFile identifier source = .ok file ↔
      file.identifier = identifier ∧
        List.Forall₂ (Node.Describes identifier source) tree.root.outermostFunctions
          file.declarations ∧
        file.comments = tree.comments source := by
  have each : List.Forall₂ (Node.Describes identifier source) tree.root.outermostFunctions
      file.declarations ↔
        tree.root.outermostFunctions.mapM (Node.toFunction identifier source) =
          .ok file.declarations := by
    simp only [mapM_eq_ok_iff, Node.toFunction_eq_ok_iff]
  rw [each, toSourceFile_eq_map]
  obtain ⟨name, declarations, comments⟩ := file
  cases tree.root.outermostFunctions.mapM (Node.toFunction identifier source) with
  | error defect => simp [Except.map]
  | ok made =>
    simp only [Except.map, Except.ok.injEq, SourceFile.mk.injEq]
    exact ⟨fun ⟨first, second, third⟩ => ⟨first.symm, second, third.symm⟩,
      fun ⟨first, second, third⟩ => ⟨first.symm, second, third.symm⟩⟩

/-- A tree has its outermost function definitions and its comments at certain positions. Making a
source file of it fails if and only if one of these definitions has no body or no declarator, and
the first one is blamed. Otherwise the file has a declaration for each definition and a comment for
each comment, in order and with their places. -/
theorem toSourceFile_outline (identifier : String) (source : List UInt8) (tree : SyntaxTree) :
    ∃ functions comments,
      ListsInOrder tree.root.OutermostFunctionAt functions ∧
      ListsInOrder tree.root.CommentAt comments ∧
      ((∃ defect, tree.toSourceFile identifier source = .error defect) ↔
        ∃ position node, tree.root.OutermostFunctionAt position node ∧
          (node.childIn? Node.bodyRole = none ∨ node.childIn? Node.declaratorRole = none)) ∧
      (∀ defect, tree.toSourceFile identifier source = .error defect ↔
        ∃ stop, IsFirst (fun stop => stop.2.Incomplete) functions stop ∧
          defect = stop.2.defect) ∧
      ∀ file, tree.toSourceFile identifier source = .ok file ↔
        file.identifier = identifier ∧
          List.Forall₂ (fun stop declaration =>
            Node.Describes identifier source stop.2 declaration) functions file.declarations ∧
          file.comments = comments.map fun stop =>
            ⟨stop.2.start.row + 1, Text.Utf8.decode (stop.2.bytes source)⟩ := by
  have functions := listsInOrder_functions tree.root
  have blamed : ∀ defect, tree.toSourceFile identifier source = .error defect ↔
      ∃ stop, IsFirst (fun stop => stop.2.Incomplete) tree.root.placedFunctions stop ∧
        defect = stop.2.defect := by
    intro defect
    rw [toSourceFile_eq_error_iff, ← Node.map_snd_placedFunctions]
    simp only [isFirst_map_iff, exists_exists_and_eq_and]
  refine ⟨_, _, functions, listsInOrder_comments tree.root, ?_, blamed, ?_⟩
  · simp only [blamed]
    constructor
    · intro failed
      obtain ⟨defect, ⟨position, node⟩, first, -⟩ := failed
      refine ⟨position, node, (functions.mem_iff position node).mp first.mem, ?_⟩
      simpa [Node.Incomplete] using first.property
    · intro lacking
      obtain ⟨position, node, found, part⟩ := lacking
      have member := (functions.mem_iff position node).mpr found
      have incomplete : ∃ stop ∈ tree.root.placedFunctions, stop.2.Incomplete :=
        ⟨(position, node), member, by simpa [Node.Incomplete] using part⟩
      obtain ⟨stop, first⟩ := exists_isFirst_iff.mpr incomplete
      exact ⟨_, stop, first, rfl⟩
  · intro file
    rw [toSourceFile_eq_ok_iff, ← Node.map_snd_placedFunctions, List.forall₂_map_left_iff,
      comments_eq]
    rfl

end SyntaxTree
end DeclarationLint
