import DeclarationLint.Proofs.Statement
import DeclarationLint.Proofs.SyntaxTree.Outline
import DeclarationLint.Proofs.SyntaxTree.Projection

/-!
# Comments in the code

Comments may stand anywhere between the parts of a program. As long as no node is the comment that
a role leads to, and no expression statement has only comments in it, a tree without its comments
makes the same functions with the same statements, and the same count of them.
-/
namespace DeclarationLint

namespace Node

mutual

/-- The node without the comments inside it. All other nodes stay where they are in the text. -/
def withoutComments : Node → Node
  | ⟨type, named, field, start, stop, firstByte, endByte, children⟩ =>
    ⟨type, named, field, start, stop, firstByte, endByte, withoutCommentsAmong children⟩

def withoutCommentsAmong : List Node → List Node
  | [] => []
  | node :: rest =>
    if node.type = commentType then withoutCommentsAmong rest
    else withoutComments node :: withoutCommentsAmong rest

end

/-- The comments among the children of a node are no parts of what the node means, and a comment
has nothing in it. -/
structure CommentsApart (node : Node) : Prop where
  childless : node.type = commentType → node.children = []
  unreached : ∀ role child, node.childIn? role = some child → child.type ≠ commentType
  expression : node.type = "expression_statement" → node.namedChildren ≠ [] →
    ∃ child ∈ node.namedChildren, child.type ≠ commentType

/-- The node is no comment, and wherever there are comments inside it, they stand apart. -/
structure CommentsAside (root : Node) : Prop where
  ordinary : root.type ≠ commentType
  apart : ∀ node ∈ root.walk, node.CommentsApart

end Node

namespace Statement

mutual

/-- The statement without the comments inside it. -/
def withoutComments : Statement → Statement
  | ⟨kind, span, children⟩ => ⟨kind, span, withoutCommentsAmong children⟩

def withoutCommentsAmong : List Statement → List Statement
  | [] => []
  | statement :: rest =>
    if statement.kind = .comment then withoutCommentsAmong rest
    else withoutComments statement :: withoutCommentsAmong rest

end

end Statement

def Declaration.withoutComments (declaration : Declaration) : Declaration :=
  { declaration with body := declaration.body.map Statement.withoutCommentsAmong }

/-- The file without its comments, in the bodies of its functions and in the list of them. -/
def SourceFile.withoutComments (file : SourceFile) : SourceFile :=
  { file with declarations := file.declarations.map Declaration.withoutComments, comments := [] }

def SyntaxTree.withoutComments (tree : SyntaxTree) : SyntaxTree :=
  { tree with root := tree.root.withoutComments }

namespace Statement

theorem withoutCommentsAmong_append (statements others : List Statement) :
    withoutCommentsAmong (statements ++ others) =
      withoutCommentsAmong statements ++ withoutCommentsAmong others := by
  induction statements with
  | nil => rfl
  | cons statement rest ih =>
    rw [List.cons_append, withoutCommentsAmong, withoutCommentsAmong, ih]
    split <;> rfl

theorem withoutCommentsAmong_flatMap {α : Type} (items : List α) (inside : α → List Statement) :
    withoutCommentsAmong (items.flatMap inside) =
      items.flatMap fun item => withoutCommentsAmong (inside item) := by
  induction items with
  | nil => rfl
  | cons item rest ih =>
    rw [List.flatMap_cons, withoutCommentsAmong_append, ih, List.flatMap_cons]

theorem withoutCommentsAmong_toList {statement : Option Statement}
    (ordinary : ∀ found, statement = some found → found.kind ≠ .comment) :
    withoutCommentsAmong statement.toList = (statement.map withoutComments).toList := by
  cases statement with
  | none => rfl
  | some found =>
    change withoutCommentsAmong [found] = [found.withoutComments]
    rw [withoutCommentsAmong, if_neg (ordinary found rfl), withoutCommentsAmong]

mutual

theorem ncss_withoutComments (statement : Statement)
    (childless : ∀ inner ∈ statement.walk, inner.kind = .comment → inner.children = []) :
    statement.withoutComments.ncss = statement.ncss := by
  obtain ⟨kind, span, children⟩ := statement
  rw [withoutComments, ncss, ncss, ncssAll_withoutComments children]
  intro inner member
  exact childless inner (by rw [walk]; exact List.mem_cons_of_mem _ member)

theorem ncssAll_withoutComments (statements : List Statement)
    (childless : ∀ inner ∈ walkAll statements, inner.kind = .comment → inner.children = []) :
    ncssAll (withoutCommentsAmong statements) = ncssAll statements := by
  cases statements with
  | nil => rfl
  | cons statement rest =>
    rw [walkAll] at childless
    have here := ncss_withoutComments statement fun inner member =>
      childless inner (List.mem_append_left _ member)
    have others := ncssAll_withoutComments rest fun inner member =>
      childless inner (List.mem_append_right _ member)
    rw [withoutCommentsAmong]
    by_cases comment : statement.kind = .comment
    · have nothing : statement.ncss = 0 := by
        obtain ⟨kind, span, children⟩ := statement
        obtain rfl : children = [] :=
          childless ⟨kind, span, children⟩ (by simp [walk]) comment
        subst comment
        rfl
      rw [if_pos comment, others, ncssAll, nothing, Nat.zero_add]
    · rw [if_neg comment, ncssAll, ncssAll, here, others]

end

end Statement

namespace Node

theorem CommentsAside.of_mem_walk {root node : Node} (aside : root.CommentsAside)
    (member : node ∈ root.walk) (ordinary : node.type ≠ commentType) : node.CommentsAside :=
  ⟨ordinary, fun inner inside => aside.apart inner (mem_walk_trans member inside)⟩

theorem CommentsAside.of_mem_children {node child : Node} (aside : node.CommentsAside)
    (inside : child ∈ node.children) (ordinary : child.type ≠ commentType) :
    child.CommentsAside :=
  aside.of_mem_walk (child_mem_walk inside) ordinary

theorem CommentsAside.childless {node child : Node} (aside : node.CommentsAside)
    (inside : child ∈ node.children) (comment : child.type = commentType) : child.children = [] :=
  (aside.apart child (child_mem_walk inside)).childless comment

theorem CommentsAside.childIn? {node child : Node} {role : String} (aside : node.CommentsAside)
    (found : node.childIn? role = some child) :
    child ∈ node.children ∧ child.CommentsAside := by
  have inside : child ∈ node.children := List.mem_of_find?_eq_some found
  exact ⟨inside, aside.of_mem_children inside
    ((aside.apart node node.self_mem_walk).unreached role child found)⟩

/-- It is enough that comments have no role at all. -/
theorem CommentsApart.of_noRole {node : Node}
    (childless : node.type = commentType → node.children = [])
    (noRole : ∀ child ∈ node.children, child.type = commentType → child.field = none)
    (expression : node.type = "expression_statement" → node.namedChildren ≠ [] →
      ∃ child ∈ node.namedChildren, child.type ≠ commentType) :
    node.CommentsApart where
  childless := childless
  unreached role child found comment := by
    unfold childIn? at found
    have inRole := List.find?_some found
    rw [noRole child (List.mem_of_find?_eq_some found) comment] at inRole
    cases inRole
  expression := expression

section Fields

variable (node : Node)

@[simp] theorem withoutComments_type : node.withoutComments.type = node.type := by
  cases node; rfl

@[simp] theorem withoutComments_named : node.withoutComments.named = node.named := by
  cases node; rfl

@[simp] theorem withoutComments_field : node.withoutComments.field = node.field := by
  cases node; rfl

@[simp] theorem withoutComments_start : node.withoutComments.start = node.start := by
  cases node; rfl

@[simp] theorem withoutComments_span (file : String) :
    node.withoutComments.span file = node.span file := by
  cases node; rfl

@[simp] theorem withoutComments_bytes (source : List UInt8) :
    node.withoutComments.bytes source = node.bytes source := by
  cases node; rfl

@[simp] theorem withoutComments_children :
    node.withoutComments.children = withoutCommentsAmong node.children := by
  cases node; rfl

end Fields

theorem withoutCommentsAmong_eq (nodes : List Node) :
    withoutCommentsAmong nodes =
      (nodes.filter fun node => node.type ≠ commentType).map withoutComments := by
  induction nodes with
  | nil => rfl
  | cons node rest ih =>
    rw [withoutCommentsAmong, ih]
    by_cases comment : node.type = commentType <;> simp [comment]

theorem find?_withoutCommentsAmong {nodes : List Node} {role : String}
    (ordinary : ∀ child, nodes.find? (·.field = some role) = some child →
      child.type ≠ commentType) :
    (withoutCommentsAmong nodes).find? (·.field = some role) =
      (nodes.find? (·.field = some role)).map withoutComments := by
  induction nodes with
  | nil => rfl
  | cons node rest ih =>
    rw [withoutCommentsAmong]
    by_cases inRole : node.field = some role
    · have first : node.type ≠ commentType := ordinary node (by simp [inRole])
      simp [first, inRole]
    · have others := ih (by simpa [List.find?_cons, inRole] using ordinary)
      split <;> simp [inRole, others]

theorem childIn?_withoutComments {node : Node} (apart : node.CommentsApart) (role : String) :
    node.withoutComments.childIn? role = (node.childIn? role).map withoutComments := by
  rw [childIn?, withoutComments_children]
  exact find?_withoutCommentsAmong (apart.unreached role)

theorem any_named_withoutComments {node : Node} (apart : node.CommentsApart)
    (expression : node.type = "expression_statement") :
    (withoutCommentsAmong node.children).any named = node.children.any named := by
  rw [withoutCommentsAmong_eq, List.any_map, List.any_filter, Bool.eq_iff_iff]
  simp only [List.any_eq_true, Function.comp_apply, withoutComments_named, Bool.and_eq_true,
    decide_eq_true_eq]
  constructor
  · intro found
    obtain ⟨child, inside, -, isNamed⟩ := found
    exact ⟨child, inside, isNamed⟩
  · intro found
    obtain ⟨child, inside, isNamed⟩ := found
    have nonempty : node.namedChildren ≠ [] :=
      List.ne_nil_of_mem (List.mem_filter.mpr ⟨inside, isNamed⟩)
    obtain ⟨other, member, ordinary⟩ := apart.expression expression nonempty
    obtain ⟨inside, isNamed⟩ := List.mem_filter.mp member
    exact ⟨other, inside, ordinary, isNamed⟩

variable {file : String}

theorem kind_of_toStatement? {node : Node} {statement : Statement}
    (made : node.toStatement? file = some statement) :
    statement.kind = .comment ↔ node.type = commentType := by
  rw [toStatement?_eq] at made
  obtain ⟨kind, isStatement, rfl⟩ := Option.map_eq_some_iff.mp made
  exact kind_eq_comment_iff isStatement

/-- Named nodes that are comments make the statements that are comments. -/
theorem statementsAmong_withoutComments {nodes : List Node}
    (each : ∀ node ∈ nodes, node.type ≠ commentType →
      node.withoutComments.toStatement? file =
        (node.toStatement? file).map Statement.withoutComments) :
    statementsAmong file (withoutCommentsAmong nodes) =
      Statement.withoutCommentsAmong (statementsAmong file nodes) := by
  induction nodes with
  | nil => rfl
  | cons node rest ih =>
    have others := ih fun other member => each other (List.mem_cons_of_mem _ member)
    rw [withoutCommentsAmong, statementsAmong_cons, Statement.withoutCommentsAmong_append,
      ← others]
    by_cases comment : node.type = commentType
    · have dropped : Statement.withoutCommentsAmong
          (if node.named then (node.toStatement? file).toList else []) = [] := by
        split
        · cases made : node.toStatement? file with
          | none => rfl
          | some statement =>
            change Statement.withoutCommentsAmong [statement] = []
            rw [Statement.withoutCommentsAmong, if_pos ((kind_of_toStatement? made).mpr comment),
              Statement.withoutCommentsAmong]
        · rfl
      rw [if_pos comment, dropped, List.nil_append]
    · rw [if_neg comment, statementsAmong_cons, withoutComments_named,
        each node List.mem_cons_self comment]
      congr 1
      split
      · refine (Statement.withoutCommentsAmong_toList ?_).symm
        intro statement made
        exact fun same => comment ((kind_of_toStatement? made).mp same)
      · rfl

/-- What is looked for inside a node is looked for in the same way without comments. -/
theorem nested_withoutComments {node : Node} (aside : node.CommentsAside)
    (each : ∀ child ∈ node.children, child.CommentsAside →
      child.withoutComments.toStatement? file =
        (child.toStatement? file).map Statement.withoutComments) :
    node.withoutComments.nested file =
      Statement.withoutCommentsAmong (node.nested file) := by
  have sameType := withoutComments_type node
  cases nesting : nestingOf node.type with
  | roles names =>
    rw [nested_of_roles nesting, nested_of_roles (sameType ▸ nesting),
      Statement.withoutCommentsAmong_flatMap]
    congr 1
    funext role
    rw [childIn?_withoutComments (aside.apart node node.self_mem_walk)]
    cases found : node.childIn? role with
    | none => rfl
    | some child =>
      obtain ⟨inside, childAside⟩ := aside.childIn? found
      simp only [Option.map_some, Option.bind_some, each child inside childAside]
      refine (Statement.withoutCommentsAmong_toList ?_).symm
      intro statement made same
      exact childAside.ordinary ((kind_of_toStatement? made).mp same)
  | namedChildren =>
    rw [nested_of_namedChildren nesting, nested_of_namedChildren (sameType ▸ nesting),
      withoutComments_children]
    apply statementsAmong_withoutComments
    intro child inside ordinary
    exact each child inside (aside.of_mem_children inside ordinary)
  | none =>
    rw [nested_of_none nesting, nested_of_none (sameType ▸ nesting),
      Statement.withoutCommentsAmong]

theorem toStatement?_withoutComments (node : Node) (aside : node.CommentsAside) :
    node.withoutComments.toStatement? file =
      (node.toStatement? file).map Statement.withoutComments := by
  have kind : statementKind? node.type (withoutCommentsAmong node.children) =
      statementKind? node.type node.children :=
    statementKind?_congr (any_named_withoutComments (aside.apart node node.self_mem_walk))
  have inside : node.withoutComments.nested file =
      Statement.withoutCommentsAmong (node.nested file) :=
    nested_withoutComments aside fun child member childAside =>
      toStatement?_withoutComments child childAside
  rw [toStatement?_eq, toStatement?_eq, withoutComments_type, withoutComments_children, kind,
    withoutComments_span, inside, Option.map_map]
  rfl
termination_by sizeOf node
decreasing_by exact sizeOf_lt_of_mem_children member

/-- A comment has no function in it. -/
theorem flatMap_outermostFunctions_withoutComments {nodes : List Node}
    (childless : ∀ node ∈ nodes, node.type = commentType → node.children = [])
    (each : ∀ node ∈ nodes, node.type ≠ commentType →
      node.withoutComments.outermostFunctions = node.outermostFunctions.map withoutComments) :
    (withoutCommentsAmong nodes).flatMap outermostFunctions =
      (nodes.flatMap outermostFunctions).map withoutComments := by
  induction nodes with
  | nil => rfl
  | cons node rest ih =>
    have others := ih (fun other member => childless other (List.mem_cons_of_mem _ member))
      fun other member => each other (List.mem_cons_of_mem _ member)
    rw [withoutCommentsAmong, List.flatMap_cons, List.map_append, ← others]
    by_cases comment : node.type = commentType
    · have nothing : node.outermostFunctions = [] := by
        rw [outermostFunctions_of_ne (by rw [comment]; decide),
          childless node List.mem_cons_self comment, List.flatMap_nil]
      rw [if_pos comment, nothing, List.map_nil, List.nil_append]
    · rw [if_neg comment, List.flatMap_cons, each node List.mem_cons_self comment]

theorem outermostFunctions_withoutComments (node : Node) (aside : node.CommentsAside) :
    node.withoutComments.outermostFunctions = node.outermostFunctions.map withoutComments := by
  have sameType := withoutComments_type node
  by_cases function : node.type = functionType
  · rw [outermostFunctions_of_function function,
      outermostFunctions_of_function (sameType.trans function), List.map_singleton]
  · rw [outermostFunctions_of_ne function, outermostFunctions_of_ne (sameType ▸ function),
      withoutComments_children]
    apply flatMap_outermostFunctions_withoutComments
    · exact fun child inside => aside.childless inside
    · intro child inside ordinary
      exact outermostFunctions_withoutComments child (aside.of_mem_children inside ordinary)
termination_by sizeOf node
decreasing_by exact sizeOf_lt_of_mem_children inside

theorem innermostDeclarator_withoutComments (node : Node) (aside : node.CommentsAside) :
    node.withoutComments.innermostDeclarator = node.innermostDeclarator.withoutComments := by
  rw [innermostDeclarator_eq, innermostDeclarator_eq node, withoutComments_type,
    childIn?_withoutComments (aside.apart node node.self_mem_walk)]
  split
  · rfl
  · cases next : node.childIn? declaratorRole with
    | none => rfl
    | some inner =>
      obtain ⟨inside, innerAside⟩ := aside.childIn? next
      exact innermostDeclarator_withoutComments inner innerAside
termination_by sizeOf node
decreasing_by exact sizeOf_lt_of_mem_children inside

variable {source : List UInt8}

theorem toFunction_withoutComments {function : Node} (aside : function.CommentsAside) :
    function.withoutComments.toFunction file source =
      (function.toFunction file source).map Declaration.withoutComments := by
  have apart := aside.apart function function.self_mem_walk
  unfold toFunction functionParts
  rw [childIn?_withoutComments apart, childIn?_withoutComments apart, withoutComments_start,
    withoutComments_span]
  cases inBody : function.childIn? bodyRole with
  | none => rfl
  | some body =>
    cases inDeclarator : function.childIn? declaratorRole with
    | none => rfl
    | some declarator =>
      have name := innermostDeclarator_withoutComments declarator
        (aside.childIn? inDeclarator).2
      have statements : statementsAmong file (withoutCommentsAmong body.children) =
          Statement.withoutCommentsAmong (statementsAmong file body.children) := by
        apply statementsAmong_withoutComments
        intro node inside ordinary
        exact toStatement?_withoutComments node
          ((aside.childIn? inBody).2.of_mem_children inside ordinary)
      simp only [Option.map_some, bind, Except.bind, name, withoutComments_bytes,
        withoutComments_children, statements]
      rfl

theorem type_of_mem_walk_withoutComments (node : Node) (ordinary : node.type ≠ commentType) :
    ∀ inner ∈ node.withoutComments.walk, inner.type ≠ commentType := by
  intro inner member
  rw [walk_eq, withoutComments_children, withoutCommentsAmong_eq, List.mem_cons] at member
  rcases member with rfl | below
  · rw [withoutComments_type]
    exact ordinary
  · obtain ⟨image, among, deeper⟩ := List.mem_flatMap.mp below
    obtain ⟨child, kept, rfl⟩ := List.mem_map.mp among
    obtain ⟨inside, childOrdinary⟩ := List.mem_filter.mp kept
    exact type_of_mem_walk_withoutComments child (of_decide_eq_true childOrdinary) inner deeper
termination_by sizeOf node
decreasing_by exact sizeOf_lt_of_mem_children inside

/-- A statement that is a comment has nothing in it. -/
theorem childless_of_toStatement? (node : Node) {statement : Statement}
    (made : node.toStatement? file = some statement) :
    ∀ inner ∈ statement.walk, inner.kind = .comment → inner.children = [] := by
  rw [toStatement?_eq] at made
  obtain ⟨kind, isStatement, rfl⟩ := Option.map_eq_some_iff.mp made
  intro inner member comment
  rw [Statement.walk, List.mem_cons] at member
  rcases member with rfl | below
  · have type := (kind_eq_comment_iff isStatement).mp comment
    exact nested_of_none (by rw [type]; decide)
  · obtain ⟨statement, nested, deeper⟩ := Statement.mem_walkAll_iff.mp below
    obtain ⟨child, inside, childMade⟩ := exists_of_mem_nested nested
    exact childless_of_toStatement? child childMade inner deeper comment
termination_by sizeOf node
decreasing_by exact sizeOf_lt_of_mem_children inside

theorem ncss_withoutComments {function : Node} {declaration : Declaration}
    (made : function.toFunction file source = .ok declaration) :
    declaration.withoutComments.ncss = declaration.ncss := by
  obtain ⟨body, -, statements⟩ := (toFunction_eq_ok_iff.mp made).body
  unfold Declaration.ncss Declaration.withoutComments
  simp only [statements, Option.map_some]
  apply Statement.ncssAll_withoutComments
  intro inner member
  obtain ⟨statement, among, deeper⟩ := Statement.mem_walkAll_iff.mp member
  obtain ⟨node, -, nodeMade⟩ := exists_of_mem_statementsAmong among
  exact childless_of_toStatement? node nodeMade inner deeper

end Node

namespace SyntaxTree

variable {tree : SyntaxTree}

theorem comments_withoutComments (ordinary : tree.root.type ≠ Node.commentType)
    (source : List UInt8) : tree.withoutComments.comments source = [] := by
  rw [comments, List.map_eq_nil_iff, List.filter_eq_nil_iff]
  intro node member
  simpa using Node.type_of_mem_walk_withoutComments tree.root ordinary node member

/-- Without its comments a tree makes the same source file or has the same defect, but for the
comments: the functions keep their names, places and order, they lose the statements that are
comments and no others, and their counts stay as they are. -/
theorem toSourceFile_withoutComments (aside : tree.root.CommentsAside) (identifier : String)
    (source : List UInt8) :
    tree.withoutComments.toSourceFile identifier source =
        (tree.toSourceFile identifier source).map SourceFile.withoutComments ∧
      ∀ file, tree.toSourceFile identifier source = .ok file →
        ∀ declaration ∈ file.declarations,
          declaration.withoutComments.ncss = declaration.ncss := by
  constructor
  · have functions : tree.withoutComments.root.outermostFunctions.mapM
        (Node.toFunction identifier source) =
          (tree.root.outermostFunctions.mapM (Node.toFunction identifier source)).map
            (List.map Declaration.withoutComments) := by
      rw [withoutComments, Node.outermostFunctions_withoutComments _ aside]
      apply mapM_map
      intro function member
      obtain ⟨inside, isFunction⟩ := Node.mem_walk_of_mem_outermostFunctions member
      exact Node.toFunction_withoutComments
        (aside.of_mem_walk inside (by rw [isFunction]; decide))
    rw [toSourceFile_eq_map, toSourceFile_eq_map, functions,
      comments_withoutComments aside.ordinary]
    cases tree.root.outermostFunctions.mapM (Node.toFunction identifier source) <;> rfl
  · intro file success declaration member
    obtain ⟨-, describes, -⟩ := toSourceFile_eq_ok_iff.mp success
    have made := mapM_eq_ok_iff.mpr (describes.imp fun _ _ => Node.toFunction_eq_ok_iff.mpr)
    obtain ⟨function, -, found⟩ := exists_of_mem_mapM made member
    exact Node.ncss_withoutComments found

/-- A function with a comment wherever one can stand: around it, between its parts, in its body, in
a condition there and in the statement of that. -/
def commentedTree : SyntaxTree where
  hasError := false
  root := Node.ofType "translation_unit" none
    [Node.ofType "comment" none [],
      Node.ofType "function_definition" none
        [Node.ofType "function_declarator" (some "declarator")
            [Node.ofType "comment" none [], Node.ofType "identifier" (some "declarator") []],
          Node.ofType "comment" none [],
          Node.ofType "compound_statement" (some "body")
            [Node.ofType "comment" none [],
              Node.ofType "if_statement" none
                [Node.ofType "comment" none [],
                  Node.ofType "compound_statement" (some "consequence")
                    [Node.ofType "expression_statement" none
                        [Node.ofType "comment" none [], Node.ofType "call_expression" none []],
                      Node.ofType "comment" none []]],
              Node.ofType "expression_statement" none [],
              Node.ofType "return_statement" none []]]]

theorem commentsAside_commentedTree : commentedTree.root.CommentsAside where
  ordinary := by decide
  apart := by
    have each : ∀ node ∈ commentedTree.root.walk,
        (node.type = Node.commentType → node.children = []) ∧
          (∀ child ∈ node.children, child.type = Node.commentType → child.field = none) ∧
          (node.type = "expression_statement" → node.namedChildren ≠ [] →
            ∃ child ∈ node.namedChildren, child.type ≠ Node.commentType) := by decide
    intro node member
    obtain ⟨childless, noRole, expression⟩ := each node member
    exact .of_noRole childless noRole expression

theorem toSourceFile_withoutComments_everywhere :
    commentedTree.root.CommentsAside ∧
      commentedTree.withoutComments.toSourceFile "t.c" [102] =
        (commentedTree.toSourceFile "t.c" [102]).map SourceFile.withoutComments ∧
      ∃ file, commentedTree.toSourceFile "t.c" [102] = .ok file ∧
        file.comments.length = 7 ∧ file.declarations.map Declaration.ncss = [3] ∧
        ∀ declaration ∈ file.declarations,
          declaration.withoutComments.ncss = declaration.ncss := by
  obtain ⟨same, counts⟩ :=
    toSourceFile_withoutComments commentsAside_commentedTree "t.c" [102]
  exact ⟨commentsAside_commentedTree, same, _, rfl, rfl, rfl, counts _ rfl⟩

end SyntaxTree
end DeclarationLint
