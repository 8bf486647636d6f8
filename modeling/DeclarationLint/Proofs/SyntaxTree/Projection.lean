import DeclarationLint.Proofs.KeyedList
import DeclarationLint.SyntaxTree.SourceFile
import Mathlib.Data.List.Basic

/-!
# What is made of a node

Whether a node is a statement depends on its type alone, and its kind as well, but for expression
statements. The statements inside it are found through the roles of its children or among those of
them that are named, and all other children are passed by with everything in them.
-/
namespace DeclarationLint.Node

/-- A named node at the beginning of the text. -/
def ofType (type : String) (field : Option String) (children : List Node) : Node :=
  ⟨type, true, field, ⟨0, 0⟩, ⟨0, 1⟩, 0, 1, children⟩

variable {file : String}

/-- The statements that are looked for directly inside a node. -/
def nested (file : String) (node : Node) : List Statement :=
  match nestingOf node.type with
  | .roles names => names.flatMap fun role => ((node.childIn? role).bind (toStatement? file)).toList
  | .namedChildren => statementsAmong file node.children
  | .none => []

theorem nested_of_roles {node : Node} {names : List String}
    (nesting : nestingOf node.type = .roles names) :
    node.nested file =
      names.flatMap fun role => ((node.childIn? role).bind (toStatement? file)).toList := by
  rw [nested, nesting]

theorem nested_of_namedChildren {node : Node} (nesting : nestingOf node.type = .namedChildren) :
    node.nested file = statementsAmong file node.children := by
  rw [nested, nesting]

theorem nested_of_none {node : Node} (nesting : nestingOf node.type = .none) :
    node.nested file = [] := by
  rw [nested, nesting]

theorem statementInRole_eq (role : String) (nodes : List Node) :
    statementInRole file role nodes =
      ((nodes.find? (·.field = some role)).bind (toStatement? file)).toList := by
  induction nodes with
  | nil => rfl
  | cons node rest ih =>
    rw [statementInRole, List.find?_cons]
    by_cases inRole : node.field = some role <;> simp [inRole, ih]

theorem toStatement?_eq (node : Node) :
    node.toStatement? file = (statementKind? node.type node.children).map fun kind =>
      ⟨kind, node.span file, node.nested file⟩ := by
  obtain ⟨type, named, field, start, stop, firstByte, endByte, children⟩ := node
  rw [toStatement?]
  congr 1
  funext kind
  unfold nested
  cases nestingOf type with
  | roles names => simp [childIn?, statementInRole_eq]
  | namedChildren => rfl
  | none => rfl

theorem statementsAmong_cons (node : Node) (rest : List Node) :
    statementsAmong file (node :: rest) =
      (if node.named then (node.toStatement? file).toList else []) ++
        statementsAmong file rest := by
  rw [statementsAmong]

theorem statementsAmong_append (nodes others : List Node) :
    statementsAmong file (nodes ++ others) =
      statementsAmong file nodes ++ statementsAmong file others := by
  induction nodes with
  | nil => rfl
  | cons node rest ih =>
    rw [List.cons_append, statementsAmong_cons, ih, statementsAmong_cons, List.append_assoc]

theorem exists_of_mem_statementsAmong {nodes : List Node} {statement : Statement}
    (member : statement ∈ statementsAmong file nodes) :
    ∃ node ∈ nodes, node.toStatement? file = some statement := by
  induction nodes with
  | nil => cases member
  | cons node rest ih =>
    rw [statementsAmong_cons, List.mem_append] at member
    rcases member with here | later
    · split at here
      · exact ⟨node, List.mem_cons_self, Option.mem_toList.mp here⟩
      · cases here
    · obtain ⟨other, inside, made⟩ := ih later
      exact ⟨other, List.mem_cons_of_mem _ inside, made⟩

theorem exists_of_mem_nested {node : Node} {statement : Statement}
    (member : statement ∈ node.nested file) :
    ∃ child ∈ node.children, child.toStatement? file = some statement := by
  unfold nested at member
  split at member
  · obtain ⟨role, -, inRole⟩ := List.mem_flatMap.mp member
    obtain ⟨child, found, made⟩ := Option.bind_eq_some_iff.mp (Option.mem_toList.mp inRole)
    exact ⟨child, List.mem_of_find?_eq_some found, made⟩
  · exact exists_of_mem_statementsAmong member
  · cases member

theorem type_of_comment {type : String} (found : statementKinds.lookup type = some .comment) :
    type = commentType := by
  have only : ∀ entry ∈ statementKinds, entry.2 = .comment → entry.1 = commentType := by decide
  exact only _ (mem_of_lookup found) rfl

theorem type_of_expression {type : String}
    (found : statementKinds.lookup type = some .expression) : type = "expression_statement" := by
  have only : ∀ entry ∈ statementKinds, entry.2 = .expression →
      entry.1 = "expression_statement" := by decide
  exact only _ (mem_of_lookup found) rfl

/-- A kind is `comment` if and only if the type of the node is. -/
theorem kind_eq_comment_iff {type : String} {children : List Node} {kind : StatementKind}
    (isStatement : statementKind? type children = some kind) :
    kind = .comment ↔ type = commentType := by
  obtain ⟨listed, found, rfl⟩ := Option.map_eq_some_iff.mp isStatement
  constructor
  · intro comment
    split at comment
    · cases comment
    · exact type_of_comment (comment ▸ found)
  · intro comment
    subst comment
    obtain rfl : StatementKind.comment = listed := Option.some.inj found
    rfl

theorem statementKind?_congr {type : String} {children others : List Node}
    (same : type = "expression_statement" → children.any named = others.any named) :
    statementKind? type children = statementKind? type others := by
  unfold statementKind?
  cases found : statementKinds.lookup type with
  | none => rfl
  | some kind =>
    by_cases expression : kind = .expression
    · subst expression
      rw [same (type_of_expression found)]
    · simp [expression]

theorem outermostFunctionsAmong_eq_flatMap (nodes : List Node) :
    outermostFunctionsAmong nodes = nodes.flatMap outermostFunctions := by
  induction nodes with
  | nil => rfl
  | cons node rest ih => rw [outermostFunctionsAmong, ih, List.flatMap_cons]

theorem outermostFunctions_of_function {node : Node} (function : node.type = functionType) :
    node.outermostFunctions = [node] := by
  obtain ⟨type, named, field, start, stop, firstByte, endByte, children⟩ := node
  rw [outermostFunctions, if_pos function]

theorem outermostFunctions_of_ne {node : Node} (other : node.type ≠ functionType) :
    node.outermostFunctions = node.children.flatMap outermostFunctions := by
  obtain ⟨type, named, field, start, stop, firstByte, endByte, children⟩ := node
  rw [outermostFunctions, if_neg other, outermostFunctionsAmong_eq_flatMap]

end DeclarationLint.Node
