import DeclarationLint.Proofs.Position
import DeclarationLint.SyntaxTree.SourceFile

/-!
# Where nodes stand

The two walks through a syntax tree are one walk, which may be closed to what is inside certain
nodes. It gets to every node that is not inside a closed one, once and in the order of positions.
-/
namespace DeclarationLint.Node

/-- The node at a position inside another one, which is itself at the empty position. -/
def at? (node : Node) : Position → Option Node
  | [] => some node
  | index :: rest => node.children[index]?.bind (·.at? rest)

theorem sizeOf_lt_of_mem_children {node child : Node} (inside : child ∈ node.children) :
    sizeOf child < sizeOf node := by
  obtain ⟨type, named, field, start, stop, firstByte, endByte, children⟩ := node
  have smaller : sizeOf child < sizeOf children := List.sizeOf_lt_of_mem inside
  simp only [mk.sizeOf_spec]
  omega

section Placed

variable (closed : Node → Bool)

mutual

/-- What a walk through a node gets to, with its positions there, if it passes by what is inside
closed nodes. -/
def placed : Node → List (Position × Node)
  | ⟨type, named, field, start, stop, firstByte, endByte, children⟩ =>
    ([], ⟨type, named, field, start, stop, firstByte, endByte, children⟩) ::
      if closed ⟨type, named, field, start, stop, firstByte, endByte, children⟩ then []
      else placedAmong 0 children

/-- The same for several nodes, which are numbered from an index on. -/
def placedAmong (index : Nat) : List Node → List (Position × Node)
  | [] => []
  | node :: rest =>
    (placed node).map (fun stop => (index :: stop.1, stop.2)) ++ placedAmong (index + 1) rest

end

variable {closed}

theorem placedAmong_eq_sideBySide (index : Nat) (nodes : List Node) :
    placedAmong closed index nodes = sideBySide index (nodes.map (placed closed)) := by
  induction nodes generalizing index with
  | nil => rfl
  | cons node rest ih => rw [placedAmong, ih, List.map_cons, sideBySide]

theorem mem_placedAmong_iff {nodes : List Node} {position : Position} {found : Node} :
    (position, found) ∈ placedAmong closed 0 nodes ↔
      ∃ index rest node, position = index :: rest ∧ nodes[index]? = some node ∧
        (rest, found) ∈ node.placed closed := by
  rw [placedAmong_eq_sideBySide, mem_sideBySide_iff]
  simp only [List.getElem?_map, Option.map_eq_some_iff, Nat.zero_add]
  constructor
  · intro member
    obtain ⟨index, rest, listed, same, ⟨node, there, rfl⟩, inside⟩ := member
    exact ⟨index, rest, node, same, there, inside⟩
  · intro member
    obtain ⟨index, rest, node, same, there, inside⟩ := member
    exact ⟨index, rest, _, same, ⟨node, there, rfl⟩, inside⟩

theorem nil_mem_placed_iff {node found : Node} :
    ([], found) ∈ node.placed closed ↔ found = node := by
  obtain ⟨type, named, field, start, stop, firstByte, endByte, children⟩ := node
  rw [placed, List.mem_cons]
  constructor
  · intro member
    rcases member with same | below
    · exact (Prod.mk.inj same).2
    · split at below
      · cases below
      · obtain ⟨index, rest, child, same, -⟩ := mem_placedAmong_iff.mp below
        cases same
  · intro same
    exact Or.inl (by rw [same])

theorem cons_mem_placed_iff {node found : Node} {index : Nat} {rest : Position} :
    (index :: rest, found) ∈ node.placed closed ↔
      closed node = false ∧
        ∃ child, node.children[index]? = some child ∧ (rest, found) ∈ child.placed closed := by
  obtain ⟨type, named, field, start, stop, firstByte, endByte, children⟩ := node
  rw [placed, List.mem_cons, or_iff_right (by simp)]
  by_cases shut : closed ⟨type, named, field, start, stop, firstByte, endByte, children⟩ = true
  · simp [shut]
  · rw [if_neg shut, mem_placedAmong_iff]
    constructor
    · intro member
      obtain ⟨first, others, child, same, there, inside⟩ := member
      obtain ⟨rfl, rfl⟩ := List.cons.inj same
      exact ⟨Bool.eq_false_iff.mpr shut, child, there, inside⟩
    · intro member
      obtain ⟨-, child, there, inside⟩ := member
      exact ⟨index, rest, child, rfl, there, inside⟩

/-- Only a closed node around a node keeps a walk from it. -/
theorem mem_placed_iff {node found : Node} {position : Position} :
    (position, found) ∈ node.placed closed ↔
      node.at? position = some found ∧
        ∀ upper outer, upper <+: position → upper ≠ position →
          node.at? upper = some outer → closed outer = false := by
  induction position generalizing node with
  | nil =>
    rw [nil_mem_placed_iff]
    constructor
    · intro same
      refine ⟨congrArg some same.symm, ?_⟩
      intro upper outer inside different
      exact absurd (List.prefix_nil.mp inside) different
    · intro here
      exact (Option.some.inj here.1).symm
  | cons index rest ih =>
    rw [cons_mem_placed_iff, forall_around_cons_iff]
    simp only [ih, at?, Option.bind_eq_some_iff, Option.some.injEq]
    constructor
    · intro reached
      obtain ⟨opens, child, there, found, around⟩ := reached
      refine ⟨⟨child, there, found⟩, fun outer same => same ▸ opens, ?_⟩
      intro lower outer deeper different at_
      obtain ⟨other, again, at_⟩ := at_
      obtain rfl := Option.some.inj (there.symm.trans again)
      exact around lower outer deeper different at_
    · intro reached
      obtain ⟨⟨child, there, found⟩, opens, around⟩ := reached
      refine ⟨opens node rfl, child, there, found, ?_⟩
      intro lower outer deeper different at_
      exact around lower outer deeper different ⟨child, there, at_⟩

theorem pairwise_placed (node : Node) :
    ((node.placed closed).map Prod.fst).Pairwise (List.Lex (· < ·)) := by
  obtain ⟨type, named, field, start, stop, firstByte, endByte, children⟩ := node
  rw [placed, List.map_cons, List.pairwise_cons]
  constructor
  · intro position member
    obtain ⟨⟨position, found⟩, below, rfl⟩ := List.mem_map.mp member
    split at below
    · cases below
    · obtain ⟨index, rest, child, rfl, -⟩ := mem_placedAmong_iff.mp below
      exact List.Lex.nil
  · split
    · exact List.Pairwise.nil
    · rw [placedAmong_eq_sideBySide]
      apply pairwise_sideBySide
      intro listed member
      obtain ⟨child, inside, rfl⟩ := List.mem_map.mp member
      exact pairwise_placed child

variable (closed) in
theorem listsInOrder_placed (node : Node) :
    ListsInOrder (fun position found => node.at? position = some found ∧
      ∀ upper outer, upper <+: position → upper ≠ position →
        node.at? upper = some outer → closed outer = false) (node.placed closed) where
  ordered := pairwise_placed node
  mem_iff _ _ := mem_placed_iff

end Placed

mutual

theorem map_snd_placed_open (node : Node) :
    (node.placed fun _ => false).map Prod.snd = node.walk := by
  obtain ⟨type, named, field, start, stop, firstByte, endByte, children⟩ := node
  rw [placed, walk, List.map_cons, if_neg Bool.false_ne_true, map_snd_placedAmong_open 0 children]

theorem map_snd_placedAmong_open (index : Nat) (nodes : List Node) :
    (placedAmong (fun _ => false) index nodes).map Prod.snd = walkAll nodes := by
  cases nodes with
  | nil => rfl
  | cons node rest =>
    rw [placedAmong, walkAll, List.map_append, List.map_map, ← map_snd_placed_open node,
      ← map_snd_placedAmong_open (index + 1) rest]
    rfl

end

def isFunction (node : Node) : Bool := node.type = functionType

/-- The function definitions that a walk gets to, if it does not go into them. -/
def placedFunctions (node : Node) : List (Position × Node) :=
  (node.placed isFunction).filter fun stop => stop.2.isFunction

mutual

theorem map_snd_placedFunctions (node : Node) :
    node.placedFunctions.map Prod.snd = node.outermostFunctions := by
  obtain ⟨type, named, field, start, stop, firstByte, endByte, children⟩ := node
  rw [placedFunctions, placed, outermostFunctions, List.filter_cons]
  by_cases function : type = functionType
  · simp [isFunction, function]
  · have among := map_snd_placedFunctionsAmong 0 children
    simpa [isFunction, function] using among

theorem map_snd_placedFunctionsAmong (index : Nat) (nodes : List Node) :
    ((placedAmong isFunction index nodes).filter fun stop => stop.2.isFunction).map Prod.snd =
      outermostFunctionsAmong nodes := by
  cases nodes with
  | nil => rfl
  | cons node rest =>
    rw [placedAmong, outermostFunctionsAmong, List.filter_append, List.map_append,
      List.filter_map, List.map_map, ← map_snd_placedFunctions node,
      map_snd_placedFunctionsAmong (index + 1) rest]
    rfl

end

/-- A function definition that is inside no other one. -/
def OutermostFunctionAt (root : Node) (position : Position) (node : Node) : Prop :=
  root.at? position = some node ∧ node.type = functionType ∧
    ∀ upper outer, upper <+: position → upper ≠ position →
      root.at? upper = some outer → outer.type ≠ functionType

def CommentAt (root : Node) (position : Position) (node : Node) : Prop :=
  root.at? position = some node ∧ node.type = commentType

theorem walkAll_eq_flatMap (nodes : List Node) : walkAll nodes = nodes.flatMap walk := by
  induction nodes with
  | nil => rfl
  | cons node rest ih => rw [walkAll, ih, List.flatMap_cons]

theorem walk_eq (node : Node) : node.walk = node :: node.children.flatMap walk := by
  obtain ⟨type, named, field, start, stop, firstByte, endByte, children⟩ := node
  rw [walk, walkAll_eq_flatMap]

theorem mem_walk_iff {root node : Node} :
    node ∈ root.walk ↔ ∃ position, root.at? position = some node := by
  rw [← map_snd_placed_open, List.mem_map]
  constructor
  · intro member
    obtain ⟨⟨position, found⟩, placed, rfl⟩ := member
    exact ⟨position, (mem_placed_iff.mp placed).1⟩
  · intro reached
    obtain ⟨position, found⟩ := reached
    exact ⟨(position, node), mem_placed_iff.mpr ⟨found, by simp⟩, rfl⟩

theorem at?_append (root : Node) (position inner : Position) :
    root.at? (position ++ inner) = (root.at? position).bind (·.at? inner) := by
  induction position generalizing root with
  | nil => rfl
  | cons index rest ih =>
    simp only [List.cons_append, at?, Option.bind_assoc, ih]

theorem mem_walk_trans {root node inner : Node} (upper : node ∈ root.walk)
    (lower : inner ∈ node.walk) : inner ∈ root.walk := by
  obtain ⟨position, found⟩ := mem_walk_iff.mp upper
  obtain ⟨deeper, there⟩ := mem_walk_iff.mp lower
  exact mem_walk_iff.mpr ⟨position ++ deeper, by rw [at?_append, found]; exact there⟩

theorem self_mem_walk (node : Node) : node ∈ node.walk := mem_walk_iff.mpr ⟨[], rfl⟩

theorem child_mem_walk {node child : Node} (inside : child ∈ node.children) :
    child ∈ node.walk := by
  obtain ⟨index, found⟩ := List.mem_iff_getElem?.mp inside
  exact mem_walk_iff.mpr ⟨[index], by simp [at?, found]⟩

theorem mem_walk_of_mem_outermostFunctions {root function : Node}
    (member : function ∈ root.outermostFunctions) :
    function ∈ root.walk ∧ function.type = functionType := by
  rw [← map_snd_placedFunctions, placedFunctions, List.mem_map] at member
  obtain ⟨⟨position, found⟩, placed, rfl⟩ := member
  obtain ⟨placed, isFunction⟩ := List.mem_filter.mp placed
  exact ⟨mem_walk_iff.mpr ⟨position, (mem_placed_iff.mp placed).1⟩,
    of_decide_eq_true isFunction⟩

end DeclarationLint.Node
