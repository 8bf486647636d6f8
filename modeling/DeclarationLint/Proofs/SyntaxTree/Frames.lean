import DeclarationLint.Proofs.Statement
import DeclarationLint.Proofs.SyntaxTree.Positions
import DeclarationLint.Proofs.SyntaxTree.Projection

/-!
# What is around a node

A node inside a syntax tree is a hole in the nodes around it, and another node can be put into the
hole. Statements at the hole are shown if all nodes around it look for statements there. Where they
are shown, the count changes by as much as the node in the hole does, and elsewhere not at all.
-/
namespace DeclarationLint.Node

/-- A node with a hole among its children. -/
structure Frame where
  shell : Node
  before : List Node
  after : List Node

namespace Frame

def fill (frame : Frame) (hole : Node) : Node :=
  { frame.shell with children := frame.before ++ hole :: frame.after }

/-- Any number of nodes side by side where the hole is. -/
def spread (frame : Frame) (nodes : List Node) : Node :=
  { frame.shell with children := frame.before ++ (nodes ++ frame.after) }

/-- A role leads to what is in the hole, and to no node before it. -/
structure LeadsTo (frame : Frame) (role : String) (hole : Node) : Prop where
  inRole : hole.field = some role
  first : ∀ earlier ∈ frame.before, earlier.field ≠ some role

/-- The shell looks for a statement at its hole. -/
def Shows (frame : Frame) (hole : Node) : Prop :=
  match nestingOf frame.shell.type with
  | .roles names => ∃ role ∈ names, frame.LeadsTo role hole
  | .namedChildren => hole.named = true
  | .none => False

end Frame

/-- A node inside the holes of frames, which are listed from the outside in. -/
def fill (frames : List Frame) (hole : Node) : Node := frames.foldr Frame.fill hole

@[simp] theorem fill_cons (frame : Frame) (rest : List Frame) (hole : Node) :
    fill (frame :: rest) hole = frame.fill (fill rest hole) := rfl

theorem fill_append (outer inner : List Frame) (hole : Node) :
    fill (outer ++ inner) hole = fill outer (fill inner hole) := List.foldr_append

theorem Frame.fill_eq_spread (frame : Frame) (hole : Node) :
    frame.fill hole = frame.spread [hole] := rfl

theorem Frame.fill_of_split {root hole : Node} {before after : List Node}
    (split : root.children = before ++ hole :: after) :
    Frame.fill ⟨root, before, after⟩ hole = root := by
  change { root with children := before ++ hole :: after } = root
  rw [← split]
  cases root
  rfl

/-- A node is at a position if and only if it is in the hole of frames that have as many nodes
before their holes as the position says. -/
theorem at?_eq_some_iff_fill {root node : Node} {position : Position} :
    root.at? position = some node ↔
      ∃ frames, frames.map (·.before.length) = position ∧ fill frames node = root := by
  constructor
  · intro found
    induction position generalizing root with
    | nil => exact ⟨[], rfl, (Option.some.inj found).symm⟩
    | cons index rest ih =>
      obtain ⟨child, there, deeper⟩ := Option.bind_eq_some_iff.mp found
      obtain ⟨frames, places, same⟩ := ih deeper
      obtain ⟨inRange, rfl⟩ := List.getElem?_eq_some_iff.mp there
      refine ⟨⟨root, root.children.take index, root.children.drop (index + 1)⟩ :: frames, ?_, ?_⟩
      · rw [List.map_cons, places, List.length_take, Nat.min_eq_left (Nat.le_of_lt inRange)]
      · rw [fill_cons]
        apply Frame.fill_of_split
        rw [same, List.getElem_cons_drop, List.take_append_drop]
  · intro filled
    obtain ⟨frames, rfl, rfl⟩ := filled
    induction frames with
    | nil => rfl
    | cons frame rest ih =>
      rw [List.map_cons, at?, fill_cons, Frame.fill, List.getElem?_append_right (Nat.le_refl _),
        Nat.sub_self]
      exact ih

/-- All frames look for statements on the way to the hole. -/
def Shown : List Frame → Node → Prop
  | [], _ => True
  | frame :: rest, hole => frame.Shows (fill rest hole) ∧ Shown rest hole

/-- The same in the body of a function, where statements are looked for in any case. -/
def ShownInBody : List Frame → Node → Prop
  | [], _ => True
  | _ :: rest, hole => (fill rest hole).named = true ∧ Shown rest hole

/-- Two nodes that nodes around them do not tell apart. -/
structure Alike (node other : Node) : Prop where
  type : node.type = other.type
  named : node.named = other.named
  field : node.field = other.field

theorem Alike.fill {hole other : Node} (alike : hole.Alike other) (frames : List Frame) :
    (Node.fill frames hole).Alike (Node.fill frames other) := by
  cases frames with
  | nil => exact alike
  | cons frame rest => exact ⟨rfl, rfl, rfl⟩

/-- How many statements a node amounts to, which is none if it is no statement. -/
def ncss (file : String) (node : Node) : Nat := Statement.ncssAll (node.toStatement? file).toList

/-- The count of the body that a node is. -/
def bodyNcss (file : String) (node : Node) : Nat :=
  Statement.ncssAll (statementsAmong file node.children)

variable {file : String}

theorem ncss_of_none {node : Node} (other : statementKind? node.type node.children = none) :
    node.ncss file = 0 := by
  rw [ncss, toStatement?_eq, other]
  rfl

theorem ncss_of_some {node : Node} {kind : StatementKind}
    (isStatement : statementKind? node.type node.children = some kind) :
    node.ncss file =
      (if kind.counts then 1 else 0) + Statement.ncssAll (node.nested file) := by
  rw [ncss, toStatement?_eq, isStatement]
  rfl

variable (file) in
theorem ncss_of_compound {node : Node} (compound : node.type = "compound_statement") :
    node.ncss file = node.bodyNcss file := by
  have kind : statementKind? node.type node.children = some .block := by
    rw [compound]
    rfl
  rw [ncss_of_some kind, nested_of_namedChildren (by rw [compound]; decide), bodyNcss]
  exact Nat.zero_add _

theorem ncssAll_statementsAmong_cons (node : Node) (rest : List Node) :
    Statement.ncssAll (statementsAmong file (node :: rest)) =
      (if node.named then node.ncss file else 0) +
        Statement.ncssAll (statementsAmong file rest) := by
  rw [statementsAmong_cons, Statement.ncssAll_append]
  split <;> rfl

namespace Frame

variable {frame : Frame} {hole other : Node}

theorem childIn?_fill (role : String) :
    (frame.fill hole).childIn? role =
      (frame.before.find? (·.field = some role)).or
        (if hole.field = some role then some hole
          else frame.after.find? (·.field = some role)) := by
  unfold childIn? fill
  rw [List.find?_append, List.find?_cons]
  by_cases inRole : hole.field = some role <;> simp [inRole]

theorem childIn?_fill_of_leadsTo {role : String} (leads : frame.LeadsTo role hole) :
    (frame.fill hole).childIn? role = some hole := by
  have absent : frame.before.find? (·.field = some role) = none := by
    rw [List.find?_eq_none]
    intro earlier inside
    simpa using leads.first earlier inside
  rw [childIn?_fill, absent, if_pos leads.inRole, Option.none_or]

theorem childIn?_fill_of_not_leadsTo {role : String} (hidden : ¬ frame.LeadsTo role hole)
    (alike : hole.Alike other) :
    (frame.fill other).childIn? role = (frame.fill hole).childIn? role := by
  rw [childIn?_fill, childIn?_fill, ← alike.field]
  by_cases inRole : hole.field = some role
  · cases earlier : frame.before.find? (·.field = some role) with
    | none =>
      refine absurd ⟨inRole, ?_⟩ hidden
      intro node inside
      simpa using List.find?_eq_none.mp earlier node inside
    | some node => rfl
  · rw [if_neg inRole, if_neg inRole]

theorem LeadsTo.of_alike {role : String} (leads : frame.LeadsTo role hole)
    (alike : hole.Alike other) : frame.LeadsTo role other :=
  ⟨alike.field ▸ leads.inRole, leads.first⟩

theorem any_named_fill (alike : hole.Alike other) :
    (frame.fill other).children.any named = (frame.fill hole).children.any named := by
  unfold fill
  simp only [List.any_append, List.any_cons, alike.named]

variable (file) in
theorem bodyNcss_fill (isNamed : hole.named = true) (alike : hole.Alike other) :
    (frame.fill other).bodyNcss file + hole.ncss file =
      (frame.fill hole).bodyNcss file + other.ncss file := by
  have otherNamed : other.named = true := alike.named ▸ isNamed
  unfold bodyNcss fill
  simp only [statementsAmong_append, Statement.ncssAll_append, ncssAll_statementsAmong_cons,
    isNamed, otherNamed, if_true]
  omega

theorem bodyNcss_fill_of_not_named (unnamed : ¬ hole.named = true) (alike : hole.Alike other) :
    (frame.fill other).bodyNcss file = (frame.fill hole).bodyNcss file := by
  have otherUnnamed : ¬ other.named = true := alike.named ▸ unnamed
  unfold bodyNcss fill
  simp only [statementsAmong_append, Statement.ncssAll_append, ncssAll_statementsAmong_cons,
    if_neg unnamed, if_neg otherUnnamed]

end Frame

theorem nodup_of_nestingOf {type : String} {names : List String}
    (nesting : nestingOf type = .roles names) : names.Nodup := by
  unfold nestingOf at nesting
  split at nesting
  · obtain rfl := Nesting.roles.inj nesting
    decide
  · split at nesting
    · obtain rfl := Nesting.roles.inj nesting
      decide
    · split at nesting <;> cases nesting

/-- What has statements inside it is one itself. -/
theorem isSome_statementKind?_of_nestingOf {type : String} (children : List Node)
    (holds : nestingOf type ≠ .none) : (statementKind? type children).isSome = true := by
  unfold nestingOf at holds
  split at holds
  · rename_i conditional
    subst conditional
    rfl
  · split at holds
    · rename_i inBody
      simp only [List.mem_cons, List.not_mem_nil, or_false] at inBody
      rcases inBody with rfl | rfl | rfl | rfl <;> rfl
    · split at holds
      · rename_i container
        simp only [List.mem_cons, List.not_mem_nil, or_false] at container
        rcases container with rfl | rfl | rfl | rfl <;> rfl
      · exact absurd rfl holds

namespace Frame

variable {frame : Frame} {hole other : Node}

variable (file) in
theorem ncssAll_nested_fill (shows : frame.Shows hole) (alike : hole.Alike other) :
    Statement.ncssAll ((frame.fill other).nested file) + hole.ncss file =
      Statement.ncssAll ((frame.fill hole).nested file) + other.ncss file := by
  have sameType : ∀ node, (frame.fill node).type = frame.shell.type := fun _ => rfl
  unfold Shows at shows
  cases nesting : nestingOf frame.shell.type with
  | roles names =>
    rw [nesting] at shows
    obtain ⟨role, member, leads⟩ := shows
    rw [nested_of_roles (sameType other ▸ nesting), nested_of_roles (sameType hole ▸ nesting)]
    -- Only the role that leads to the hole gives other statements than before.
    have change := Statement.ncssAll_flatMap_of_single_change (nodup_of_nestingOf nesting) member
      fun name different => show
        (((frame.fill other).childIn? name).bind (toStatement? file)).toList =
          (((frame.fill hole).childIn? name).bind (toStatement? file)).toList by
        have elsewhere : ¬ frame.LeadsTo name hole := fun both =>
          different (Option.some.inj (both.inRole.symm.trans leads.inRole))
        rw [childIn?_fill_of_not_leadsTo elsewhere alike]
    simp only [childIn?_fill_of_leadsTo leads,
      childIn?_fill_of_leadsTo (leads.of_alike alike), Option.bind_some] at change
    exact change
  | namedChildren =>
    rw [nesting] at shows
    rw [nested_of_namedChildren (sameType other ▸ nesting),
      nested_of_namedChildren (sameType hole ▸ nesting)]
    exact bodyNcss_fill file shows alike
  | none =>
    rw [nesting] at shows
    exact shows.elim

variable (file) in
theorem ncssAll_nested_fill_of_not_shows (hidden : ¬ frame.Shows hole)
    (alike : hole.Alike other) :
    Statement.ncssAll ((frame.fill other).nested file) =
      Statement.ncssAll ((frame.fill hole).nested file) := by
  have sameType : ∀ node, (frame.fill node).type = frame.shell.type := fun _ => rfl
  unfold Shows at hidden
  cases nesting : nestingOf frame.shell.type with
  | roles names =>
    rw [nesting] at hidden
    rw [nested_of_roles (sameType other ▸ nesting), nested_of_roles (sameType hole ▸ nesting)]
    congr 1
    apply List.flatMap_congr
    intro role member
    rw [childIn?_fill_of_not_leadsTo (fun leads => hidden ⟨role, member, leads⟩) alike]
  | namedChildren =>
    rw [nesting] at hidden
    rw [nested_of_namedChildren (sameType other ▸ nesting),
      nested_of_namedChildren (sameType hole ▸ nesting)]
    exact bodyNcss_fill_of_not_named hidden alike
  | none =>
    rw [nested_of_none (sameType other ▸ nesting), nested_of_none (sameType hole ▸ nesting)]

theorem sameKind_fill (alike : hole.Alike other) :
    statementKind? (frame.fill other).type (frame.fill other).children =
      statementKind? (frame.fill hole).type (frame.fill hole).children :=
  statementKind?_congr fun _ => any_named_fill alike

variable (file) in
theorem ncss_fill (shows : frame.Shows hole) (alike : hole.Alike other) :
    (frame.fill other).ncss file + hole.ncss file =
      (frame.fill hole).ncss file + other.ncss file := by
  -- A node that looks for statements is one itself, whatever is in its hole.
  have holds : nestingOf (frame.fill hole).type ≠ .none := by
    intro nesting
    change nestingOf frame.shell.type = .none at nesting
    unfold Shows at shows
    rw [nesting] at shows
    exact shows
  obtain ⟨kind, isStatement⟩ := Option.isSome_iff_exists.mp
    (isSome_statementKind?_of_nestingOf (frame.fill hole).children holds)
  have change := ncssAll_nested_fill file shows alike
  rw [ncss_of_some isStatement, ncss_of_some ((sameKind_fill alike).trans isStatement)]
  omega

theorem ncss_fill_of_not_shows (hidden : ¬ frame.Shows hole) (alike : hole.Alike other) :
    (frame.fill other).ncss file = (frame.fill hole).ncss file := by
  have same := ncssAll_nested_fill_of_not_shows file hidden alike
  cases isStatement : statementKind? (frame.fill hole).type (frame.fill hole).children with
  | none =>
    rw [ncss_of_none isStatement, ncss_of_none ((sameKind_fill alike).trans isStatement)]
  | some kind =>
    rw [ncss_of_some isStatement, ncss_of_some ((sameKind_fill alike).trans isStatement), same]

end Frame

variable {frames : List Frame} {hole other : Node}

variable (file) in
/-- Where statements are shown, the count changes with the node in the hole. -/
theorem ncss_fill_of_shown (shown : Shown frames hole) (alike : hole.Alike other) :
    (fill frames other).ncss file + hole.ncss file =
      (fill frames hole).ncss file + other.ncss file := by
  induction frames with
  | nil => exact Nat.add_comm _ _
  | cons frame rest ih =>
    have inside := ih shown.2
    have outside := Frame.ncss_fill file shown.1 (alike.fill rest)
    rw [fill_cons, fill_cons]
    omega

variable (file) in
/-- Where they are not, the node in the hole does not matter. -/
theorem ncss_fill_of_not_shown (hidden : ¬ Shown frames hole) (alike : hole.Alike other) :
    (fill frames other).ncss file = (fill frames hole).ncss file := by
  induction frames with
  | nil => exact absurd trivial hidden
  | cons frame rest ih =>
    rw [fill_cons, fill_cons]
    by_cases shows : frame.Shows (fill rest hole)
    · have inside := ih fun shown => hidden ⟨shows, shown⟩
      have outside := Frame.ncss_fill file shows (alike.fill rest)
      omega
    · exact Frame.ncss_fill_of_not_shows shows (alike.fill rest)

variable (file) in
/-- In the body of a function a block that is shown changes the count by as much as its own. -/
theorem bodyNcss_fill_of_shown (compound : hole.type = "compound_statement")
    (shown : ShownInBody frames hole) (alike : hole.Alike other) :
    (fill frames other).bodyNcss file + hole.bodyNcss file =
      (fill frames hole).bodyNcss file + other.bodyNcss file := by
  cases frames with
  | nil => exact Nat.add_comm _ _
  | cons frame rest =>
    have inside := ncss_fill_of_shown file shown.2 alike
    have outside := frame.bodyNcss_fill file shown.1 (alike.fill rest)
    have holeCount := ncss_of_compound file compound
    have otherCount := ncss_of_compound file (alike.type.symm.trans compound)
    rw [fill_cons, fill_cons]
    omega

variable (file) in
/-- A node that is not shown does not change the count of the body. -/
theorem bodyNcss_fill_of_not_shown (hidden : ¬ ShownInBody frames hole)
    (alike : hole.Alike other) :
    (fill frames other).bodyNcss file = (fill frames hole).bodyNcss file := by
  cases frames with
  | nil => exact absurd trivial hidden
  | cons frame rest =>
    rw [fill_cons, fill_cons]
    by_cases isNamed : (fill rest hole).named = true
    · have inside := ncss_fill_of_not_shown file
        (fun shown => hidden ⟨isNamed, shown⟩) alike
      have outside := frame.bodyNcss_fill file isNamed (alike.fill rest)
      omega
    · exact Frame.bodyNcss_fill_of_not_named isNamed (alike.fill rest)

end DeclarationLint.Node
