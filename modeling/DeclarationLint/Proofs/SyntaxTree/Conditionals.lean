import DeclarationLint.Proofs.SyntaxTree.Frames
import DeclarationLint.Proofs.SyntaxTree.Outline

/-!
# Conditionals of the preprocessor

Nodes that stand side by side can be put under a conditional of the preprocessor. Outside functions
this changes nothing: the function definitions under a conditional are found, and so are its
comments. In the body of a function a conditional is no statement, and the statements under it are
left out of the count, if they were in it before.
-/
namespace DeclarationLint

namespace Node

def conditionalTypes : List String :=
  ["preproc_if", "preproc_ifdef", "preproc_elif", "preproc_elifdef", "preproc_else"]

/-- The comments that a node and the nodes below it make. -/
def commentsIn (source : List UInt8) (node : Node) : List Comment :=
  (node.walk.filter (·.type = commentType)).map (toComment source)

theorem commentsIn_eq (source : List UInt8) (node : Node) :
    node.commentsIn source =
      (if node.type = commentType then [node.toComment source] else []) ++
        node.children.flatMap (commentsIn source) := by
  unfold commentsIn
  rw [walk_eq, List.filter_cons, List.filter_flatMap, ← List.map_flatMap]
  by_cases comment : node.type = commentType <;> simp [comment]

namespace Frame

/-- A conditional with a hole, which has no functions and comments besides those in the hole. -/
structure IsConditional (frame : Frame) : Prop where
  type : frame.shell.type ∈ conditionalTypes
  plain : ∀ part ∈ frame.before ++ frame.after, ∀ node ∈ part.walk,
    node.type ≠ functionType ∧ node.type ≠ commentType

section Gathering

variable {β : Type} {gather : Node → List β} {frame conditional : Frame}

/-- From around the hole the same is gathered, whatever is in the hole. -/
def Gathers (frame : Frame) (gather : Node → List β) : Prop :=
  ∃ first last, ∀ nodes, gather (frame.spread nodes) = first ++ (nodes.flatMap gather ++ last)

theorem gathers_outermostFunctions (other : frame.shell.type ≠ functionType) :
    frame.Gathers outermostFunctions := by
  refine ⟨frame.before.flatMap outermostFunctions, frame.after.flatMap outermostFunctions, ?_⟩
  intro nodes
  have noFunction : (frame.spread nodes).type ≠ functionType := other
  rw [outermostFunctions_of_ne noFunction, spread, List.flatMap_append, List.flatMap_append]

theorem gathers_commentsIn (source : List UInt8) (frame : Frame) :
    frame.Gathers (commentsIn source) := by
  refine ⟨(if frame.shell.type = commentType then [frame.shell.toComment source] else []) ++
    frame.before.flatMap (commentsIn source), frame.after.flatMap (commentsIn source), ?_⟩
  intro nodes
  rw [commentsIn_eq, spread, List.flatMap_append, List.flatMap_append, List.append_assoc]
  rfl

theorem flatMap_children_spread (nothing : ∀ part ∈ frame.before ++ frame.after, gather part = [])
    (nodes : List Node) : (frame.spread nodes).children.flatMap gather = nodes.flatMap gather := by
  have before : frame.before.flatMap gather = [] :=
    List.flatMap_eq_nil_iff.mpr fun part member => nothing part (List.mem_append_left _ member)
  have after : frame.after.flatMap gather = [] :=
    List.flatMap_eq_nil_iff.mpr fun part member => nothing part (List.mem_append_right _ member)
  rw [spread, List.flatMap_append, List.flatMap_append, before, after, List.nil_append,
    List.append_nil]

namespace IsConditional

theorem ne_function (isConditional : conditional.IsConditional) :
    conditional.shell.type ≠ functionType := by
  have apart : ∀ type ∈ conditionalTypes, type ≠ functionType := by decide
  exact apart _ isConditional.type

theorem ne_comment (isConditional : conditional.IsConditional) :
    conditional.shell.type ≠ commentType := by
  have apart : ∀ type ∈ conditionalTypes, type ≠ commentType := by decide
  exact apart _ isConditional.type

/-- A conditional is no statement of the language. -/
theorem toStatement?_spread (isConditional : conditional.IsConditional) (file : String)
    (run : List Node) : (conditional.spread run).toStatement? file = none := by
  have unlisted : ∀ type ∈ conditionalTypes, statementKinds.lookup type = none := by decide
  have noKind : statementKinds.lookup (conditional.spread run).type = none :=
    unlisted _ isConditional.type
  rw [toStatement?_eq, statementKind?, noKind]
  rfl

theorem outermostFunctions_spread (isConditional : conditional.IsConditional)
    (run : List Node) :
    (conditional.spread run).outermostFunctions = run.flatMap outermostFunctions := by
  have nothing : ∀ part ∈ conditional.before ++ conditional.after,
      part.outermostFunctions = [] := by
    intro part member
    rw [List.eq_nil_iff_forall_not_mem]
    intro function inside
    obtain ⟨reached, isFunction⟩ := mem_walk_of_mem_outermostFunctions inside
    exact (isConditional.plain part member function reached).1 isFunction
  have noFunction : (conditional.spread run).type ≠ functionType := isConditional.ne_function
  rw [outermostFunctions_of_ne noFunction, flatMap_children_spread nothing]

theorem commentsIn_spread (isConditional : conditional.IsConditional) (source : List UInt8)
    (run : List Node) :
    (conditional.spread run).commentsIn source = run.flatMap (commentsIn source) := by
  have nothing : ∀ part ∈ conditional.before ++ conditional.after,
      part.commentsIn source = [] := by
    intro part member
    rw [commentsIn, List.map_eq_nil_iff, List.filter_eq_nil_iff]
    intro node inside
    simpa using (isConditional.plain part member node inside).2
  have noComment : (conditional.spread run).type ≠ commentType := isConditional.ne_comment
  rw [commentsIn_eq, if_neg noComment, flatMap_children_spread nothing, List.nil_append]

end IsConditional

end Gathering

variable {definition : Frame} {hole other : Node}

/-- Another body makes another body of the declaration, and nothing else of it changes. -/
theorem toFunction_fill (leads : definition.LeadsTo bodyRole hole) (alike : hole.Alike other)
    (file : String) (source : List UInt8) :
    (definition.fill other).toFunction file source =
      ((definition.fill hole).toFunction file source).map fun declaration =>
        { declaration with body := some (statementsAmong file other.children) } := by
  have elsewhere : ¬ definition.LeadsTo declaratorRole hole := by
    intro both
    have same := Option.some.inj (leads.inRole.symm.trans both.inRole)
    exact absurd same (by decide)
  unfold toFunction functionParts
  rw [childIn?_fill_of_leadsTo leads, childIn?_fill_of_leadsTo (leads.of_alike alike),
    childIn?_fill_of_not_leadsTo elsewhere alike]
  cases (definition.fill hole).childIn? declaratorRole <;> rfl

theorem ncss_of_toFunction_fill {file : String} {source : List UInt8} {declaration : Declaration}
    (leads : definition.LeadsTo bodyRole hole)
    (made : (definition.fill hole).toFunction file source = .ok declaration) :
    declaration.ncss = hole.bodyNcss file := by
  obtain ⟨body, inBody, statements⟩ := (toFunction_eq_ok_iff.mp made).body
  obtain rfl : hole = body := Option.some.inj ((childIn?_fill_of_leadsTo leads).symm.trans inBody)
  rw [Declaration.ncss, statements]
  rfl

end Frame

/-- What is gathered around a hole does not depend on the node in the hole. -/
theorem exists_gathered_around {β : Type} {gather : Node → List β} {frames : List Frame}
    (each : ∀ frame ∈ frames, frame.Gathers gather) :
    ∃ first last, ∀ hole, gather (fill frames hole) = first ++ (gather hole ++ last) := by
  induction frames with
  | nil => exact ⟨[], [], fun hole => (List.append_nil (gather hole)).symm⟩
  | cons frame rest ih =>
    obtain ⟨first, last, inside⟩ := ih fun frame member =>
      each frame (List.mem_cons_of_mem _ member)
    obtain ⟨before, after, gathered⟩ := each frame List.mem_cons_self
    refine ⟨before ++ first, last ++ after, ?_⟩
    intro hole
    rw [fill_cons, Frame.fill_eq_spread, gathered, List.flatMap_singleton, inside]
    simp only [List.append_assoc]

end Node

/-- Another file has another body for one declaration, which counts less by so many statements. -/
def SourceFile.LosesIn (file : SourceFile) (declaration : Declaration) (lost : Nat)
    (changed : SourceFile) : Prop :=
  ∃ earlier later body, file.declarations = earlier ++ declaration :: later ∧
    changed = { file with
      declarations := earlier ++ { declaration with body := some body } :: later } ∧
    Statement.ncssAll body + lost = declaration.ncss

open Node

/-- In a syntax tree some nodes side by side are put under a conditional. -/
structure Guarding where
  hasError : Bool
  frames : List Frame
  holder : Frame
  run : List Node
  conditional : Frame
  isConditional : conditional.IsConditional

namespace Guarding

/-- The node in which the nodes stand side by side. -/
def block (guarding : Guarding) : Node := guarding.holder.spread guarding.run

/-- The same node after the change. -/
def guardedBlock (guarding : Guarding) : Node :=
  guarding.holder.fill (guarding.conditional.spread guarding.run)

theorem alike (guarding : Guarding) : guarding.block.Alike guarding.guardedBlock := ⟨rfl, rfl, rfl⟩

def before (guarding : Guarding) : SyntaxTree :=
  ⟨guarding.hasError, fill guarding.frames guarding.block⟩

def after (guarding : Guarding) : SyntaxTree :=
  ⟨guarding.hasError, fill guarding.frames guarding.guardedBlock⟩

/-- No function is around the nodes. -/
def OutsideFunctions (guarding : Guarding) : Prop :=
  ∀ frame ∈ guarding.holder :: guarding.frames, frame.shell.type ≠ functionType

/-- The nodes stand in a block, at any depth in the body of an outermost function. -/
structure InBody (guarding : Guarding) (outer : List Frame) (definition : Frame)
    (inner : List Frame) : Prop where
  frames : guarding.frames = outer ++ definition :: inner
  outside : ∀ frame ∈ outer, frame.shell.type ≠ functionType
  function : definition.shell.type = functionType
  body : definition.LeadsTo bodyRole (fill inner guarding.block)
  compound : guarding.block.type = "compound_statement"

variable (guarding : Guarding) (identifier : String) (source : List UInt8)

/-- If nothing is gathered from the conditional itself, as much is gathered as before. -/
theorem gather_guardedBlock {β : Type} {gather : Node → List β}
    (gathers : guarding.holder.Gathers gather)
    (passes : ∀ nodes, gather (guarding.conditional.spread nodes) = nodes.flatMap gather) :
    gather guarding.guardedBlock = gather guarding.block := by
  obtain ⟨first, last, gathered⟩ := gathers
  rw [guardedBlock, block, Frame.fill_eq_spread, gathered, gathered, List.flatMap_singleton, passes]

theorem comments_after : guarding.after.comments source = guarding.before.comments source := by
  obtain ⟨first, last, around⟩ := exists_gathered_around
    fun frame (_ : frame ∈ guarding.frames) => frame.gathers_commentsIn source
  change commentsIn source (fill _ _) = commentsIn source (fill _ _)
  rw [around, around, guarding.gather_guardedBlock (guarding.holder.gathers_commentsIn source)
    (guarding.isConditional.commentsIn_spread source)]

/-- The block loses the statements that are put under the conditional. -/
theorem bodyNcss_guardedBlock :
    guarding.guardedBlock.bodyNcss identifier +
        Statement.ncssAll (statementsAmong identifier guarding.run) =
      guarding.block.bodyNcss identifier := by
  have nothing : (guarding.conditional.spread guarding.run).ncss identifier = 0 := by
    rw [ncss, guarding.isConditional.toStatement?_spread]
    rfl
  unfold Frame.spread at nothing
  unfold bodyNcss guardedBlock block Frame.fill Frame.spread
  simp only [statementsAmong_append, Statement.ncssAll_append, ncssAll_statementsAmong_cons,
    nothing, ite_self]
  omega

variable {guarding}

/-- Outside functions all functions and comments are found under a conditional as before. -/
theorem toSourceFile_after_of_outside (outside : guarding.OutsideFunctions) :
    guarding.after.toSourceFile identifier source =
      guarding.before.toSourceFile identifier source := by
  obtain ⟨first, last, around⟩ := exists_gathered_around
    fun frame (member : frame ∈ guarding.frames) =>
      Frame.gathers_outermostFunctions (outside frame (List.mem_cons_of_mem _ member))
  have inHolder := Frame.gathers_outermostFunctions (outside guarding.holder List.mem_cons_self)
  have functions : guarding.after.root.outermostFunctions =
      guarding.before.root.outermostFunctions := by
    unfold after before
    rw [around, around, guarding.gather_guardedBlock inHolder
      guarding.isConditional.outermostFunctions_spread]
  rw [SyntaxTree.toSourceFile_eq_map, SyntaxTree.toSourceFile_eq_map, functions,
    guarding.comments_after source]

theorem outermostFunctions_of_inBody {outer inner : List Frame} {definition : Frame}
    (inBody : guarding.InBody outer definition inner) :
    ∃ first last, ∀ hole, (fill guarding.frames hole).outermostFunctions =
      first ++ definition.fill (fill inner hole) :: last := by
  obtain ⟨first, last, around⟩ := exists_gathered_around fun frame (member : frame ∈ outer) =>
    Frame.gathers_outermostFunctions (inBody.outside frame member)
  refine ⟨first, last, ?_⟩
  intro hole
  have function : (definition.fill (fill inner hole)).type = functionType := inBody.function
  rw [inBody.frames, fill_append, around, fill_cons, outermostFunctions_of_function function,
    List.singleton_append]

/-- What is under the conditional is lost to the count of the body, if it was in it before. -/
theorem bodyNcss_after {inner : List Frame}
    (compound : guarding.block.type = "compound_statement") :
    (ShownInBody inner guarding.block →
      (fill inner guarding.guardedBlock).bodyNcss identifier +
          Statement.ncssAll (statementsAmong identifier guarding.run) =
        (fill inner guarding.block).bodyNcss identifier) ∧
    (¬ ShownInBody inner guarding.block →
      (fill inner guarding.guardedBlock).bodyNcss identifier =
        (fill inner guarding.block).bodyNcss identifier) := by
  constructor
  · intro shown
    have whole := bodyNcss_fill_of_shown identifier compound shown guarding.alike
    have block := guarding.bodyNcss_guardedBlock identifier
    omega
  · intro hidden
    exact bodyNcss_fill_of_not_shown identifier hidden guarding.alike

/-- Putting nodes side by side under a conditional changes nothing in the source file, if there is
no function around them. In the body of a function it changes at most that body, and there the
statements under the conditional do not count any more, if they did before. -/
theorem toSourceFile_guarded (guarding : Guarding) (identifier : String) (source : List UInt8) :
    (guarding.OutsideFunctions → guarding.after.toSourceFile identifier source =
      guarding.before.toSourceFile identifier source) ∧
    ∀ outer definition inner, guarding.InBody outer definition inner →
      (∀ defect, guarding.after.toSourceFile identifier source = .error defect ↔
        guarding.before.toSourceFile identifier source = .error defect) ∧
      ∀ file, guarding.before.toSourceFile identifier source = .ok file →
        ∃ declaration changed,
          (definition.fill (fill inner guarding.block)).toFunction identifier source =
            .ok declaration ∧
          guarding.after.toSourceFile identifier source = .ok changed ∧
          (ShownInBody inner guarding.block → file.LosesIn declaration
            (Statement.ncssAll (statementsAmong identifier guarding.run)) changed) ∧
          (¬ ShownInBody inner guarding.block → file.LosesIn declaration 0 changed) := by
  refine ⟨toSourceFile_after_of_outside identifier source, ?_⟩
  intro outer definition inner inBody
  -- One of the outermost functions has the block in it, and the others are the same before and after.
  obtain ⟨first, last, functions⟩ := outermostFunctions_of_inBody inBody
  obtain ⟨errors, values⟩ := mapM_single_change
    (Frame.toFunction_fill inBody.body (guarding.alike.fill inner) identifier source) first last
  have before : guarding.before.root.outermostFunctions = _ := functions guarding.block
  have after : guarding.after.root.outermostFunctions = _ := functions guarding.guardedBlock
  rw [SyntaxTree.toSourceFile_eq_map, SyntaxTree.toSourceFile_eq_map, before, after,
    guarding.comments_after source]
  cases made : (first ++ definition.fill (fill inner guarding.block) :: last).mapM
      (toFunction identifier source) with
  | error defect =>
    rw [(errors defect).mpr made]
    exact ⟨fun _ => Iff.rfl, fun _ success => by cases success⟩
  | ok declarations =>
    obtain ⟨earlier, declaration, later, rfl, function, changed⟩ := values declarations made
    obtain ⟨shown, hidden⟩ := bodyNcss_after identifier inBody.compound
    have count := Frame.ncss_of_toFunction_fill inBody.body function
    rw [changed]
    refine ⟨fun _ => by simp [Except.map], ?_⟩
    intro file success
    obtain rfl := Except.ok.inj success
    refine ⟨declaration, _, function, rfl, ?_, ?_⟩
    · intro isShown
      exact ⟨earlier, later, _, rfl, rfl, (shown isShown).trans count.symm⟩
    · intro isHidden
      exact ⟨earlier, later, _, rfl, rfl, (hidden isHidden).trans count.symm⟩

/-- A condition that is a name. -/
def ifDefined : Frame where
  shell := ofType "preproc_ifdef" none []
  before := [ofType "identifier" (some "name") []]
  after := []

theorem isConditional_ifDefined : ifDefined.IsConditional where
  type := by decide
  plain := by decide

def unitFrame : Frame := ⟨ofType "translation_unit" none [], [], []⟩

def functionFrame : Frame where
  shell := ofType "function_definition" none []
  before := [ofType "function_declarator" (some "declarator")
    [ofType "identifier" (some "declarator") []]]
  after := []

/-- A call and a return in the branch of a condition, with a declaration before the condition. -/
def guardedBranch : Guarding where
  hasError := false
  frames :=
    [unitFrame, functionFrame,
      ⟨ofType "compound_statement" (some "body") [], [ofType "declaration" none []], []⟩,
      ⟨ofType "if_statement" none [], [], []⟩]
  holder := ⟨ofType "compound_statement" (some "consequence") [], [], [ofType "comment" none []]⟩
  run := [ofType "expression_statement" none [ofType "call_expression" none []],
    ofType "return_statement" none []]
  conditional := ifDefined
  isConditional := isConditional_ifDefined

/-- The function with this branch, put under a conditional itself. -/
def guardedFunction : Guarding where
  hasError := false
  frames := []
  holder := unitFrame
  run := guardedBranch.before.root.children
  conditional := ifDefined
  isConditional := isConditional_ifDefined

theorem inBody_guardedBranch :
    guardedBranch.InBody [unitFrame] functionFrame (guardedBranch.frames.drop 2) where
  frames := rfl
  outside := by decide
  function := rfl
  body := ⟨rfl, by decide⟩
  compound := rfl

theorem shownInBody_guardedBranch :
    ShownInBody (guardedBranch.frames.drop 2) guardedBranch.block :=
  ⟨rfl, ⟨"consequence", by decide, rfl, by decide⟩, trivial⟩

theorem toSourceFile_guarded_branch :
    guardedFunction.after.toSourceFile "t.c" [102] =
        guardedFunction.before.toSourceFile "t.c" [102] ∧
      ∃ file declaration changed, guardedBranch.before.toSourceFile "t.c" [102] = .ok file ∧
        guardedBranch.after.toSourceFile "t.c" [102] = .ok changed ∧
        file.LosesIn declaration 2 changed := by
  have outside : guardedFunction.OutsideFunctions := by
    unfold OutsideFunctions
    decide
  have found := (toSourceFile_guarded guardedFunction "t.c" [102]).1 outside
  obtain ⟨-, bodies⟩ := (toSourceFile_guarded guardedBranch "t.c" [102]).2 _ _ _
    inBody_guardedBranch
  obtain ⟨declaration, changed, -, made, shown, -⟩ := bodies _ rfl
  exact ⟨found, _, declaration, changed, rfl, made, shown shownInBody_guardedBranch⟩

/-- A function with one call, as a parser finds it in a file of five lines. -/
def guardedCall : Guarding where
  hasError := false
  frames :=
    [⟨⟨"translation_unit", true, none, ⟨0, 0⟩, ⟨5, 0⟩, 0, 39, []⟩, [], []⟩,
      ⟨⟨"function_definition", true, none, ⟨0, 0⟩, ⟨4, 1⟩, 0, 38, []⟩,
        [⟨"primitive_type", true, some "type", ⟨0, 0⟩, ⟨0, 3⟩, 0, 3, []⟩,
          ⟨"function_declarator", true, some "declarator", ⟨0, 4⟩, ⟨0, 11⟩, 4, 11,
            [⟨"identifier", true, some "declarator", ⟨0, 4⟩, ⟨0, 5⟩, 4, 5, []⟩,
              ⟨"parameter_list", true, some "parameters", ⟨0, 5⟩, ⟨0, 11⟩, 5, 11, []⟩]⟩], []⟩]
  holder := ⟨⟨"compound_statement", true, some "body", ⟨0, 12⟩, ⟨4, 1⟩, 12, 38, []⟩, [], []⟩
  run := [⟨"expression_statement", true, none, ⟨2, 2⟩, ⟨2, 6⟩, 25, 29,
    [⟨"call_expression", true, none, ⟨2, 2⟩, ⟨2, 5⟩, 25, 28, []⟩]⟩]
  conditional := ⟨⟨"preproc_ifdef", true, none, ⟨1, 0⟩, ⟨3, 6⟩, 14, 36, []⟩,
    [⟨"identifier", true, some "name", ⟨1, 7⟩, ⟨1, 8⟩, 21, 22, []⟩], []⟩
  isConditional := ⟨by decide, by decide⟩

def callSource : List UInt8 :=
  "int f(void) \x7b\n#ifdef A\n  g();\n#endif\n\x7d\n".toList.map fun char =>
    UInt8.ofNat char.toNat

/-- The call counts, but not under a conditional. -/
theorem guarded_call_not_counted :
    guardedCall.run.map (·.type) = ["expression_statement"] ∧
      guardedCall.InBody (guardedCall.frames.take 1) (guardedCall.frames[1]) [] ∧
      ((guardedCall.before.toSourceFile "a.c" callSource).map fun file =>
        file.declarations.map Declaration.ncss) = .ok [1] ∧
      ((guardedCall.after.toSourceFile "a.c" callSource).map fun file =>
        file.declarations.map Declaration.ncss) = .ok [0] := by
  refine ⟨rfl, ?_, rfl, rfl⟩
  exact ⟨rfl, by decide, rfl, ⟨rfl, by decide⟩, rfl⟩

end Guarding
end DeclarationLint
