import DeclarationLint.Proofs.Directive.Segments
import DeclarationLint.Proofs.Text.Pieces
import DeclarationLint.Settings

/-!
# Several directives in one comment

A comment can hold several directives, each behind an anchor of its own. Where one of them ends
matters: after a closed argument the scanner takes the next anchor for what it is, but a keyword
without an argument is still open there and takes the anchor in. So the directives of a comment
are found as they are written if all but the last have an argument, and not otherwise.
-/
namespace DeclarationLint.Directive

/-- A directive as it is written behind a colon. -/
def render (directive : Directive) : String :=
  match directive.argument with
  | none => directive.keyword
  | some argument => directive.keyword ++ "(" ++ argument ++ ")"

/-- A keyword that is read as it is written. -/
structure CleanWord (word : List Char) : Prop extends PlainWord word where
  noSpace : ' ' ∉ word
  noClose : ')' ∉ word

/-- An argument that is read as it is written. -/
structure CleanArgument (argument : List Char) : Prop where
  noSpace : ' ' ∉ argument
  noClose : ')' ∉ argument

/-- A directive that can be found in a text. -/
structure Writable (directive : Directive) : Prop where
  keyword : CleanWord directive.keyword.toList
  argument : ∀ argument ∈ directive.argument, CleanArgument argument.toList
  named : directive.argument = none → directive.keyword ≠ ""

/-- A directive of one of the three documented forms. -/
inductive Documented : Directive → Prop where
  | suppressAll : Documented ⟨suppress, none⟩
  | suppressRules {identifiers : String} (clean : CleanArgument identifiers.toList) :
      Documented ⟨suppress, some identifiers⟩
  | configure {pairs : String} (clean : CleanArgument pairs.toList) :
      Documented ⟨ruleConfigure, some pairs⟩

/-- A comment made of directives, each with its own anchor. -/
def commentOf (directives : List Directive) : String :=
  "// " ++ " ".intercalate (directives.map fun directive => "declint:" ++ directive.render)

/-- A keyword without an argument takes in the anchor that follows it. -/
def beforeAnchor (directive : Directive) : Directive :=
  match directive.argument with
  | none => ⟨directive.keyword ++ "declint", none⟩
  | some _ => directive

/-- What is found in a comment made of directives: every one but the last stands in front of an
anchor. -/
def foundIn (directives : List Directive) : List Directive :=
  directives.dropLast.map beforeAnchor ++ directives.getLast?.toList

theorem Documented.writable {directive : Directive} (documented : directive.Documented) :
    directive.Writable := by
  have suppressClean : CleanWord suppress.toList := ⟨⟨by decide, by decide⟩, by decide, by decide⟩
  have configureClean : CleanWord ruleConfigure.toList :=
    ⟨⟨by decide, by decide⟩, by decide, by decide⟩
  cases documented with
  | suppressAll => exact ⟨suppressClean, by simp, fun _ => by decide⟩
  | suppressRules clean => exact ⟨suppressClean, by simpa using clean, by simp⟩
  | configure clean => exact ⟨configureClean, by simpa using clean, by simp⟩

theorem beforeAnchor_eq_self_iff (directive : Directive) :
    directive.beforeAnchor = directive ↔ directive.argument ≠ none := by
  obtain ⟨keyword, argument⟩ := directive
  cases argument with
  | some argument => simp [beforeAnchor]
  | none =>
    have longer : keyword ++ "declint" ≠ keyword := by
      intro equal
      have lengths := congrArg String.length equal
      simp at lengths
    simp [beforeAnchor, longer]

theorem foundIn_cons_cons (directive next : Directive) (rest : List Directive) :
    foundIn (directive :: next :: rest) = directive.beforeAnchor :: foundIn (next :: rest) := by
  simp [foundIn]

theorem foundIn_eq_self_iff (directives : List Directive) :
    foundIn directives = directives ↔
      ∀ directive ∈ directives.dropLast, directive.argument ≠ none := by
  induction directives with
  | nil => simp [foundIn]
  | cons directive rest ih =>
    cases rest with
    | nil => simp [foundIn]
    | cons next rest =>
      rw [foundIn_cons_cons, List.cons.injEq, ih, beforeAnchor_eq_self_iff,
        List.dropLast_cons_cons, List.forall_mem_cons]

theorem CleanWord.withoutCloses_eq {word : List Char} (clean : CleanWord word) :
    withoutCloses word = word :=
  List.filter_eq_self.mpr fun c member => by
    have different : c ≠ ')' := fun close => clean.noClose (close ▸ member)
    simpa using different

theorem CleanWord.withoutSpaces_eq {word : List Char} (clean : CleanWord word) :
    withoutSpaces word = word :=
  List.filter_eq_self.mpr fun c member => by
    have different : c ≠ ' ' := fun space => clean.noSpace (space ▸ member)
    simpa using different

theorem CleanWord.append {first second : List Char} (firstClean : CleanWord first)
    (secondClean : CleanWord second) : CleanWord (first ++ second) where
  noColon := List.not_mem_append firstClean.noColon secondClean.noColon
  noOpen := List.not_mem_append firstClean.noOpen secondClean.noOpen
  noSpace := List.not_mem_append firstClean.noSpace secondClean.noSpace
  noClose := List.not_mem_append firstClean.noClose secondClean.noClose

namespace ScanState

theorem run_space (state : ScanState) (rest : List Char) :
    state.run (' ' :: rest) = state.run rest := by
  rw [run_cons, step_space]
  rfl

theorem run_keyword_clean {word : List Char} (clean : CleanWord word) (rest : List Char) :
    (keyword []).run (word ++ rest) = (keyword word.reverse).run rest := by
  rw [run_keyword_append clean.toPlainWord clean.noSpace, clean.withoutCloses_eq, List.append_nil]

/-- A directive with an argument is complete, whatever comes behind it. -/
theorem run_render_closed {directive : Directive} (writable : directive.Writable)
    (closed : directive.argument ≠ none) (rest : List Char) :
    (keyword []).run (directive.render.toList ++ rest) = directive :: (tail []).run rest := by
  obtain ⟨word, argument⟩ := directive
  cases argument with
  | none => exact absurd rfl closed
  | some argument =>
    have clean := writable.argument argument rfl
    have text : (render ⟨word, some argument⟩).toList ++ rest =
        word.toList ++ '(' :: (argument.toList ++ ')' :: rest) := by
      simp [render]
    rw [text, run_keyword_clean writable.keyword, run_keyword_open,
      run_argument_closed clean.noSpace clean.noClose]
    simp [textOf]

/-- A directive without an argument is still open behind its keyword. -/
theorem run_render_bare {directive : Directive} (writable : directive.Writable)
    (bare : directive.argument = none) (rest : List Char) :
    (keyword []).run (directive.render.toList ++ rest) =
      (keyword directive.keyword.toList.reverse).run rest := by
  rw [render, bare]
  exact run_keyword_clean writable.keyword rest

theorem run_tail_anchor (rest : List Char) :
    (tail []).run (anchor ++ ':' :: rest) = (keyword []).run rest := by
  have inert : Inert anchor := by
    intro before after split
    have colon : ':' ∈ anchor := by simp [split]
    exact absurd colon (by decide)
  have opens : Opens anchor := Or.inr (by decide)
  rw [run_tail_append (by decide) inert, run_tail_colon opens]

theorem run_keyword_anchor (word : List Char) (rest : List Char) :
    (keyword word.reverse).run (anchor ++ ':' :: rest) =
      ⟨String.ofList word ++ "declint", none⟩ :: (keyword []).run rest := by
  have clean : CleanWord anchor := ⟨⟨by decide, by decide⟩, by decide, by decide⟩
  have present : anchor ≠ [] := by decide
  have read : textOf (anchor.reverse ++ word.reverse) = String.ofList word ++ "declint" := by
    rw [textOf, ← List.reverse_append, List.reverse_reverse, String.ofList_append]
    rfl
  rw [run_keyword_append clean.toPlainWord clean.noSpace, clean.withoutCloses_eq,
    run_keyword_colon, bare?, read]
  simp [present]

/-- What the end of the comment makes of its last directive. -/
theorem run_render_last {directive : Directive} (writable : directive.Writable) :
    (keyword []).run directive.render.toList = [directive] := by
  obtain ⟨word, argument⟩ := directive
  rw [← List.append_nil (render _).toList]
  cases argument with
  | some argument =>
    rw [run_render_closed writable (by simp)]
    rfl
  | none =>
    have named : word ≠ "" := writable.named rfl
    rw [run_render_bare writable rfl, run_keyword_nil]
    simp [bare?, textOf, named]

/-- What the anchor of the next directive makes of a directive. -/
theorem run_render_anchor {directive : Directive} (writable : directive.Writable)
    (rest : List Char) :
    (keyword []).run (directive.render.toList ++ ' ' :: (anchor ++ ':' :: rest)) =
      directive.beforeAnchor :: (keyword []).run rest := by
  obtain ⟨word, argument⟩ := directive
  cases argument with
  | some argument =>
    rw [run_render_closed writable (by simp), run_space, run_tail_anchor]
    rfl
  | none =>
    rw [run_render_bare writable rfl, run_space, run_keyword_anchor, String.ofList_toList]
    rfl

theorem run_anchored {directive : Directive} {rest : List Directive}
    (writable : ∀ written ∈ directive :: rest, written.Writable) :
    (keyword []).run (directive.render.toList ++
        rest.flatMap fun next => ' ' :: (anchor ++ ':' :: next.render.toList)) =
      foundIn (directive :: rest) := by
  -- Each directive is read up to the anchor of the next one, and the last to the end.
  induction rest generalizing directive with
  | nil =>
    rw [List.flatMap_nil, List.append_nil, run_render_last (writable directive (by simp))]
    rfl
  | cons next rest ih =>
    have others := ih fun written member => writable written (List.mem_cons_of_mem _ member)
    rw [List.flatMap_cons, foundIn_cons_cons, ← others,
      ← run_render_anchor (writable directive (by simp))]
    simp

end ScanState

theorem toList_commentOf_cons (directive : Directive) (rest : List Directive) :
    (commentOf (directive :: rest)).toList =
      "// ".toList ++ anchor ++ ':' :: (directive.render.toList ++
        rest.flatMap fun next => ' ' :: (anchor ++ ':' :: next.render.toList)) := by
  have word : ∀ written : Directive, ("declint:" ++ written.render).toList =
      anchor ++ ':' :: written.render.toList := by
    intro written
    have mark : "declint:".toList = anchor ++ [':'] := by decide
    rw [String.toList_append, mark, List.append_assoc, List.singleton_append]
  rw [commentOf, String.toList_append, String.toList_intercalate, List.map_cons, List.map_cons,
    Text.intercalate_cons, word]
  simp [List.flatMap_map, word]

/-- In a comment made of directives every keyword without an argument takes in the anchor behind
it, if there is one. -/
theorem scan_commentOf {directives : List Directive}
    (writable : ∀ directive ∈ directives, directive.Writable) :
    scan (commentOf directives) = foundIn directives := by
  cases directives with
  | nil => decide
  | cons directive rest =>
    have first : Text.FirstOccurrence anchor ("// ".toList ++ anchor) "// ".toList [] := by
      simpa using (Text.firstOccurrence_iff anchor "// ".toList []).mpr (by decide)
    rw [scan, toList_commentOf_cons, (first.replace _).after?]
    change ScanState.head.run (':' :: _) = _
    rw [ScanState.run_head_colon, ScanState.run_anchored writable]

/-- A directive with an argument is found right behind the first anchor, whatever spaces are in it
and whatever follows. -/
theorem scan_of_render {text : String} {front spaced rest : List Char} {directive : Directive}
    (found : Text.FirstOccurrence anchor text.toList front spaced)
    (reads : withoutSpaces spaced = ':' :: (directive.render.toList ++ rest))
    (writable : directive.Writable) (closed : directive.argument ≠ none) :
    scan text = directive :: (ScanState.tail []).run rest := by
  rw [scan, found.after?]
  change ScanState.head.run spaced = _
  rw [← ScanState.run_withoutSpaces, reads, ScanState.run_head_colon,
    ScanState.run_render_closed writable closed]

/-- Documented directives that share a comment are found as they are written, and take effect,
if none but the last goes without an argument. Any other one that does is found under a keyword
which nothing knows. -/
theorem scan_shared_comment {directives : List Directive}
    (documented : ∀ directive ∈ directives, directive.Documented) :
    scan (commentOf directives) = foundIn directives ∧
      (scan (commentOf directives) = directives ↔
        ∀ directive ∈ directives.dropLast, directive.argument ≠ none) ∧
      ∀ line, (∀ directive ∈ directives.dropLast, directive.argument ≠ none) →
        Settings.ofComments [⟨line, commentOf directives⟩] =
          directives.foldl (Settings.addDirective line) .empty := by
  have found := scan_commentOf fun directive member => (documented directive member).writable
  refine ⟨found, by rw [found, foundIn_eq_self_iff], ?_⟩
  intro line closed
  have same : scan (commentOf directives) = directives := by
    rw [found, foundIn_eq_self_iff]
    exact closed
  rw [Settings.ofComments, List.foldl_cons, List.foldl_nil, Settings.addComment, same]

def silentLast : List Directive :=
  [⟨suppress, some "a,b"⟩, ⟨ruleConfigure, some "NCSS=5"⟩, ⟨suppress, none⟩]

theorem scan_shared_comment_silent_last :
    (∀ directive ∈ silentLast, directive.Documented) ∧
      commentOf silentLast =
        "// declint:suppress(a,b) declint:rule_configure(NCSS=5) declint:suppress" ∧
      scan (commentOf silentLast) = silentLast ∧
      Settings.ofComments [⟨7, commentOf silentLast⟩] =
        silentLast.foldl (Settings.addDirective 7) .empty := by
  have documented : ∀ directive ∈ silentLast, directive.Documented := by
    simp only [silentLast, List.forall_mem_cons, List.not_mem_nil, false_implies, implies_true,
      and_true]
    exact ⟨.suppressRules ⟨by decide, by decide⟩, .configure ⟨by decide, by decide⟩, .suppressAll⟩
  have closed : ∀ directive ∈ silentLast.dropLast, directive.argument ≠ none := by decide
  obtain ⟨-, asWritten, takesEffect⟩ := scan_shared_comment documented
  exact ⟨documented, by decide, asWritten.mpr closed, takesEffect 7 closed⟩

def silentFirst : List Directive := [⟨suppress, none⟩, ⟨ruleConfigure, some "NCSS=5"⟩]

/-- A directive that should silence its whole line is lost to the anchor behind it. -/
theorem scan_silent_first :
    (∀ directive ∈ silentFirst, directive.Documented) ∧
      commentOf silentFirst = "// declint:suppress declint:rule_configure(NCSS=5)" ∧
      scan (commentOf silentFirst) =
        [⟨"suppressdeclint", none⟩, ⟨"rule_configure", some "NCSS=5"⟩] ∧
      scan (commentOf silentFirst) ≠ silentFirst ∧
      (Settings.ofComments [⟨7, commentOf silentFirst⟩]).isSuppressed 7 "high_ncss" = false := by
  have documented : ∀ directive ∈ silentFirst, directive.Documented := by
    simp only [silentFirst, List.forall_mem_cons, List.not_mem_nil, false_implies, implies_true,
      and_true]
    exact ⟨.suppressAll, .configure ⟨by decide, by decide⟩⟩
  exact ⟨documented, by decide, by decide, by decide, by decide⟩

end DeclarationLint.Directive
