import DeclarationLint.Proofs.Directive.Segments
import DeclarationLint.Proofs.Text.Pieces

/-!
# Text behind a comment

The scanner never takes back what it has completed. What it has found at the end of a text it
finds in every longer text too, with one exception: a keyword without an argument that only the
end of the text completed. That one is still open, and can grow, get an argument or be lost.
-/
namespace DeclarationLint.Directive

/-- What was found in a text and stays, whatever comes behind it: all of it, up to a last
directive without an argument. -/
def settled (directives : List Directive) : List Directive :=
  if directives.getLast?.any (·.argument.isNone) then directives.dropLast else directives

theorem settled_concat (earlier : List Directive) (last : Directive) :
    settled (earlier ++ [last]) = if last.argument = none then earlier else earlier ++ [last] := by
  simp [settled]

theorem isPrefix_settled (directives : List Directive) : settled directives <+: directives := by
  unfold settled
  split
  · exact List.dropLast_prefix directives
  · exact List.prefix_refl directives

/-- A directive stays if it has an argument or another one behind it. -/
theorem getElem?_settled {directives : List Directive} {index : Nat} {directive : Directive}
    (found : directives[index]? = some directive)
    (complete : directive.argument ≠ none ∨ index + 1 < directives.length) :
    (settled directives)[index]? = some directive := by
  rcases List.eq_nil_or_concat directives with rfl | ⟨earlier, last, rfl⟩
  · cases found
  · rw [List.concat_eq_append] at found complete ⊢
    rw [settled_concat]
    split
    · rename_i bare
      have inside : index < earlier.length := by
        rcases complete with closed | followed
        · by_contra outside
          have isLast : directive = last := by
            rw [List.getElem?_append_right (by omega)] at found
            exact List.mem_singleton.mp (List.mem_of_getElem? found)
          exact closed (isLast ▸ bare)
        · simpa using followed
      rwa [List.getElem?_append_left inside] at found
    · exact found

namespace ScanState

/-- The state in which a text leaves the scanner. -/
def after : ScanState → List Char → ScanState
  | state, [] => state
  | state, c :: rest => (state.step c).1.after rest

/-- What a text completes by itself, before anything is known about its end. -/
def completed : ScanState → List Char → List Directive
  | _, [] => []
  | state, c :: rest => (state.step c).2.toList ++ (state.step c).1.completed rest

/-- A text is read by reading its first part and going on in the state which that leaves. -/
theorem run_append (state : ScanState) (first second : List Char) :
    state.run (first ++ second) = state.completed first ++ (state.after first).run second := by
  induction first generalizing state with
  | nil => rfl
  | cons c rest ih =>
    -- What a character completes does not depend on the characters behind it.
    rw [List.cons_append, run_cons, ih, completed, after, List.append_assoc]

theorem run_eq (state : ScanState) (text : List Char) :
    state.run text = state.completed text ++ (state.after text).finish.toList := by
  have whole := run_append state text []
  rw [List.append_nil] at whole
  exact whole

/-- The end of a text completes no directive but one without an argument. -/
theorem argument_of_finish {state : ScanState} {directive : Directive}
    (found : state.finish = some directive) : directive.argument = none := by
  cases state with
  | keyword read =>
    simp only [finish, bare?] at found
    split at found
    · cases found
    · cases found
      rfl
  | head => cases found
  | argument word read => cases found
  | tail read => cases found

theorem isPrefix_settled_run (state : ScanState) (text : List Char) :
    settled (state.run text) <+: state.completed text := by
  rw [run_eq]
  cases atEnd : (state.after text).finish with
  | none =>
    rw [Option.toList_none, List.append_nil]
    exact isPrefix_settled _
  | some directive =>
    have bare := argument_of_finish atEnd
    simp [settled_concat, bare]

theorem settled_run_append (state : ScanState) (text more : List Char) :
    settled (state.run text) <+: state.run (text ++ more) := by
  rw [run_append]
  exact (isPrefix_settled_run state text).trans (List.prefix_append _ _)

end ScanState

theorem isPrefix_settled_scan (text more : String) :
    settled (scan text) <+: scan (text ++ more) := by
  cases search : Text.after? anchor text.toList with
  | none =>
    -- the first anchor may come with the appended text, or lie across the seam
    have nothing : scan text = [] := by rw [scan, search]
    rw [nothing]
    exact List.nil_prefix
  | some following =>
    rw [scan, scan, String.toList_append, search, Text.after?_append_of_some search]
    exact ScanState.settled_run_append .head following more.toList

/-- Whatever is written behind a comment does its damage at the end: of the directives found
before, all but a last one without an argument are found again, in their places. -/
theorem scan_append_settled (text more : String) :
    settled (scan text) <+: scan (text ++ more) ∧
      ∀ index directive, (scan text)[index]? = some directive →
        (directive.argument ≠ none ∨ index + 1 < (scan text).length) →
        (scan (text ++ more))[index]? = some directive := by
  have kept := isPrefix_settled_scan text more
  refine ⟨kept, fun index directive found complete => ?_⟩
  have stays := getElem?_settled found complete
  obtain ⟨inside, -⟩ := List.getElem?_eq_some_iff.mp stays
  obtain ⟨behind, joined⟩ := kept
  rw [← joined, List.getElem?_append_left inside]
  exact stays

/-- The appended text completes an anchor that the comment ends in the middle of, and opens an
argument that it never closes. The keyword that was still open takes the anchor in and is lost
with the argument. -/
theorem scan_append_settled_split_anchor :
    scan "// declint:a(b):c declint:suppress dec" =
        [⟨"a", some "b"⟩, ⟨"cdeclint", none⟩, ⟨"suppressdec", none⟩] ∧
      scan ("// declint:a(b):c declint:suppress dec" ++ "lint(:d") =
        [⟨"a", some "b"⟩, ⟨"cdeclint", none⟩] ∧
      (scan ("// declint:a(b):c declint:suppress dec" ++ "lint(:d"))[1]? =
        some ⟨"cdeclint", none⟩ := by
  have found : scan "// declint:a(b):c declint:suppress dec" =
      [⟨"a", some "b"⟩, ⟨"cdeclint", none⟩, ⟨"suppressdec", none⟩] := by decide
  refine ⟨found, by decide, (scan_append_settled _ _).2 1 _ ?_ (Or.inr ?_)⟩
  · rw [found]
    rfl
  · rw [found]
    decide

end DeclarationLint.Directive
