import DeclarationLint.Proofs.Directive.Appended
import DeclarationLint.Proofs.Directive.RoundTrip

/-!
# Line comments and block comments

The scanner is given a comment with its marks. The mark in front comes before every anchor and
never counts. The mark behind closes nothing: it is free text, or part of an argument that stays
open, or part of the keyword inside of which the comment ends. So the style of a comment matters
exactly if a keyword is open at its end, and a directive without an argument that stands last in a
block comment is found under a keyword which nothing knows.
-/
namespace DeclarationLint.Directive

def lineComment (text : String) : String := "//" ++ text

def blockComment (text : String) : String := "/*" ++ text ++ "*/"

/-- The state in which a text leaves the scanner, if it has an anchor. -/
def endState? (text : String) : Option ScanState :=
  (Text.after? anchor text.toList).map ScanState.head.after

/-- The directives that are complete before the end of a text, whatever comes behind it. -/
def completedIn (text : String) : List Directive :=
  (Text.after? anchor text.toList).elim [] ScanState.head.completed

namespace ScanState

/-- The keyword that is being read, which may be empty so far. -/
def openKeyword? : ScanState → Option String
  | keyword read => some (textOf read)
  | _ => none

theorem run_tail_of_notMem {text : List Char} (noColon : ':' ∉ text) (read : List Char) :
    (tail read).run text = [] := by
  -- Only a colon leaves the free text, whatever was read of it before.
  induction text generalizing read with
  | nil => rfl
  | cons c rest ih =>
    have different := List.ne_of_not_mem_cons noColon
    have later := ih (List.not_mem_of_not_mem_cons noColon)
    rw [run_cons]
    by_cases skipped : c = ')' ∨ c = ' '
    · simpa [step, Ne.symm different, skipped] using later read
    · simpa [step, Ne.symm different, skipped] using later (c :: read)

/-- A word at the end of a text goes to the keyword that is open, and is lost if none is. -/
theorem run_word (state : ScanState) {word : List Char} (clean : CleanWord word)
    (present : word ≠ []) :
    state.run word =
      (state.openKeyword?.map fun before => ⟨before ++ String.ofList word, none⟩).toList := by
  cases state with
  | head =>
    have read := run_head_append clean.noColon []
    rwa [List.append_nil] at read
  | keyword read =>
    have whole := run_keyword_append clean.toPlainWord clean.noSpace read []
    rw [List.append_nil, clean.withoutCloses_eq, run_keyword_nil] at whole
    rw [whole]
    simp [bare?, openKeyword?, textOf, present]
  | argument word read => exact run_argument_unclosed clean.noClose word read
  | tail read => exact run_tail_of_notMem clean.noColon read

end ScanState

/-- The keyword inside of which a text ends. -/
def openKeyword? (text : String) : Option String :=
  (endState? text).bind fun state => state.openKeyword?

/-- What a word makes of the end of a text that it is put behind: a directive, if the text ends
inside of a keyword. -/
def wordBehind (text word : String) : List Directive :=
  ((openKeyword? text).map fun before => ⟨before ++ word, none⟩).toList

def spaces (count : Nat) : String := String.ofList (List.replicate count ' ')

theorem cleanWord_suppress : CleanWord suppress.toList :=
  ⟨⟨by decide, by decide⟩, by decide, by decide⟩

theorem cleanWord_closingMark : CleanWord "*/".toList :=
  ⟨⟨by decide, by decide⟩, by decide, by decide⟩

theorem withoutSpaces_spaces (count : Nat) : withoutSpaces (spaces count).toList = [] := by
  rw [withoutSpaces, spaces, String.toList_ofList, List.filter_replicate_of_neg (by decide)]

theorem endState?_of_noAnchor {text : String} (absent : ¬ anchor <:+: text.toList) :
    endState? text = none := by
  rw [endState?, (Text.after?_eq_none_iff anchor text.toList).mpr absent, Option.map_none]

theorem scan_eq_completedIn (text : String) :
    scan text = completedIn text ++ ((endState? text).bind fun state => state.finish).toList := by
  unfold scan completedIn endState?
  cases Text.after? anchor text.toList with
  | none => rfl
  | some following => exact ScanState.run_eq .head following

/-- A text that brings no anchor with it is read in the state in which the text before leaves the
scanner. -/
theorem scan_append {more : String} (apart : ∀ c ∈ more.toList.head?, c ∉ anchor)
    (absent : ¬ anchor <:+: more.toList) (text : String) :
    scan (text ++ more) =
      completedIn text ++ (endState? text).elim [] fun state => state.run more.toList := by
  unfold scan completedIn endState?
  rw [String.toList_append, Text.after?_append apart absent]
  cases Text.after? anchor text.toList with
  | none => rfl
  | some following => exact ScanState.run_append .head following more.toList

theorem notMem_anchor_of_starts {more rest : List Char} {first : Char}
    (starts : more = first :: rest) (other : first ∉ anchor) : ∀ c ∈ more.head?, c ∉ anchor := by
  subst starts
  intro c here
  cases here
  exact other

theorem isPrefix_completedIn (text more : String) : completedIn text <+: scan (text ++ more) := by
  cases search : Text.after? anchor text.toList with
  | none =>
    rw [completedIn, search]
    exact List.nil_prefix
  | some following =>
    rw [completedIn, scan, String.toList_append, search, Text.after?_append_of_some search]
    change _ <+: ScanState.head.run (following ++ more.toList)
    rw [ScanState.run_append]
    exact List.prefix_append _ _

theorem scan_append_word {more word : String} (reads : withoutSpaces more.toList = word.toList)
    (clean : CleanWord word.toList) (present : word ≠ "")
    (apart : ∀ c ∈ more.toList.head?, c ∉ anchor) (absent : 'd' ∉ more.toList) (text : String) :
    scan (text ++ more) = completedIn text ++ wordBehind text word := by
  have noAnchor : ¬ anchor <:+: more.toList := fun inside => absent (inside.subset (by decide))
  have nonempty : word.toList ≠ [] := by simpa using present
  rw [scan_append apart noAnchor, wordBehind, openKeyword?]
  cases endState? text with
  | none => rfl
  | some state =>
    rw [Option.elim_some, Option.bind_some, ← ScanState.run_withoutSpaces, reads,
      state.run_word clean nonempty, String.ofList_toList]

theorem scan_front_append {front : String} (absent : 'd' ∉ front.toList) (text : String) :
    scan (front ++ text) = scan text := by
  have first : anchor = 'd' :: "eclint".toList := by decide
  rw [scan, scan, String.toList_append, first, Text.after?_append_of_notMem absent]

theorem scan_lineComment (text : String) : scan (lineComment text) = scan text :=
  scan_front_append (by decide) text

theorem scan_blockComment (text : String) :
    scan (blockComment text) = completedIn text ++ wordBehind text "*/" := by
  have starts : "*/".toList = '*' :: "/".toList := by decide
  have apart := notMem_anchor_of_starts starts (by decide)
  rw [blockComment, String.append_assoc, scan_front_append (by decide)]
  exact scan_append_word (by decide) cleanWord_closingMark (by decide) apart (by decide) text

/-- Spaces behind the word make no difference, also if a mark follows them. -/
theorem scan_append_suppress {mark : String} (clean : CleanWord mark.toList)
    (absent : 'd' ∉ mark.toList) (text : String) (count : Nat) :
    scan (text ++ (suppress ++ spaces count ++ mark)) =
      completedIn text ++ wordBehind text (suppress ++ mark) := by
  have letters : (suppress ++ spaces count ++ mark).toList =
      suppress.toList ++ (spaces count).toList ++ mark.toList := by
    rw [String.toList_append, String.toList_append]
  have joined : CleanWord (suppress ++ mark).toList := by
    rw [String.toList_append]
    exact cleanWord_suppress.append clean
  have noSeparate : 'd' ∉ (spaces count).toList := by
    rw [spaces, String.toList_ofList]
    exact fun member => absurd (List.eq_of_mem_replicate member) (by decide)
  refine scan_append_word ?_ joined ?_ ?_ ?_ text
  · rw [letters, withoutSpaces_append, withoutSpaces_append, withoutSpaces_spaces,
      cleanWord_suppress.withoutSpaces_eq, clean.withoutSpaces_eq, List.append_nil,
      String.toList_append]
  · intro empty
    exact absurd (String.append_eq_empty_iff.mp empty).1 (by decide)
  · have first : suppress.toList = 's' :: "uppress".toList := by decide
    rw [letters, first]
    exact notMem_anchor_of_starts rfl (by decide)
  · rw [letters, List.mem_append, List.mem_append, not_or, not_or]
    exact ⟨⟨by decide, noSeparate⟩, absent⟩

/-- An open keyword takes the closing mark in, also if it was empty. -/
theorem wordBehind_eq_finish_iff (text : String) :
    wordBehind text "*/" = ((endState? text).bind fun state => state.finish).toList ↔
      ∀ read, endState? text ≠ some (.keyword read) := by
  rw [wordBehind, openKeyword?]
  cases endState? text with
  | none => simp
  | some state =>
    cases state with
    | keyword read =>
      have longer : textOf read ++ "*/" ≠ textOf read := by
        intro equal
        have lengths := congrArg String.length equal
        simp at lengths
      by_cases empty : read = []
      · simp [ScanState.openKeyword?, ScanState.finish, ScanState.bare?, empty]
      · simp [ScanState.openKeyword?, ScanState.finish, ScanState.bare?, empty, longer]
    | head => simp [ScanState.openKeyword?, ScanState.finish]
    | argument word read => simp [ScanState.openKeyword?, ScanState.finish]
    | tail read => simp [ScanState.openKeyword?, ScanState.finish]

/-- A directive that has taken a slash in is no `suppress`. -/
theorem keyword_ne_suppress_of_mem_wordBehind {word : String} (slash : '/' ∈ word.toList)
    {text : String} {directive : Directive} (member : directive ∈ wordBehind text word) :
    directive.keyword ≠ suppress := by
  simp only [wordBehind, Option.mem_toList, Option.map_eq_some_iff] at member
  obtain ⟨before, -, rfl⟩ := member
  intro same
  have inside : '/' ∈ (before ++ word).toList := by
    rw [String.toList_append]
    exact List.mem_append_right _ slash
  change before ++ word = suppress at same
  rw [same] at inside
  exact absurd inside (by decide)

/-- A text means the same in a block comment as in a line comment, unless it ends inside of a
keyword that is still open. In a block comment that keyword takes the closing mark in. So a
`suppress` at the end, which a line comment completes as it is written, never becomes one there. -/
theorem scan_comment_styles :
    (∀ text, scan (blockComment text) = scan (lineComment text) ↔
        ¬ anchor <:+: text.toList ∨ ∀ read, endState? text ≠ some (.keyword read)) ∧
      (∀ text, scan (blockComment text) = completedIn text ++ wordBehind text "*/") ∧
      (∀ text more, completedIn text <+: scan (text ++ more)) ∧
      ∀ text count,
        scan (lineComment (text ++ suppress ++ spaces count)) =
            completedIn text ++ wordBehind text suppress ∧
          scan (blockComment (text ++ suppress ++ spaces count)) =
            completedIn text ++ wordBehind text "suppress*/" ∧
          ∀ directive ∈ wordBehind text "suppress*/", directive.keyword ≠ suppress := by
  refine ⟨fun text => ?_, scan_blockComment, isPrefix_completedIn, fun text count => ⟨?_, ?_,
    fun _ member => keyword_ne_suppress_of_mem_wordBehind (by decide) member⟩⟩
  · rw [scan_blockComment, scan_lineComment, scan_eq_completedIn, List.append_cancel_left_eq,
      wordBehind_eq_finish_iff]
    constructor
    · exact Or.inr
    · rintro (absent | closed)
      · simp [endState?_of_noAnchor absent]
      · exact closed
  · have nothing : CleanWord "".toList := CleanWord.nil
    have last := scan_append_suppress nothing (by decide) text count
    rw [String.append_empty, String.append_empty, ← String.append_assoc] at last
    rw [scan_lineComment, last]
  · have last := scan_append_suppress cleanWord_closingMark (by decide) text count
    rw [← String.append_assoc, ← String.append_assoc] at last
    rw [blockComment, String.append_assoc, scan_front_append (by decide), last]
    rfl

example : scan "/* declint:suppress */" = [⟨"suppress*/", none⟩] := by decide

end DeclarationLint.Directive
