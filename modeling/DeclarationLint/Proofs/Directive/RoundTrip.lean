import DeclarationLint.Proofs.Directive.Sequence

/-!
# Directives written down and found again

The scanner finds nothing that could not have been written as it is found: whatever ends a word or
an argument never gets into one. Conversely directives that can be written, one after the other
behind a single anchor, are found as they are written. So the lists that some comment means are
exactly the lists of writable directives, and to write down what was found loses nothing.
-/
namespace DeclarationLint.Directive

/-- Directives one after the other behind a single anchor. -/
def listing (directives : List Directive) : String :=
  "declint" ++ String.join (directives.map fun directive => ":" ++ directive.render)

theorem CleanWord.nil : CleanWord [] := ⟨⟨by simp, by simp⟩, by simp, by simp⟩

theorem CleanArgument.nil : CleanArgument [] := ⟨by simp, by simp⟩

theorem CleanWord.cons {c : Char} {word : List Char} (clean : CleanWord word) (notColon : c ≠ ':')
    (notOpen : c ≠ '(') (notClose : c ≠ ')') (notSpace : c ≠ ' ') : CleanWord (c :: word) :=
  ⟨⟨List.not_mem_cons_of_ne_of_not_mem notColon.symm clean.noColon,
      List.not_mem_cons_of_ne_of_not_mem notOpen.symm clean.noOpen⟩,
    List.not_mem_cons_of_ne_of_not_mem notSpace.symm clean.noSpace,
    List.not_mem_cons_of_ne_of_not_mem notClose.symm clean.noClose⟩

theorem CleanArgument.cons {c : Char} {argument : List Char} (clean : CleanArgument argument)
    (notClose : c ≠ ')') (notSpace : c ≠ ' ') : CleanArgument (c :: argument) :=
  ⟨List.not_mem_cons_of_ne_of_not_mem notSpace.symm clean.noSpace,
    List.not_mem_cons_of_ne_of_not_mem notClose.symm clean.noClose⟩

theorem CleanWord.textOf {read : List Char} (clean : CleanWord read) :
    CleanWord (textOf read).toList := by
  obtain ⟨⟨noColon, noOpen⟩, noSpace, noClose⟩ := clean
  rw [Directive.textOf, String.toList_ofList]
  exact ⟨⟨by simpa using noColon, by simpa using noOpen⟩, by simpa using noSpace,
    by simpa using noClose⟩

theorem CleanArgument.textOf {read : List Char} (clean : CleanArgument read) :
    CleanArgument (textOf read).toList := by
  obtain ⟨noSpace, noClose⟩ := clean
  rw [Directive.textOf, String.toList_ofList]
  exact ⟨by simpa using noSpace, by simpa using noClose⟩

namespace ScanState

/-- What was read so far can be written in a directive. -/
def Clean : ScanState → Prop
  | head => True
  | keyword read => CleanWord read
  | argument word read => CleanWord word.toList ∧ CleanArgument read
  | tail _ => True

theorem writable_of_mem_bare? {read : List Char} (clean : CleanWord read) {directive : Directive}
    (found : directive ∈ bare? read) : directive.Writable := by
  unfold bare? at found
  split at found
  · cases found
  · rename_i present
    cases found
    refine ⟨clean.textOf, by simp, fun _ empty => present ?_⟩
    have reversed : read.reverse = [] := by simpa [textOf] using congrArg String.toList empty
    simpa using reversed

/-- One character keeps what is read writable, and completes only what is. -/
theorem Clean.step {state : ScanState} (clean : state.Clean) (c : Char) :
    (state.step c).1.Clean ∧ ∀ directive ∈ (state.step c).2, directive.Writable := by
  cases state with
  | head =>
    refine ⟨?_, by simp [ScanState.step]⟩
    by_cases colon : c = ':'
    · simpa [ScanState.step, colon, Clean] using CleanWord.nil
    · simp [ScanState.step, colon, Clean]
  | keyword read =>
    have clean : CleanWord read := clean
    by_cases colon : c = ':'
    · subst colon
      exact ⟨CleanWord.nil, fun directive found => writable_of_mem_bare? clean found⟩
    by_cases opened : c = '('
    · subst opened
      exact ⟨⟨clean.textOf, CleanArgument.nil⟩, by simp [ScanState.step]⟩
    by_cases skipped : c = ')' ∨ c = ' '
    · simpa [ScanState.step, colon, opened, skipped, Clean] using clean
    · have kept := not_or.mp skipped
      simpa [ScanState.step, colon, opened, skipped, Clean] using
        clean.cons colon opened kept.1 kept.2
  | argument word read =>
    obtain ⟨wordClean, argumentClean⟩ := clean
    by_cases close : c = ')'
    · subst close
      refine ⟨trivial, fun directive found => ?_⟩
      cases found
      exact ⟨wordClean, by simpa using argumentClean.textOf, by simp⟩
    by_cases space : c = ' '
    · subst space
      exact ⟨⟨wordClean, argumentClean⟩, by simp [ScanState.step]⟩
    · have read : CleanArgument (c :: read) := argumentClean.cons close space
      simpa [ScanState.step, close, space, Clean] using And.intro wordClean read
  | tail read =>
    by_cases opens : c = ':' ∧ opensKeyword read = true
    · simpa [ScanState.step, opens, Clean] using CleanWord.nil
    by_cases skipped : c = ')' ∨ c = ' '
    · simp [ScanState.step, opens, skipped, Clean]
    · simp [ScanState.step, opens, skipped, Clean]

theorem Clean.finish {state : ScanState} (clean : state.Clean) {directive : Directive}
    (found : directive ∈ state.finish) : directive.Writable := by
  cases state with
  | keyword read => exact writable_of_mem_bare? clean found
  | head => cases found
  | argument word read => cases found
  | tail read => cases found

theorem Clean.run {state : ScanState} (clean : state.Clean) {text : List Char}
    {directive : Directive} (found : directive ∈ state.run text) : directive.Writable := by
  induction text generalizing state with
  | nil => exact clean.finish (Option.mem_toList.mp found)
  | cons c rest ih =>
    obtain ⟨stays, completes⟩ := clean.step c
    rw [run_cons] at found
    rcases List.mem_append.mp found with now | later
    · exact completes directive (Option.mem_toList.mp now)
    · exact ih stays later

/-- Between two directives of a listing the machine may be in any state in which it takes the next
colon for what it is. -/
theorem run_listed_start {state : ScanState} (start : state = head ∨ state = tail [])
    (directives : List Directive) :
    state.run (directives.flatMap fun next => ':' :: next.render.toList) =
      (keyword []).run (directives.flatMap fun next => ':' :: next.render.toList) := by
  cases directives with
  | nil => rcases start with rfl | rfl <;> rfl
  | cons directive rest =>
    rw [List.flatMap_cons, List.cons_append]
    rcases start with rfl | rfl <;> rfl

/-- A word that is still open is complete at the next colon, or else at the end. -/
theorem run_listed {directives : List Directive}
    (writable : ∀ directive ∈ directives, directive.Writable) (read : List Char) :
    (keyword read).run (directives.flatMap fun next => ':' :: next.render.toList) =
      (bare? read).toList ++ directives := by
  induction directives generalizing read with
  | nil => rw [List.flatMap_nil, run_keyword_nil, List.append_nil]
  | cons directive rest ih =>
    have first := writable directive (by simp)
    have others := ih fun next member => writable next (List.mem_cons_of_mem _ member)
    rw [List.flatMap_cons, List.cons_append, run_keyword_colon]
    congr 1
    by_cases closed : directive.argument = none
    · have named : directive.keyword ≠ "" := first.named closed
      rw [run_render_bare first closed, others]
      obtain ⟨word, argument⟩ := directive
      cases closed
      simp [bare?, textOf, named]
    · rw [run_render_closed first closed, run_listed_start (Or.inr rfl), others]
      rfl

end ScanState

theorem writable_of_mem_scan {text : String} {directive : Directive}
    (found : directive ∈ scan text) : directive.Writable := by
  unfold scan at found
  split at found
  · cases found
  · have clean : ScanState.head.Clean := trivial
    exact clean.run found

theorem toList_listing (directives : List Directive) :
    (listing directives).toList =
      anchor ++ directives.flatMap fun next => ':' :: next.render.toList := by
  have joined : (String.join (directives.map fun next => ":" ++ next.render)).toList =
      directives.flatMap fun next => ':' :: next.render.toList := by
    simp [String.toList_join, List.flatMap_map]
  rw [listing, String.toList_append, joined]
  rfl

theorem scan_listing_of_writable {directives : List Directive}
    (writable : ∀ directive ∈ directives, directive.Writable) :
    scan (listing directives) = directives := by
  have first : Text.FirstOccurrence anchor (listing directives).toList []
      (directives.flatMap fun next => ':' :: next.render.toList) :=
    ⟨toList_listing directives, by simp⟩
  rw [scan, first.after?]
  change ScanState.head.run _ = directives
  rw [ScanState.run_listed_start (Or.inl rfl), ScanState.run_listed writable]
  rfl

/-- All that is found can be written, and of all lists exactly those whose directives can be
written are found again in their listing. So what was found in any comment is. -/
theorem scan_round_trip :
    (∀ text, ∀ directive ∈ scan text, directive.Writable) ∧
      (∀ directives, scan (listing directives) = directives ↔
        ∀ directive ∈ directives, directive.Writable) ∧
      ∀ text, scan (listing (scan text)) = scan text := by
  have found : ∀ text, ∀ directive ∈ scan text, directive.Writable :=
    fun _ _ member => writable_of_mem_scan member
  refine ⟨found, fun directives => ⟨fun same => ?_, scan_listing_of_writable⟩, ?_⟩
  · rw [← same]
    exact found (listing directives)
  · exact fun text => scan_listing_of_writable (found text)

/-- Words and arguments that hold the anchor, colons and parentheses, or nothing at all. -/
def misleading : List Directive :=
  [⟨"", some "a:b(declint:c"⟩, ⟨"declint", none⟩, ⟨"declint", some ""⟩, ⟨"suppress", none⟩]

theorem scan_round_trip_misleading :
    (∀ directive ∈ misleading, directive.Writable) ∧
      listing misleading = "declint:(a:b(declint:c):declint:declint():suppress" ∧
      scan (listing misleading) = misleading := by
  have anchorClean : CleanWord "declint".toList :=
    ⟨⟨by decide, by decide⟩, by decide, by decide⟩
  have suppressClean : CleanWord "suppress".toList :=
    ⟨⟨by decide, by decide⟩, by decide, by decide⟩
  have argumentClean : CleanArgument "a:b(declint:c".toList := ⟨by decide, by decide⟩
  have writable : ∀ directive ∈ misleading, directive.Writable := by
    simp only [misleading, List.forall_mem_cons, List.not_mem_nil, false_implies, implies_true,
      and_true]
    exact ⟨⟨CleanWord.nil, by simpa using argumentClean, by simp⟩,
      ⟨anchorClean, by simp, by simp⟩, ⟨anchorClean, by simpa using CleanArgument.nil, by simp⟩,
      ⟨suppressClean, by simp, by simp⟩⟩
  exact ⟨writable, by decide, (scan_round_trip.2.1 misleading).mpr writable⟩

end DeclarationLint.Directive
