import DeclarationLint.Proofs.Directive.Segments
import DeclarationLint.Proofs.Text.Pieces

/-!
# The grammar of directives

What a comment means, by whole segments instead of single characters and without a machine.
Behind the first anchor a comment without its spaces is cut at colons and parentheses: first
free text up to a colon, then keywords and arguments, and after every closed argument free
text again. The grammar gives each comment exactly one list of directives, the one that the
scanner finds.
-/
namespace DeclarationLint.Directive

/-- A keyword as written; closing parentheses do not count in it. -/
def wordOf (word : List Char) : String := String.ofList (withoutCloses word)

/-- A keyword without an argument, which means nothing if it is empty. -/
def bareDirective (word : List Char) : List Directive :=
  if withoutCloses word = [] then [] else [⟨wordOf word, none⟩]

/-- What a text is a continuation of. -/
inductive Part where
  /-- The first anchor of the comment. -/
  | head
  /-- A colon that opens a keyword. -/
  | keyword
  /-- A closed argument. -/
  | tail
deriving DecidableEq, Repr

/-- What a text without spaces means as a continuation. -/
inductive Means : Part → List Char → List Directive → Prop where
  | headEnds {free : List Char} (noColon : ':' ∉ free) : Means .head free []
  | headColon {free rest : List Char} {directives : List Directive} (noColon : ':' ∉ free)
      (next : Means .keyword rest directives) : Means .head (free ++ ':' :: rest) directives
  | keywordEnds {word : List Char} (plain : PlainWord word) :
      Means .keyword word (bareDirective word)
  | keywordColon {word rest : List Char} {directives : List Directive} (plain : PlainWord word)
      (next : Means .keyword rest directives) :
      Means .keyword (word ++ ':' :: rest) (bareDirective word ++ directives)
  | unclosed {word rest : List Char} (plain : PlainWord word) (noClose : ')' ∉ rest) :
      Means .keyword (word ++ '(' :: rest) []
  | closed {word argument rest : List Char} {directives : List Directive}
      (plain : PlainWord word) (noClose : ')' ∉ argument)
      (next : Means .tail rest directives) :
      Means .keyword (word ++ '(' :: (argument ++ ')' :: rest))
        (⟨wordOf word, some (String.ofList argument)⟩ :: directives)
  | tailEnds {free : List Char} (inert : Inert free) : Means .tail free []
  -- `inert` makes this colon the earliest one that opens a keyword
  | tailColon {free rest : List Char} {directives : List Directive} (inert : Inert free)
      (opens : Opens free) (next : Means .keyword rest directives) :
      Means .tail (free ++ ':' :: rest) directives

/-- What a whole comment means. -/
inductive CommentMeans (text : List Char) : List Directive → Prop where
  | nothing (absent : ¬ anchor <:+: text) : CommentMeans text []
  | anchored {before following : List Char} {directives : List Directive}
      (found : Text.FirstOccurrence anchor text before following)
      (next : Means .head (withoutSpaces following) directives) : CommentMeans text directives

/-- The state in which the scanner reads a continuation. -/
def Part.start : Part → ScanState
  | head => .head
  | keyword => .keyword []
  | tail => .tail []

theorem toList_bare?_reverse (word : List Char) :
    (ScanState.bare? (withoutCloses word).reverse).toList = bareDirective word := by
  by_cases empty : withoutCloses word = []
  · simp [ScanState.bare?, bareDirective, empty]
  · simp [ScanState.bare?, bareDirective, empty, textOf, wordOf]

theorem textOf_reverse (chars : List Char) : textOf chars.reverse = String.ofList chars := by
  simp [textOf]

/-- The scanner finds what the grammar gives. -/
theorem Means.run {part : Part} {text : List Char} {directives : List Directive}
    (means : Means part text directives) (noSpace : ' ' ∉ text) :
    part.start.run text = directives := by
  -- Each rule of the grammar consumes one segment, whose effect on the machine is known.
  induction means with
  | headEnds noColon =>
    have read := ScanState.run_head_append noColon []
    rw [List.append_nil] at read
    exact read
  | headColon noColon next ih =>
    simp only [List.mem_append, List.mem_cons, not_or] at noSpace
    rw [Part.start, ScanState.run_head_append noColon, ScanState.run_head_colon]
    exact ih noSpace.2.2
  | @keywordEnds word plain =>
    have read := ScanState.run_keyword_append plain noSpace [] []
    rw [List.append_nil, List.append_nil, ScanState.run_keyword_nil] at read
    rw [Part.start, read, toList_bare?_reverse]
  | keywordColon plain next ih =>
    simp only [List.mem_append, List.mem_cons, not_or] at noSpace
    rw [Part.start, ScanState.run_keyword_append plain noSpace.1, ScanState.run_keyword_colon,
      List.append_nil, toList_bare?_reverse]
    exact congrArg _ (ih noSpace.2.2)
  | unclosed plain noClose =>
    simp only [List.mem_append, List.mem_cons, not_or] at noSpace
    rw [Part.start, ScanState.run_keyword_append plain noSpace.1, ScanState.run_keyword_open,
      ScanState.run_argument_unclosed noClose]
  | closed plain noClose next ih =>
    simp only [List.mem_append, List.mem_cons, not_or] at noSpace
    obtain ⟨wordSpace, -, argumentSpace, -, restSpace⟩ := noSpace
    rw [Part.start, ScanState.run_keyword_append plain wordSpace, ScanState.run_keyword_open,
      ScanState.run_argument_closed argumentSpace noClose, List.append_nil, List.append_nil,
      textOf_reverse, textOf_reverse]
    exact congrArg _ (ih restSpace)
  | tailEnds inert => exact ScanState.run_tail_inert noSpace inert
  | tailColon inert opens next ih =>
    simp only [List.mem_append, List.mem_cons, not_or] at noSpace
    rw [Part.start, ScanState.run_tail_append noSpace.1 inert, ScanState.run_tail_colon opens]
    exact ih noSpace.2.2

/-- If some colon opens a keyword, an earliest one does. -/
theorem exists_earliest_opening {before : List Char} (opens : Opens before)
    (after : List Char) :
    ∃ free rest, before ++ ':' :: after = free ++ ':' :: rest ∧ Opens free ∧ Inert free := by
  by_cases inert : Inert before
  · exact ⟨before, after, rfl, opens, inert⟩
  · simp only [Inert, not_forall, not_not] at inert
    obtain ⟨earlier, later, split, opensEarlier⟩ := inert
    have shorter : earlier.length < before.length := by simp [split]
    obtain ⟨free, rest, joined, result⟩ :=
      exists_earliest_opening opensEarlier (later ++ ':' :: after)
    exact ⟨free, rest, by rw [split, ← joined]; simp, result⟩
termination_by before.length

/-- A keyword ends at the end of the text, at a colon or at an opening parenthesis. -/
theorem exists_plainWord (text : List Char) :
    PlainWord text ∨ ∃ word c rest, PlainWord word ∧ (c = ':' ∨ c = '(') ∧
      text = word ++ c :: rest := by
  induction text with
  | nil => exact Or.inl ⟨by simp, by simp⟩
  | cons c text ih =>
    by_cases ends : c = ':' ∨ c = '('
    · exact Or.inr ⟨[], c, text, ⟨by simp, by simp⟩, ends, rfl⟩
    · have extend {word : List Char} (plain : PlainWord word) : PlainWord (c :: word) :=
        ⟨List.not_mem_cons_of_ne_of_not_mem (fun equal => ends (Or.inl equal.symm)) plain.noColon,
          List.not_mem_cons_of_ne_of_not_mem (fun equal => ends (Or.inr equal.symm)) plain.noOpen⟩
      rcases ih with plain | ⟨word, d, rest, plain, stops, split⟩
      · exact Or.inl (extend plain)
      · exact Or.inr ⟨c :: word, d, rest, extend plain, stops, by simp [split]⟩

/-- The grammar covers every text. -/
theorem exists_means (part : Part) (text : List Char) :
    ∃ directives, Means part text directives := by
  -- The induction is on the length, since a segment can be followed by any other part.
  induction size : text.length using Nat.strongRecOn generalizing part text with
  | ind _ ih =>
  subst size
  cases part with
  | head =>
    by_cases colon : ':' ∈ text
    · obtain ⟨free, rest, rfl, noColon⟩ := List.eq_append_cons_of_mem colon
      obtain ⟨directives, next⟩ := ih rest.length (by simp; omega) .keyword rest rfl
      exact ⟨directives, .headColon noColon next⟩
    · exact ⟨[], .headEnds colon⟩
  | keyword =>
    rcases exists_plainWord text with plain | ⟨word, c, rest, plain, rfl | rfl, rfl⟩
    · exact ⟨_, .keywordEnds plain⟩
    · obtain ⟨directives, next⟩ := ih rest.length (by simp; omega) .keyword rest rfl
      exact ⟨_, .keywordColon plain next⟩
    · by_cases close : ')' ∈ rest
      · obtain ⟨argument, rest, rfl, noClose⟩ := List.eq_append_cons_of_mem close
        obtain ⟨directives, next⟩ := ih rest.length (by simp; omega) .tail rest rfl
        exact ⟨_, .closed plain noClose next⟩
      · exact ⟨[], .unclosed plain close⟩
  | tail =>
    by_cases inert : Inert text
    · exact ⟨[], .tailEnds inert⟩
    · simp only [Inert, not_forall, not_not] at inert
      obtain ⟨before, after, split, opens⟩ := inert
      obtain ⟨free, rest, joined, opensFree, inertFree⟩ := exists_earliest_opening opens after
      rw [joined] at split
      subst split
      obtain ⟨directives, next⟩ := ih rest.length (by simp; omega) .keyword rest rfl
      exact ⟨directives, .tailColon inertFree opensFree next⟩

theorem not_mem_withoutSpaces (text : List Char) : ' ' ∉ withoutSpaces text := by
  simp [withoutSpaces]

theorem CommentMeans.scan {text : String} {directives : List Directive}
    (means : CommentMeans text.toList directives) : scan text = directives := by
  cases means with
  | nothing absent =>
    rw [Directive.scan, (Text.after?_eq_none_iff anchor text.toList).mpr absent]
  | @anchored before following _ found next =>
    rw [Directive.scan, found.after?]
    change ScanState.head.run following = directives
    rw [← ScanState.run_withoutSpaces]
    exact next.run (not_mem_withoutSpaces following)

theorem exists_commentMeans (text : List Char) :
    ∃ directives, CommentMeans text directives := by
  cases search : Text.after? anchor text with
  | none => exact ⟨[], .nothing ((Text.after?_eq_none_iff anchor text).mp search)⟩
  | some following =>
    obtain ⟨before, found⟩ := Text.exists_firstOccurrence_of_after? search
    obtain ⟨directives, next⟩ := exists_means .head (withoutSpaces following)
    exact ⟨directives, .anchored found next⟩

/-- The scanner finds exactly the directives that the grammar gives to the comment, and spaces
put in or taken out behind the first anchor make no difference to it. -/
theorem scan_matches_grammar (text : String) :
    (∀ directives, scan text = directives ↔ CommentMeans text.toList directives) ∧
      ∀ before following other,
        Text.FirstOccurrence anchor text.toList before following →
        withoutSpaces other = withoutSpaces following →
        scan (String.ofList (before ++ anchor ++ other)) = scan text := by
  refine ⟨fun directives => ⟨fun found => ?_, CommentMeans.scan⟩, ?_⟩
  · obtain ⟨given, means⟩ := exists_commentMeans text.toList
    rw [← found, means.scan]
    exact means
  · intro before following other found same
    have moved := (found.replace other).after?
    rw [scan, scan, String.toList_ofList, moved, found.after?]
    change ScanState.head.run other = ScanState.head.run following
    rw [← ScanState.run_withoutSpaces, same, ScanState.run_withoutSpaces]

theorem scan_matches_grammar_spaced :
    Text.FirstOccurrence anchor "// declint:suppress(a) declint:b".toList "// ".toList
        ":suppress(a) declint:b".toList ∧
      withoutSpaces " : sup press( a )dec lint:b ".toList =
        withoutSpaces ":suppress(a) declint:b".toList ∧
      scan (String.ofList ("// ".toList ++ anchor ++ " : sup press( a )dec lint:b ".toList)) =
        scan "// declint:suppress(a) declint:b" := by
  have found : Text.FirstOccurrence anchor "// declint:suppress(a) declint:b".toList
      "// ".toList ":suppress(a) declint:b".toList :=
    (Text.firstOccurrence_iff anchor "// ".toList ":suppress(a) declint:b".toList).mpr (by decide)
  have same : withoutSpaces " : sup press( a )dec lint:b ".toList =
      withoutSpaces ":suppress(a) declint:b".toList := by decide
  exact ⟨found, same, (scan_matches_grammar _).2 _ _ _ found same⟩

end DeclarationLint.Directive
