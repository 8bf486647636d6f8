import DeclarationLint.Proofs.Number.DecimalText
import DeclarationLint.Proofs.Report.Console.Rows
import DeclarationLint.Proofs.Summary
import DeclarationLint.Proofs.Text.Pieces

/-!
# Tables of issues

On a terminal of at least seventy columns there is room for every heading and every severity, so a
table is always drawn whole: it is as wide as the terminal at most, all its lines are equally long,
and each issue of its file has a row of its own, whose cells are wrapped. There is a table for each
file, in the order in which the files first occur, and no issue is missing or shown twice.
-/
namespace DeclarationLint.Report.Console

/-- What a table consists of: the lines of its title, and for each row the texts on its lines. -/
structure Table where
  widths : Widths
  title : List String
  rows : List (List Row)

namespace Table

def separator (table : Table) : String :=
  " " ++ String.ofList (List.replicate (table.widths.table - 2) '─') ++ " "

/-- A table as it is printed. -/
def lines (table : Table) : List String :=
  let blank := padRight table.widths.table ""
  table.title.map (padRight table.widths.table) ++
    blank :: table.widths.line headings :: table.separator ::
    table.rows.flatten.map table.widths.line ++ [blank]

/-- The columns are within what the terminal leaves for them and the headings stand uncut in them,
and the table is a rectangle within the terminal. -/
structure Fits (table : Table) (terminal : Nat) : Prop where
  columns : table.widths.total ≤ available terminal
  headings : table.widths.Hold headings
  length_eq : ∀ line ∈ table.lines, line.length = table.widths.table
  width_le : table.widths.table ≤ terminal

/-- The lines of a row show an issue, with its severity uncut on the first of them. -/
structure ShowsIssue (widths : Widths) (issue : Issue) (texts : List Row) : Prop
    extends ShowsRow widths (rowOf issue) texts where
  severityWhole : ∃ below,
    texts.map Row.severity = issue.severity.word.toUpper :: List.replicate below ""

/-- The table is the one of a file: it is as wide as its rows want it, but for what the terminal
takes away, and shows the issues row by row. -/
structure Shows (table : Table) (terminal : Nat) (path : String) (issues : List Issue) : Prop where
  widths : table.widths = widthsOf terminal (issues.map rowOf)
  title : Wraps .fold table.widths.table path table.title
  rows : List.Forall₂ (ShowsIssue table.widths) issues table.rows

end Table

def tableOf (terminal : Nat) (path : String) (rows : List Row) : Table where
  widths := widthsOf terminal rows
  title := if path = "" then [] else wrap .fold (widthsOf terminal rows).table path
  rows := rows.map (rowTexts (widthsOf terminal rows))

/-- An ASCII text without tabs and line breaks. A terminal has a column for each of its characters,
so such texts are as wide as they are long. -/
def Plain (text : String) : Prop := ∀ c ∈ text.toList, c.toNat < 128 ∧ c ≠ '\t' ∧ c ≠ '\n'

instance (text : String) : Decidable (Plain text) :=
  List.decidableBAll (fun c : Char => c.toNat < 128 ∧ c ≠ '\t' ∧ c ≠ '\n') text.toList

/-- All that a report shows of the issue in words is plain. -/
structure PlainIssue (issue : Issue) : Prop where
  file : Plain issue.file
  rule : Plain issue.rule
  description : Plain issue.description

instance (issue : Issue) : Decidable (PlainIssue issue) :=
  decidable_of_iff (Plain issue.file ∧ Plain issue.rule ∧ Plain issue.description)
    ⟨fun ⟨file, rule, description⟩ => ⟨file, rule, description⟩,
      fun ⟨file, rule, description⟩ => ⟨file, rule, description⟩⟩

theorem Plain.newline_notMem {text : String} (plain : Plain text) : '\n' ∉ text.toList :=
  fun member => (plain '\n' member).2.2 rfl

theorem le_foldl_max (texts : List String) (start : Nat) :
    start ≤ texts.foldl (fun most text => max most text.length) start ∧
      ∀ text ∈ texts, text.length ≤ texts.foldl (fun most text => max most text.length) start := by
  induction texts generalizing start with
  | nil => simp
  | cons first rest ih =>
    obtain ⟨grows, above⟩ := ih (max start first.length)
    rw [List.foldl_cons, List.forall_mem_cons]
    exact ⟨by omega, by omega, above⟩

theorem length_le_longest {texts : List String} {text : String} (member : text ∈ texts) :
    text.length ≤ longest texts :=
  (le_foldl_max texts 0).2 text member

variable {terminal : Nat}

theorem total_widthsOf_le (wide : 70 ≤ terminal) (rows : List Row) :
    (widthsOf terminal rows).total ≤ available terminal :=
  (forContent_spec wide _ _).1

/-- The flexible columns stay wide enough for their headings. -/
theorem hold_headings (wide : 70 ≤ terminal) (rows : List Row) :
    (widthsOf terminal rows).Hold headings := by
  obtain ⟨-, range, message⟩ := forContent_spec wide
    (longest ((headings :: rows).map Row.range)) (longest ((headings :: rows).map Row.message))
  have rangeHeading : "Range".length ≤ longest ((headings :: rows).map Row.range) :=
    length_le_longest (List.mem_map_of_mem List.mem_cons_self)
  have messageHeading : "Message".length ≤ longest ((headings :: rows).map Row.message) :=
    length_le_longest (List.mem_map_of_mem List.mem_cons_self)
  have five : "Range".length = 5 := rfl
  have seven : "Message".length = 7 := rfl
  refine ⟨?_, ?_, ?_, ?_⟩
  · change "Range".length + 2 ≤ (Widths.forContent _ _ _).range
    omega
  · change "Severity".length + 2 ≤ severityWidth
    decide
  · change "Rule".length + 2 ≤ ruleWidth
    decide
  · change "Message".length + 2 ≤ (Widths.forContent _ _ _).message
    omega

theorem tableLines_eq (wide : 70 ≤ terminal) (path : String) (rows : List Row) :
    tableLines terminal path rows = (tableOf terminal path rows).lines := by
  have heading : rowLines (widthsOf terminal rows) headings =
      [(widthsOf terminal rows).line headings] := by
    rw [rowLines_eq, rowTexts_of_hold (hold_headings wide rows), List.map_singleton]
  have title : titleLines (widthsOf terminal rows).table path =
      (tableOf terminal path rows).title.map (padRight (widthsOf terminal rows).table) := by
    rw [titleLines, tableOf]
    split
    · rfl
    · rfl
  have below : rows.flatMap (rowLines (widthsOf terminal rows)) =
      (tableOf terminal path rows).rows.flatten.map (widthsOf terminal rows).line := by
    rw [tableOf, List.map_flatten, List.map_map, List.flatMap_def]
    congr 1
    exact List.map_congr_left fun row _ => rowLines_eq _ row
  simp only [tableLines, Table.lines, heading, title, below]
  simp [tableOf, Table.separator]

theorem wraps_title (terminal : Nat) (path : String) (rows : List Row) :
    Wraps .fold (widthsOf terminal rows).table path (tableOf terminal path rows).title := by
  rw [tableOf]
  split
  · rename_i empty
    exact ⟨[], by simp [empty], .nil⟩
  · have room : 0 < (widthsOf terminal rows).table := by
      rw [Widths.table]
      omega
    exact wraps_wrap room .fold path

theorem showsIssue_rowTexts (wide : 70 ≤ terminal) (rows : List Row) (issue : Issue) :
    Table.ShowsIssue (widthsOf terminal rows) issue
      (rowTexts (widthsOf terminal rows) (rowOf issue)) := by
  have fits : (rowOf issue).severity.length + 2 ≤ severityWidth := by
    change issue.severity.word.toUpper.length + 2 ≤ severityWidth
    rw [String.toUpper, String.length_map]
    cases issue.severity <;> decide
  exact ⟨showsRow_rowTexts (hold_headings wide rows) (rowOf issue), map_severity_rowTexts fits⟩

/-- The table of a file shows the issues of the file. -/
theorem shows_tableOf (wide : 70 ≤ terminal) (path : String) (issues : List Issue) :
    (tableOf terminal path (issues.map rowOf)).Shows terminal path issues where
  widths := rfl
  title := wraps_title terminal path (issues.map rowOf)
  rows := by
    rw [tableOf, List.map_map, List.forall₂_map_right_iff, List.forall₂_same]
    exact fun issue _ => showsIssue_rowTexts wide (issues.map rowOf) issue

namespace Table

variable {table : Table} {path : String} {issues : List Issue}

/-- What a line of a table can be. -/
theorem mem_lines {line : String} (member : line ∈ table.lines) :
    (∃ text ∈ "" :: table.title, line = padRight table.widths.table text) ∨
      line = table.separator ∨
      ∃ texts ∈ headings :: table.rows.flatten, line = table.widths.line texts := by
  simp only [lines, List.mem_append, List.mem_cons, List.mem_map, List.not_mem_nil,
    or_false] at member
  rcases member with (⟨text, title, rfl⟩ | rfl | rfl | rfl | ⟨texts, row, rfl⟩) | rfl
  · exact Or.inl ⟨text, List.mem_cons_of_mem "" title, rfl⟩
  · exact Or.inl ⟨"", List.mem_cons_self, rfl⟩
  · exact Or.inr (Or.inr ⟨headings, List.mem_cons_self, rfl⟩)
  · exact Or.inr (Or.inl rfl)
  · exact Or.inr (Or.inr ⟨texts, List.mem_cons_of_mem headings row, rfl⟩)
  · exact Or.inl ⟨"", List.mem_cons_self, rfl⟩

namespace Shows

theorem exists_issue (shows : table.Shows terminal path issues) {texts : Row}
    (member : texts ∈ table.rows.flatten) :
    ∃ issue ∈ issues, ∃ row, ShowsIssue table.widths issue row ∧ texts ∈ row := by
  obtain ⟨row, among, inside⟩ := List.mem_flatten.mp member
  obtain ⟨issue, given, shown⟩ := exists_of_mem_right shows.rows among
  exact ⟨issue, given, row, shown, inside⟩

theorem fits (shows : table.Shows terminal path issues) (wide : 70 ≤ terminal) :
    table.Fits terminal := by
  have columns : table.widths.total ≤ available terminal :=
    shows.widths ▸ total_widthsOf_le wide (issues.map rowOf)
  have hold : table.widths.Hold Console.headings :=
    shows.widths ▸ hold_headings wide (issues.map rowOf)
  refine ⟨columns, hold, fun line member => ?_, ?_⟩
  · rcases mem_lines member with ⟨text, title, rfl⟩ | rfl | ⟨texts, row, rfl⟩
    · apply length_padRight
      rcases List.mem_cons.mp title with rfl | title
      · exact Nat.zero_le _
      · exact shows.title.length_le title
    · rw [separator, String.length_append, String.length_append, length_blank,
        String.length_ofList, List.length_replicate, Widths.table]
      omega
    · apply Widths.Hold.length_line
      rcases List.mem_cons.mp row with rfl | row
      · exact hold
      · obtain ⟨_, _, _, shown, inside⟩ := shows.exists_issue row
        exact shown.hold hold inside
  · rw [Widths.table]
    rw [available] at columns
    omega

theorem newline_notMem (shows : table.Shows terminal path issues) (pathPlain : '\n' ∉ path.toList)
    (plain : ∀ issue ∈ issues, PlainIssue issue) {line : String} (member : line ∈ table.lines) :
    '\n' ∉ line.toList := by
  rcases mem_lines member with ⟨text, title, rfl⟩ | rfl | ⟨texts, row, rfl⟩
  · apply notMem_padRight (by decide)
    rcases List.mem_cons.mp title with rfl | title
    · simp
    · intro inside
      exact (shows.title.mem title inside).elim pathPlain (by decide)
  · simp [separator]
  · rcases List.mem_cons.mp row with rfl | row
    · exact notMem_line (by decide) (by decide) (by decide) (by decide) (by decide) _
    · obtain ⟨issue, given, _, shown, inside⟩ := shows.exists_issue row
      obtain ⟨-, rule, description⟩ := plain issue given
      refine shown.notMem_line (by decide) (by decide) ?_ ?_ ?_ description.newline_notMem inside
      · have digits : ∀ number : Int, '\n' ∉ (toString number).toList :=
          Literal.notMem_toString (by decide) (by decide)
        have texts : ∀ text : String, toString text = text := fun _ => rfl
        simp only [rowOf, texts, String.toList_append, List.mem_append, digits, not_or]
        decide
      · change '\n' ∉ issue.severity.word.toUpper.toList
        rw [String.toUpper, String.toList_map]
        cases issue.severity <;> decide
      · simpa [rowOf] using rule.newline_notMem

end Shows
end Table

theorem notMem_relativeTo {mark : Char} {identifier : String} (absent : mark ∉ identifier.toList)
    (directory : String) : mark ∉ (Reporter.relativeTo directory identifier).toList := by
  rw [Reporter.relativeTo]
  split
  · rename_i rest found
    rw [List.isPrefixOf?_eq_some_iff_append_eq] at found
    rw [String.toList_ofList]
    rw [← found, List.mem_append, not_or] at absent
    exact absent.2
  · exact absent

theorem entries_issuesByFile (issues : List Issue) :
    (issuesByFile issues).entries =
      (issuesByFile issues).keys.map fun file => (file, issues.filter (·.file = file)) := by
  have partitions := Summary.partitions_ofIssues issues
  have same : ∀ entry ∈ (issuesByFile issues).entries,
      (entry.1, issues.filter (·.file = entry.1)) = entry := by
    intro entry member
    have found := (KeyedList.get?_eq_some_iff (issuesByFile issues) entry.1 entry.2).mpr member
    have group := partitions.group entry.1 (List.mem_map_of_mem member)
    rw [issuesByFile, group] at found
    exact Prod.ext rfl (Option.some.inj found)
  rw [KeyedList.keys, List.map_map]
  calc (issuesByFile issues).entries
      = (issuesByFile issues).entries.map id := (List.map_id _).symm
    _ = _ := List.map_congr_left fun entry member => (same entry member).symm

/-- The table of a file among those that have issues. -/
def fileTable (directory : String) (terminal : Nat) (issues : List Issue) (file : String) : Table :=
  tableOf terminal (Reporter.relativeTo directory file)
    ((issues.filter (·.file = file)).map rowOf)

theorem issuesText_eq (directory : String) (wide : 70 ≤ terminal) (issues : List Issue) :
    issuesText directory terminal issues = "\n".intercalate
      (((issuesByFile issues).keys.map (fileTable directory terminal issues)).flatMap
        Table.lines) := by
  rw [issuesText, entries_issuesByFile, List.map_map, List.flatMap_map, List.flatMap_def]
  congr 2
  exact List.map_congr_left fun file _ => tableLines_eq wide _ _

theorem newline_notMem_fileTable (directory : String) (wide : 70 ≤ terminal) {issues : List Issue}
    (plain : ∀ issue ∈ issues, PlainIssue issue) {file : String}
    (member : file ∈ issues.map Issue.file) {line : String}
    (inside : line ∈ (fileTable directory terminal issues file).lines) : '\n' ∉ line.toList := by
  obtain ⟨issue, given, rfl⟩ := List.mem_map.mp member
  have path := notMem_relativeTo (plain issue given).file.newline_notMem directory
  exact (shows_tableOf wide _ _).newline_notMem path
    (fun other filtered => plain other (List.mem_of_mem_filter filtered)) inside

theorem lines_ne_nil (table : Table) : table.lines ≠ [] := by
  simp [Table.lines]

/-- The lines of a text are those of one table for each file, and together the tables show all of
the issues. -/
structure PrintsTables (directory : String) (terminal : Nat) (issues : List Issue) (text : String)
    (files : List String) (tables : List Table) : Prop where
  inOrder : FirstOccurrences (issues.map Issue.file) files
  printed : Text.pieces '\n' text = tables.flatMap Table.lines
  each : List.Forall₂
    (fun file table => table.Fits terminal ∧
      table.Shows terminal (Reporter.relativeTo directory file) (issues.filter (·.file = file)))
    files tables
  whole : (files.flatMap fun file => issues.filter (·.file = file)).Perm issues

/-- Two files by turns, with places and messages that are too long together, a word that is too
long for its column, and a file that is shown under no name. -/
def crowdedIssues : List Issue :=
  let inFile (file rule description : String) (line : Int) (severity : Severity) : Issue :=
    ⟨rule, description, .unknown, severity, ⟨⟨file, line, 1⟩, ⟨file, line, 123456789⟩⟩, none⟩
  [inFile "/w/b.c" "r" "This message is much too long for the line of a terminal" (10 ^ 30)
      .critical,
    inFile "/w/" "a-rule-with-a-name-that-is-too-long" "" 1 .minor,
    inFile "/w/b.c" "r" "   " (-1) .cosmetic]

end DeclarationLint.Report.Console
