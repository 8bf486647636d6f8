import DeclarationLint.Proofs.Report.Console.Columns
import DeclarationLint.Proofs.Report.Console.Wrap
import DeclarationLint.Report.Console

/-!
# Rows of a table

A row is wrapped cell by cell, and its lines are put together from the cells. If the headings of
the table fit in its columns, every line of every row is as long as the others: no cell shows more
on a line than its column holds, and the cells that have fewer lines are filled up with blanks.
-/
namespace DeclarationLint.Report.Console

def cell (width : Nat) (text : String) : String := " " ++ padRight (width - 2) text ++ " "

namespace Widths

/-- A line of a table with a text in each of its columns. The texts stand as they are. -/
def line (widths : Widths) (texts : Row) : String :=
  " " ++ (cell widths.range texts.range ++ " " ++ cell widths.severity texts.severity ++ " " ++
    cell widths.rule texts.rule ++ " " ++ cell widths.message texts.message) ++ " "

/-- Each text fits in its column, with a blank on either side. -/
structure Hold (widths : Widths) (texts : Row) : Prop where
  range : texts.range.length + 2 ≤ widths.range
  severity : texts.severity.length + 2 ≤ widths.severity
  rule : texts.rule.length + 2 ≤ widths.rule
  message : texts.message.length + 2 ≤ widths.message

end Widths

/-- The lines show a row: in each column the text of its cell, part by part. -/
structure ShowsRow (widths : Widths) (row : Row) (lines : List Row) : Prop where
  present : lines ≠ []
  range : Wraps .ellipsis (widths.range - 2) row.range (lines.map Row.range)
  severity : Wraps .ellipsis (widths.severity - 2) row.severity (lines.map Row.severity)
  rule : Wraps .ellipsis (widths.rule - 2) row.rule (lines.map Row.rule)
  message : Wraps .ellipsis (widths.message - 2) row.message (lines.map Row.message)

/-- The texts on the lines of a row, with nothing in a cell below its last line. -/
def rowTexts (widths : Widths) (row : Row) : List Row :=
  let range := wrap .ellipsis (widths.range - 2) row.range
  let severity := wrap .ellipsis (widths.severity - 2) row.severity
  let rule := wrap .ellipsis (widths.rule - 2) row.rule
  let message := wrap .ellipsis (widths.message - 2) row.message
  let height := max (max (max range.length severity.length) rule.length) message.length
  (List.range height).map fun index =>
    ⟨range.getD index "", severity.getD index "", rule.getD index "", message.getD index ""⟩

theorem length_blank : " ".length = 1 := rfl

theorem length_padRight {width : Nat} {text : String} (fits : text.length ≤ width) :
    (padRight width text).length = width := by
  rw [padRight, String.length_append, String.length_ofList, List.length_replicate]
  omega

theorem length_cell {width : Nat} {text : String} (fits : text.length + 2 ≤ width) :
    (cell width text).length = width := by
  rw [cell, String.length_append, String.length_append, length_blank,
    length_padRight (Nat.le_sub_of_add_le fits)]
  omega

theorem Widths.Hold.length_line {widths : Widths} {texts : Row} (hold : widths.Hold texts) :
    (widths.line texts).length = widths.table := by
  simp only [Widths.line, String.length_append, length_blank, length_cell hold.range,
    length_cell hold.severity, length_cell hold.rule, length_cell hold.message, Widths.table,
    Widths.total]
  omega

theorem notMem_padRight {mark : Char} (noBlank : mark ≠ ' ') {text : String}
    (absent : mark ∉ text.toList) (width : Nat) : mark ∉ (padRight width text).toList := by
  simp [padRight, absent, noBlank]

theorem notMem_cell {mark : Char} (noBlank : mark ≠ ' ') {text : String}
    (absent : mark ∉ text.toList) (width : Nat) : mark ∉ (cell width text).toList := by
  simp [cell, noBlank, notMem_padRight noBlank absent]

theorem notMem_line {mark : Char} (noBlank : mark ≠ ' ') {texts : Row}
    (range : mark ∉ texts.range.toList) (severity : mark ∉ texts.severity.toList)
    (rule : mark ∉ texts.rule.toList) (message : mark ∉ texts.message.toList) (widths : Widths) :
    mark ∉ (widths.line texts).toList := by
  simp [Widths.line, noBlank, notMem_cell noBlank, range, severity, rule, message]

/-- A list read beyond its end is a list that was filled up. -/
theorem map_getD_range {lines : List String} {height : Nat} (fits : lines.length ≤ height) :
    ((List.range height).map fun index => lines.getD index "") =
      lines ++ List.replicate (height - lines.length) "" := by
  refine List.ext_getElem (by simp; omega) fun index inside _ => ?_
  rw [List.getElem_map, List.getElem_range]
  by_cases within : index < lines.length
  · simp [within]
  · simp [List.getElem_append_right, Nat.le_of_not_lt within]

theorem getD_cellLines {width height index : Nat} {lines : List String}
    (fits : lines.length ≤ height) (inside : index < height) :
    (cellLines width height lines).getD index "" = cell width (lines.getD index "") := by
  have column : cellLines width height lines =
      (List.range height).map fun index => cell width (lines.getD index "") := by
    rw [cellLines, ← map_getD_range fits, List.map_map]
    rfl
  simp [column, inside]

theorem rowLines_eq (widths : Widths) (row : Row) :
    rowLines widths row = (rowTexts widths row).map widths.line := by
  simp only [rowLines, rowTexts, List.map_cons, List.map_nil, List.foldl_cons, List.foldl_nil,
    Nat.zero_max, List.map_map]
  refine List.map_congr_left fun index member => ?_
  have inside := List.mem_range.mp member
  rw [getD_cellLines (by omega) inside, getD_cellLines (by omega) inside,
    getD_cellLines (by omega) inside, getD_cellLines (by omega) inside]
  rfl

/-- A row that fits takes one line, on which nothing is cut. -/
theorem rowTexts_of_hold {widths : Widths} {row : Row} (hold : widths.Hold row) :
    rowTexts widths row = [row] := by
  simp only [rowTexts, wrap_of_length_le .ellipsis (Nat.le_sub_of_add_le hold.range),
    wrap_of_length_le .ellipsis (Nat.le_sub_of_add_le hold.severity),
    wrap_of_length_le .ellipsis (Nat.le_sub_of_add_le hold.rule),
    wrap_of_length_le .ellipsis (Nat.le_sub_of_add_le hold.message)]
  rfl

theorem wraps_column {width height : Nat} (room : 2 < width) {text : String}
    (fits : (wrap .ellipsis (width - 2) text).length ≤ height) :
    Wraps .ellipsis (width - 2) text
      ((List.range height).map fun index => (wrap .ellipsis (width - 2) text).getD index "") := by
  rw [map_getD_range fits]
  exact (wraps_wrap (by omega) .ellipsis text).append_empty _

/-- The lines of a row show it if the columns are wide enough for the headings. -/
theorem showsRow_rowTexts {widths : Widths} (hold : widths.Hold headings) (row : Row) :
    ShowsRow widths row (rowTexts widths row) := by
  constructor
  · have some := wrap_ne_nil .ellipsis (widths.range - 2) row.range
    have tall := List.length_pos_iff.mpr some
    refine List.ne_nil_of_length_pos ?_
    rw [rowTexts, List.length_map, List.length_range]
    omega
  · rw [rowTexts, List.map_map]
    exact wraps_column (Nat.lt_of_lt_of_le (by decide) hold.range) (by omega)
  · rw [rowTexts, List.map_map]
    exact wraps_column (Nat.lt_of_lt_of_le (by decide) hold.severity) (by omega)
  · rw [rowTexts, List.map_map]
    exact wraps_column (Nat.lt_of_lt_of_le (by decide) hold.rule) (by omega)
  · rw [rowTexts, List.map_map]
    exact wraps_column (Nat.lt_of_lt_of_le (by decide) hold.message) (by omega)

/-- A severity that fits in its column stands whole on the first line of its row. -/
theorem map_severity_rowTexts {widths : Widths} {row : Row}
    (fits : row.severity.length + 2 ≤ widths.severity) :
    ∃ below, (rowTexts widths row).map Row.severity =
      row.severity :: List.replicate below "" := by
  have single := wrap_of_length_le .ellipsis (Nat.le_sub_of_add_le fits)
  have column : ∃ below, (rowTexts widths row).map Row.severity =
      wrap .ellipsis (widths.severity - 2) row.severity ++ List.replicate below "" := by
    rw [rowTexts, List.map_map]
    exact ⟨_, map_getD_range (by omega)⟩
  obtain ⟨below, filled⟩ := column
  rw [single] at filled
  exact ⟨below, filled⟩

namespace ShowsRow

variable {widths : Widths} {row : Row} {lines : List Row}

theorem hold (shows : ShowsRow widths row lines) (holds : widths.Hold headings) {texts : Row}
    (member : texts ∈ lines) : widths.Hold texts := by
  have range := shows.range.length_le (List.mem_map_of_mem member)
  have severity := shows.severity.length_le (List.mem_map_of_mem member)
  have rule := shows.rule.length_le (List.mem_map_of_mem member)
  have message := shows.message.length_le (List.mem_map_of_mem member)
  obtain ⟨rangeRoom, severityRoom, ruleRoom, messageRoom⟩ := holds
  constructor <;> omega

theorem notMem_line (shows : ShowsRow widths row lines) {mark : Char} (noBlank : mark ≠ ' ')
    (noEllipsis : mark ≠ ellipsis) (range : mark ∉ row.range.toList)
    (severity : mark ∉ row.severity.toList) (rule : mark ∉ row.rule.toList)
    (message : mark ∉ row.message.toList) {texts : Row} (member : texts ∈ lines) :
    mark ∉ (widths.line texts).toList := by
  apply Console.notMem_line noBlank
  · intro inside
    exact (shows.range.mem (List.mem_map_of_mem member) inside).elim range noEllipsis
  · intro inside
    exact (shows.severity.mem (List.mem_map_of_mem member) inside).elim severity noEllipsis
  · intro inside
    exact (shows.rule.mem (List.mem_map_of_mem member) inside).elim rule noEllipsis
  · intro inside
    exact (shows.message.mem (List.mem_map_of_mem member) inside).elim message noEllipsis

end ShowsRow
end DeclarationLint.Report.Console
