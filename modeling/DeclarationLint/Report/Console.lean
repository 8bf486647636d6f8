import DeclarationLint.Report
import DeclarationLint.Report.Console.Columns
import DeclarationLint.Report.Console.Wrap

/-!
# Console report

One table for each file, then a framed summary, without colours.
-/
namespace DeclarationLint.Report.Console

/-- One row of a table, cell by cell. -/
structure Row where
  range : String
  severity : String
  rule : String
  message : String
deriving DecidableEq, Repr

def headings : Row := ⟨"Range", "Severity", "Rule", "Message"⟩

def rowOf (issue : Issue) : Row :=
  let start := issue.span.start
  let stop := issue.span.stop
  { range := s!"{start.line}:{start.column}-{stop.line}:{stop.column}"
    severity := issue.severity.word.toUpper
    rule := "[" ++ issue.rule ++ "]"
    message := issue.description }

/-- The lines of a cell, each padded to the width of its column with a blank on either side. -/
def cellLines (width height : Nat) (lines : List String) : List String :=
  let blank := List.replicate (height - lines.length) ""
  (lines ++ blank).map fun line => " " ++ padRight (width - 2) line ++ " "

/-- A row takes as many lines as its tallest cell. -/
def rowLines (widths : Widths) (row : Row) : List String :=
  let cells := [(widths.range, row.range), (widths.severity, row.severity),
    (widths.rule, row.rule), (widths.message, row.message)]
  let wrapped := cells.map fun (width, text) => (width, wrap .ellipsis (width - 2) text)
  let height := wrapped.foldl (fun tallest cell => max tallest cell.2.length) 0
  let columns := wrapped.map fun (width, lines) => cellLines width height lines
  (List.range height).map fun line =>
    " " ++ " ".intercalate (columns.map fun column => column.getD line "") ++ " "

def longest (texts : List String) : Nat :=
  texts.foldl (fun most text => max most text.length) 0

def widthsOf (terminal : Nat) (rows : List Row) : Widths :=
  let all := headings :: rows
  Widths.forContent terminal (longest (all.map Row.range)) (longest (all.map Row.message))

/-- The path stands above its table, unless it is empty. -/
def titleLines (width : Nat) (path : String) : List String :=
  if path = "" then [] else (wrap .fold width path).map (padRight width)

def tableLines (terminal : Nat) (path : String) (rows : List Row) : List String :=
  let widths := widthsOf terminal rows
  let width := widths.table
  let blank := padRight width ""
  titleLines width path ++
    blank :: rowLines widths headings ++
    (" " ++ String.ofList (List.replicate (width - 2) '─') ++ " ") ::
    rows.flatMap (rowLines widths) ++ [blank]

def issuesText (directory : String) (terminal : Nat) (issues : List Issue) : String :=
  let tables := (issuesByFile issues).entries.map fun (file, found) =>
    tableLines terminal (Reporter.relativeTo directory file) (found.map rowOf)
  "\n".intercalate tables.flatten

def rule (width : Nat) : String := String.ofList (List.replicate width '─')

/-- A text in a frame with a title. -/
def panelLines (terminal : Nat) (text : String) : List String :=
  let spare := terminal - 13
  let top := "╭─" ++ rule (spare / 2) ++ " Summary " ++ rule (spare - spare / 2) ++ "─╮"
  let inner := (wrap .fold (terminal - 4) text).map fun line =>
    "│ " ++ padRight (terminal - 4) line ++ " │"
  top :: inner ++ ["╰" ++ rule (terminal - 2) ++ "╯"]

def summaryLine (files : Int) (summary : Summary) : String :=
  if summary.numberOfIssues = 0 then s!"Good job! Inspected {files} files, found no issue."
  else
    let noun := if files = 1 then "file" else "files"
    let counts := summary.severityCounts.map fun (severity, count) => s!"{count} {severity.word}"
    " | ".intercalate (s!"{summary.numberOfFiles} of {files} {noun} with issues" :: counts)

/-- The console reporter for someone working in a directory at a terminal of a width. -/
def reporter (directory : String) (terminal : Nat) : Reporter where
  header := Reporter.title
  footer := ""
  separator := "\n"
  issues := issuesText directory terminal
  summary := fun files summary => "\n".intercalate (panelLines terminal (summaryLine files summary))

end DeclarationLint.Report.Console
