import DeclarationLint.Report

/-!
# Text report

One line for each issue, in a form that other tools can take apart, then a block of counts.
-/
namespace DeclarationLint.Report.Text

def issueLine (directory : String) (issue : Issue) : String :=
  let start := issue.span.start
  let stop := issue.span.stop
  let place := s!"{Reporter.relativeTo directory start.file}:{start.line}:{start.column}"
  let line := s!"{place}-{stop.line}:{stop.column}: {issue.severity.word}: {issue.rule}"
  if issue.description = "" then line else s!"{line}: {issue.description}"

def cleanSummary (files : Int) : String :=
  s!"Good job! Inspected {files} files, found no issue."

def summaryLines (files : Int) (summary : Summary) : List String :=
  let affected := summary.numberOfFiles
  let noun := if affected = 1 then "file" else "files"
  "Summary:" ::
    s!"Within a total number of {files} files, {affected} {noun} have issues." ::
    summary.severityCounts.map fun (severity, count) =>
      s!"Number of {severity.word} issues: {count}"

def summaryText (files : Int) (summary : Summary) : String :=
  if summary.numberOfIssues = 0 then cleanSummary files
  else "\n".intercalate (summaryLines files summary)

/-- The text reporter with another frame. -/
def framed (directory header footer separator : String) : Reporter where
  header := header
  footer := footer
  separator := separator
  issues := fun issues => separator.intercalate (issues.map (issueLine directory))
  summary := summaryText

/-- The text reporter for someone working in a directory. -/
def reporter (directory : String) : Reporter :=
  framed directory Reporter.title "" "\n"

end DeclarationLint.Report.Text
