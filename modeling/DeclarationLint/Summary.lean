import DeclarationLint.Issue
import DeclarationLint.KeyedList

/-!
# Summaries

The issues of a run by file and by severity, counted one after the other. Nothing here sorts or
drops an issue.
-/
namespace DeclarationLint

structure Summary where
  issues : List Issue
  /-- The issues of each file, files in the order in which they first occur. -/
  byFile : KeyedList String (List Issue)
  bySeverity : KeyedList Severity Nat

namespace Summary

/-- Before any issue is counted. Every severity has its number from the start. -/
def uncounted (issues : List Issue) : Summary :=
  ⟨issues, .empty, .ofList (Severity.ordered.map fun severity => (severity, 0))⟩

/-- Counts one issue, in its file and in its severity. -/
def count (summary : Summary) (issue : Issue) : Summary :=
  { summary with
    byFile := summary.byFile.update issue.file fun before => before.getD [] ++ [issue]
    bySeverity := summary.bySeverity.update issue.severity fun before => before.getD 0 + 1 }

def ofIssues (issues : List Issue) : Summary := issues.foldl count (uncounted issues)

def numberOfIssues (summary : Summary) : Nat := summary.issues.length

/-- How many files have an issue. -/
def numberOfFiles (summary : Summary) : Nat := summary.byFile.size

def numberOf (summary : Summary) (severity : Severity) : Nat :=
  (summary.bySeverity.get? severity).getD 0

/-- The number of issues of each severity, the gravest first. -/
def severityCounts (summary : Summary) : List (Severity × Nat) :=
  Severity.ordered.map fun severity => (severity, summary.numberOf severity)

def render (summary : Summary) : String :=
  let counts := summary.severityCounts.map fun (severity, count) => s!"{severity.word}={count}"
  s!"IssueSummary(files={summary.numberOfFiles}, " ++ ", ".intercalate counts ++ ")"

end Summary

/-- The issues of each file, as a summary of them has them. -/
def issuesByFile (issues : List Issue) : KeyedList String (List Issue) :=
  (Summary.ofIssues issues).byFile

end DeclarationLint
