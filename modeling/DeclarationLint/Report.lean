import DeclarationLint.Summary

/-!
# Reports

A report has four parts, each a text: a header, the issues, a summary and a footer. Empty
parts are left out and the others joined by the separator.
-/
namespace DeclarationLint

def version : String := "0.1.0"

/-- A way to write the outcome of a run. -/
structure Reporter where
  header : String
  footer : String
  separator : String
  /-- The text of the issues, which is empty without issues. -/
  issues : List Issue → String
  /-- The text of the summary, given the number of files inspected, which is printed as it is. -/
  summary : Int → Summary → String

namespace Reporter

def title : String := s!"declint v{version} Report"

/-- The path of a file as shown to someone working in a directory. -/
def relativeTo (directory identifier : String) : String :=
  match (directory.toList ++ ['/']).isPrefixOf? identifier.toList with
  | some rest => String.ofList rest
  | none => identifier

def render (reporter : Reporter) (issues : List Issue) (files : Int) : String :=
  let parts := [reporter.header, reporter.issues issues,
    reporter.summary files (Summary.ofIssues issues), reporter.footer]
  reporter.separator.intercalate (parts.filter (· ≠ ""))

end Reporter
end DeclarationLint
