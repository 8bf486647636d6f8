import DeclarationLint.Location
import DeclarationLint.Vocabulary

/-!
# Issues

What a rule reports: where, how grave, of which kind, and in which words.
-/
namespace DeclarationLint

/-- How grave an issue is. The order of the words is the order of reports. -/
inductive Severity where
  | critical | major | minor | cosmetic
deriving DecidableEq, Repr

namespace Severity

def word : Severity → String
  | critical => "critical"
  | major => "major"
  | minor => "minor"
  | cosmetic => "cosmetic"

instance : Vocabulary Severity where
  title := "Severity"
  all := [critical, major, minor, cosmetic]
  word := word

/-- All severities, the gravest first. -/
def ordered : List Severity := Vocabulary.all

end Severity

inductive Category where
  | badPractice | complexity | naming | readability | size | unused | unknown
deriving DecidableEq, Repr

namespace Category

def word : Category → String
  | badPractice => "bad practice"
  | complexity => "complexity"
  | naming => "naming"
  | readability => "readability"
  | size => "size"
  | unused => "unused"
  | unknown => "unknown"

instance : Vocabulary Category where
  title := "Category"
  all := [badPractice, complexity, naming, readability, size, unused, unknown]
  word := word

end Category

/-- A suggested replacement. Reports do not show it. -/
structure Correction where
  suggestion : String
  replacement : Option Span
deriving DecidableEq, Repr

structure Issue where
  rule : String
  description : String
  category : Category
  severity : Severity
  span : Span
  correction : Option Correction
deriving DecidableEq, Repr

/-- An issue belongs to the file in which its range starts. -/
def Issue.file (issue : Issue) : String := issue.span.start.file

end DeclarationLint
