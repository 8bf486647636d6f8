/-!
# Directives

A comment may carry instructions for the linter. Each is a keyword, with or without an
argument in parentheses.
-/
namespace DeclarationLint

structure Directive where
  keyword : String
  argument : Option String
deriving DecidableEq, Repr

namespace Directive

/-- Silences rules on the line of the comment. -/
def suppress : String := "suppress"

/-- Gives rules other settings on the line of the comment. -/
def ruleConfigure : String := "rule_configure"

end Directive
end DeclarationLint
