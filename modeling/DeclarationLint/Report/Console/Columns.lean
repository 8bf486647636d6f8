/-!
# Column widths

A table has two columns of fixed width between two that follow their content. When the
columns are too wide together, the two flexible ones give way: the wider one first, until it
is as wide as the other, then both.
-/
namespace DeclarationLint.Report.Console

/-- Half of a number, a half going to the even neighbour. -/
def halfToEven (n : Nat) : Nat :=
  if n % 2 = 0 then n / 2 else if n / 2 % 2 = 0 then n / 2 else n / 2 + 1

/-- Takes some of the excess from two widths. -/
def narrowOnce (excess first last : Nat) : Nat × Nat :=
  if last < first then (first - min excess (first - last), last)
  else if first < last then (first, last - min excess (last - first))
  else
    let limit := min excess first
    let loss := min limit (halfToEven excess)
    (first - loss, last - min limit (excess - loss))

theorem narrowOnce_lt {excess first last : Nat} (exceeds : 0 < excess)
    (room : 0 < first + last) :
    (narrowOnce excess first last).1 + (narrowOnce excess first last).2 < first + last := by
  simp only [narrowOnce, halfToEven]
  split
  · simp only
    omega
  · split
    · simp only
      omega
    · simp only
      split <;> (try split) <;> omega

/-- Narrows two widths until they are at most a bound together. -/
def narrow (bound first last : Nat) : Nat × Nat :=
  if bound < first + last then
    let next := narrowOnce (first + last - bound) first last
    narrow bound next.1 next.2
  else (first, last)
termination_by first + last
decreasing_by exact narrowOnce_lt (by omega) (by omega)

/-- The widths of the four columns of a table, blanks at the sides of a cell included. -/
structure Widths where
  range : Nat
  severity : Nat
  rule : Nat
  message : Nat
deriving DecidableEq, Repr

def severityWidth : Nat := 12

def ruleWidth : Nat := 24

/-- What a terminal of a width leaves for the columns: five blanks stand around them. -/
def available (terminal : Nat) : Nat := terminal - 5

/-- The widths for columns whose longest cells are given. -/
def Widths.forContent (terminal longestRange longestMessage : Nat) : Widths :=
  let most := available terminal
  let (range, message) := narrow (most - (severityWidth + ruleWidth))
    (min most (longestRange + 2)) (min most (longestMessage + 2))
  ⟨range, severityWidth, ruleWidth, message⟩

def Widths.total (widths : Widths) : Nat :=
  widths.range + widths.severity + widths.rule + widths.message

/-- The width of a table: its columns and the blanks around them. -/
def Widths.table (widths : Widths) : Nat := widths.total + 5

end DeclarationLint.Report.Console
