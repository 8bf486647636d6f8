import DeclarationLint.Number.Binary64
import DeclarationLint.Text.Blank
import DeclarationLint.Text.DecimalDigit

/-!
# Numbers written in a setting

Settings arrive as text. A number may have white space around it, a sign in front, decimal digits
of any script, and single underscores between digits.
-/
namespace DeclarationLint.Literal

/-- The content of a text: white space is taken off both ends and digits become ASCII. -/
def content (text : String) : List Char :=
  (Text.trimChars Text.isWhiteSpace text.toList).map Text.asciiDigit

/-- Whether every underscore has a digit on either side; the flag tells whether the character
before was a digit. -/
def underscoresSeparate : Bool → List Char → Bool
  | _, [] => true
  | before, c :: rest =>
    if c = '_' then before && (rest.head?.any Char.isDigit) && underscoresSeparate false rest
    else underscoresSeparate c.isDigit rest

def withoutUnderscores? (chars : List Char) : Option (List Char) :=
  if underscoresSeparate false chars then some (chars.filter (· ≠ '_')) else none

/-- A leading sign and what follows it. -/
def signed : List Char → Bool × List Char
  | '-' :: rest => (true, rest)
  | '+' :: rest => (false, rest)
  | rest => (false, rest)

def natural? (chars : List Char) : Option Nat :=
  if chars ≠ [] ∧ chars.all Char.isDigit then some (Nat.ofDigitChars 10 chars 0) else none

/-- Longer integers are refused, leading zeros counted. -/
def mostDigits : Nat := 4300

def integer? (text : String) : Option Int := do
  let chars ← withoutUnderscores? (content text)
  let (negative, digits) := signed chars
  let size ← natural? digits
  if digits.length ≤ mostDigits then
    some (if negative then -(size : Int) else size)
  else none

/-- The power of ten after the letter `e`; nothing at all stands for zero. -/
def power? : List Char → Option Int
  | [] => some 0
  | mark :: rest =>
    if mark = 'e' ∨ mark = 'E' then
      let (negative, digits) := signed rest
      (natural? digits).map fun size => if negative then -(size : Int) else size
    else none

/-- Digits with at most one point among them, then an optional power of ten. -/
def decimal? (negative : Bool) (chars : List Char) : Option Binary64 := do
  let whole := chars.takeWhile Char.isDigit
  let rest := chars.dropWhile Char.isDigit
  let (fraction, rest) := match rest with
    | '.' :: following => (following.takeWhile Char.isDigit, following.dropWhile Char.isDigit)
    | _ => ([], rest)
  let digits ← natural? (whole ++ fraction)
  let power ← power? rest
  some (Binary64.ofDecimal negative digits (power - fraction.length))

def float? (text : String) : Option Binary64 := do
  let chars ← withoutUnderscores? (content text)
  let (negative, rest) := signed chars
  let word := String.ofList (rest.map Char.toLower)
  if word = "inf" ∨ word = "infinity" then some (.infinite negative)
  else if word = "nan" then some .nan
  else decimal? negative rest

end DeclarationLint.Literal
