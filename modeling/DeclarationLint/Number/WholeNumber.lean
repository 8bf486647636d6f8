import DeclarationLint.Number.Literal

/-!
# Whole numbers in lenient form

Documents and the command line give whole numbers as text. In the plain form a number is an
optional minus and ASCII digits, and only zero itself starts with the digit zero. A text is
brought into the plain form first: white space at the ends, a plus in front, leading zeros, a
fraction of zeros and single underscores are taken out.
-/
namespace DeclarationLint.WholeNumber

/-- Why a text gives no whole number. -/
inductive Refusal where
  | unreadable
  | tooLong
deriving DecidableEq, Repr

def unsigned : List Char → Bool × List Char
  | '-' :: rest => (true, rest)
  | rest => (false, rest)

/-- Reads the plain form. A number that is too long, its minus included, is refused before
anything behind its digits is looked at. -/
def plain (chars : List Char) : Except Refusal Int :=
  let (negative, rest) := unsigned chars
  let digits := rest.takeWhile Char.isDigit
  if rest.head? = some '0' then
    if rest = ['0'] then .ok 0 else .error .unreadable
  else if Literal.mostDigits < (if negative then 1 else 0) + digits.length then .error .tooLong
  else match Literal.natural? rest with
    | some size => .ok (if negative then -(size : Int) else size)
    | none => .error .unreadable

def isPadding (c : Char) : Bool := c = '0' || c = '_'

/-- Drops the zeros in front with the underscores among them. The last of them stays if no
digit follows, and a minus may follow them. -/
def withoutZeros? : List Char → Option (List Char)
  | '0' :: rest =>
    let last := (rest.takeWhile isPadding).getLast?.getD '0'
    match rest.dropWhile isPadding with
    | [] => some [last]
    | '.' :: following => some (last :: '.' :: following)
    | c :: following => if c.isDigit ∨ c = '-' then some (c :: following) else none
  | c :: rest => if c.isDigit ∨ c = '-' then some (c :: rest) else none
  | [] => none

/-- Drops a point and the zeros behind it, of which there has to be one. -/
def withoutFraction (chars : List Char) : List Char :=
  match chars.dropWhile (· ≠ '.') with
  | _ :: fraction =>
    if fraction ≠ [] ∧ fraction.all (· = '0') then chars.takeWhile (· ≠ '.') else chars
  | [] => chars

/-- Drops the underscores if every one of them stands alone between two other characters. -/
def withoutUnderscores (chars : List Char) : List Char :=
  if (chars.splitOn '_').contains [] then chars else chars.filter (· ≠ '_')

def unpadded? (chars : List Char) : Option (List Char) :=
  (withoutZeros? chars).map fun kept => withoutUnderscores (withoutFraction kept)

/-- The plain form of a text, unless it does not begin like a number. -/
def plainForm? (text : String) : Option (List Char) :=
  match Text.trimChars Text.isWhiteSpace text.toList with
  | '-' :: rest => (unpadded? rest).map ('-' :: ·)
  | '+' :: '-' :: _ => none
  | '+' :: rest => unpadded? rest
  | rest => unpadded? rest

def read (text : String) : Except Refusal Int :=
  match plainForm? text with
  | some chars => plain chars
  | none => .error .unreadable

end DeclarationLint.WholeNumber
