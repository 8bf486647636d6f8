/-!
# Pieces of a text

Cutting a text at a separator, taking blanks off both ends, and finding what follows a mark.
All three work on the characters, so a law about them is a law about lists.
-/
namespace DeclarationLint.Text

/-- The parts of a text between the occurrences of a separator. There is always one more
part than there are separators, so the empty text has one empty part. -/
def pieces (separator : Char) (text : String) : List String :=
  (text.toList.splitOn separator).map String.ofList

/-- Drops the characters of a class from both ends. -/
def trimChars (blank : Char → Bool) (chars : List Char) : List Char :=
  ((chars.dropWhile blank).reverse.dropWhile blank).reverse

def trim (blank : Char → Bool) (text : String) : String :=
  String.ofList (trimChars blank text.toList)

/-- What follows the first occurrence of a mark. -/
def after? (mark : List Char) : List Char → Option (List Char)
  | [] => mark.isPrefixOf? []
  | c :: rest =>
    match mark.isPrefixOf? (c :: rest) with
    | some following => some following
    | none => after? mark rest

theorem pieces_ne_nil (separator : Char) (text : String) : pieces separator text ≠ [] := by
  simp [pieces]

end DeclarationLint.Text
