import DeclarationLint.Text.Pieces

/-!
# Blank characters

Two classes, one within the other: the white space of Unicode, and white space together with
the four information separators.
-/
namespace DeclarationLint.Text

/-- The white space of Unicode. -/
def isWhiteSpace (c : Char) : Bool :=
  c = ' ' || ('\t' ≤ c && c ≤ '\r') || c = '\u0085' || c = '\u00a0' || c = '\u1680' ||
    ('\u2000' ≤ c && c ≤ '\u200a') || c = '\u2028' || c = '\u2029' || c = '\u202f' ||
    c = '\u205f' || c = '\u3000'

/-- Every character that separates words: white space and the information separators U+001C
to U+001F. -/
def isBlank (c : Char) : Bool :=
  isWhiteSpace c || ('\x1c' ≤ c && c ≤ '\x1f')

/-- Takes every kind of blank off both ends. -/
def strip (text : String) : String :=
  trim isBlank text

theorem isBlank_of_isWhiteSpace {c : Char} (blank : isWhiteSpace c = true) :
    isBlank c = true := by
  simp [isBlank, blank]

end DeclarationLint.Text
