import DeclarationLint.Text.Blank

/-!
# Wrapping text

A text is broken into lines between its words, a word being followed by the blanks after it.
A word that is too long for a line of its own is continued on the next lines or cut off and
marked, as the text asks.
-/
namespace DeclarationLint.Report.Console

/-- What becomes of a word that is too long for a line. -/
inductive Overflow where
  | fold
  | ellipsis
deriving DecidableEq, Repr

/-- Ends a line that was cut off. -/
def ellipsis : Char := '…'

/-- Blanks before a word belong to the first word, and blanks after it to the word. -/
def splitWord (chars : List Char) : List Char × List Char :=
  let leading := chars.takeWhile Text.isBlank
  let afterLeading := chars.dropWhile Text.isBlank
  let body := afterLeading.takeWhile (!Text.isBlank ·)
  let afterBody := afterLeading.dropWhile (!Text.isBlank ·)
  (leading ++ body ++ afterBody.takeWhile Text.isBlank, afterBody.dropWhile Text.isBlank)

theorem length_dropWhile_lt {p : Char → Bool} {c : Char} {rest : List Char} (first : p c = true) :
    ((c :: rest).dropWhile p).length < (c :: rest).length := by
  simp only [List.dropWhile_cons, first, if_true, List.length_cons]
  exact Nat.lt_succ_of_le (List.dropWhile_sublist p).length_le

theorem length_splitWord_lt {chars : List Char} (nonempty : chars ≠ []) :
    (splitWord chars).2.length < chars.length := by
  obtain ⟨c, rest, rfl⟩ := List.exists_cons_of_ne_nil nonempty
  simp only [splitWord]
  by_cases blank : Text.isBlank c = true
  · have shorter := @length_dropWhile_lt _ _ rest blank
    refine Nat.lt_of_le_of_lt ?_ shorter
    exact Nat.le_trans (List.dropWhile_sublist _).length_le (List.dropWhile_sublist _).length_le
  · have kept : (c :: rest).dropWhile Text.isBlank = c :: rest := by simp [blank]
    rw [kept]
    have shorter := @length_dropWhile_lt (!Text.isBlank ·) c rest (by simp [blank])
    exact Nat.lt_of_le_of_lt (List.dropWhile_sublist _).length_le shorter

/-- The words of a text, each with the blanks around it. A text of blanks has no word. -/
def words (chars : List Char) : List (List Char) :=
  if _ : chars = [] then []
  else if chars.all Text.isBlank then []
  else (splitWord chars).1 :: words (splitWord chars).2
termination_by chars.length
decreasing_by exact length_splitWord_lt ‹chars ≠ []›

def dropTrailing (chars : List Char) : List Char :=
  (chars.reverse.dropWhile Text.isBlank).reverse

/-- Cuts a text into parts of a width, the last of which may be shorter. -/
def chop (width : Nat) (chars : List Char) : List (List Char) :=
  if width = 0 ∨ chars.length ≤ width then [chars]
  else chars.take width :: chop width (chars.drop width)
termination_by chars.length
decreasing_by
  simp only [List.length_drop]
  omega

/-- The parts of a word that does not fit on the line being filled. Blanks after the word do
not make it too long, but they are part of what is continued. -/
def parts (overflow : Overflow) (width : Nat) (word : List Char) : List (List Char) :=
  match overflow with
  | .fold => if width < (dropTrailing word).length then chop width word else [word]
  | .ellipsis => [word]

/-- Puts words on lines: a word goes on the line being filled if it fits there without its
trailing blanks, and opens a line of its own otherwise. An empty line being filled is only
the start, and is not kept. -/
def fill (overflow : Overflow) (width : Nat) : List Char → List (List Char) → List (List Char)
  | line, [] => [line]
  | line, word :: rest =>
    if line.length + (dropTrailing word).length ≤ width then
      fill overflow width (line ++ word) rest
    else
      let parts := parts overflow width word
      (if line = [] then [] else [line]) ++ parts.dropLast ++
        fill overflow width (parts.getLast?.getD []) rest

/-- Makes a line fit: trailing blanks go first, then the end is cut off. -/
def fit (overflow : Overflow) (width : Nat) (line : List Char) : List Char :=
  let excess := line.length - width
  let blanks := line.length - (dropTrailing line).length
  let kept := line.take (line.length - min excess blanks)
  if kept.length ≤ width then kept
  else match overflow with
    | .fold => kept.take width
    | .ellipsis => kept.take (width - 1) ++ [ellipsis]

/-- The lines of a text at a width. There is always at least one. -/
def wrap (overflow : Overflow) (width : Nat) (text : String) : List String :=
  let chars := text.toList
  let lines := match words chars with
    | [] => [chars]
    | words => fill overflow width [] words
  lines.map fun line => String.ofList (fit overflow width line)

def padRight (width : Nat) (text : String) : String :=
  text ++ String.ofList (List.replicate (width - text.length) ' ')

end DeclarationLint.Report.Console
