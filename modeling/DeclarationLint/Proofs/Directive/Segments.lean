import DeclarationLint.Directive.Scanner

/-!
# The scanner on whole segments

The machine of the scanner reads one character at a time. These lemmas say what it makes of a
whole stretch of text in each of its states, so that nothing beyond this module has to follow
single characters. Spaces are taken out first (`run_withoutSpaces`); the other lemmas are about
texts that have none.
-/
namespace DeclarationLint.Directive

def withoutSpaces (chars : List Char) : List Char := chars.filter (· ≠ ' ')

def withoutCloses (chars : List Char) : List Char := chars.filter (· ≠ ')')

theorem withoutSpaces_append (first second : List Char) :
    withoutSpaces (first ++ second) = withoutSpaces first ++ withoutSpaces second :=
  List.filter_append first second

/-- A stretch with nothing in it that ends a keyword. -/
structure PlainWord (word : List Char) : Prop where
  noColon : ':' ∉ word
  noOpen : '(' ∉ word

theorem PlainWord.tail {c : Char} {word : List Char} (plain : PlainWord (c :: word)) :
    PlainWord word :=
  ⟨fun member => plain.noColon (List.mem_cons_of_mem c member),
    fun member => plain.noOpen (List.mem_cons_of_mem c member)⟩

/-- Free text after a closed argument in front of which the next colon opens a keyword. -/
def Opens (free : List Char) : Prop :=
  withoutCloses free = [] ∨ anchor <:+ withoutCloses free

/-- No colon inside the text opens a keyword. -/
def Inert (free : List Char) : Prop :=
  ∀ before after, free = before ++ ':' :: after → ¬ Opens before

namespace ScanState

theorem run_cons (state : ScanState) (c : Char) (rest : List Char) :
    state.run (c :: rest) = (state.step c).2.toList ++ (state.step c).1.run rest := by
  rw [run]
  rcases state.step c with ⟨next, _ | directive⟩ <;> rfl

theorem step_space (state : ScanState) : state.step ' ' = (state, none) := by
  cases state <;> simp [step]

theorem run_withoutSpaces (state : ScanState) (chars : List Char) :
    state.run (withoutSpaces chars) = state.run chars := by
  induction chars generalizing state with
  | nil => rfl
  | cons c rest ih =>
    by_cases space : c = ' '
    · subst space
      rw [run_cons, step_space]
      exact ih state
    · have kept : withoutSpaces (c :: rest) = c :: withoutSpaces rest := by
        simp [withoutSpaces, space]
      rw [kept, run_cons, run_cons, ih]

theorem run_head_append {free : List Char} (noColon : ':' ∉ free) (rest : List Char) :
    head.run (free ++ rest) = head.run rest := by
  induction free with
  | nil => rfl
  | cons c free ih =>
    have different := List.ne_of_not_mem_cons noColon
    rw [List.cons_append, run_cons]
    simpa [step, Ne.symm different] using ih (List.not_mem_of_not_mem_cons noColon)

theorem run_head_colon (rest : List Char) : head.run (':' :: rest) = (keyword []).run rest := by
  simp [run_cons, step]

theorem run_keyword_append {word : List Char} (plain : PlainWord word) (noSpace : ' ' ∉ word)
    (read rest : List Char) :
    (keyword read).run (word ++ rest) =
      (keyword ((withoutCloses word).reverse ++ read)).run rest := by
  induction word generalizing read with
  | nil => rfl
  | cons c word ih =>
    have notSpace := List.ne_of_not_mem_cons noSpace
    have notColon := List.ne_of_not_mem_cons plain.noColon
    have notOpen := List.ne_of_not_mem_cons plain.noOpen
    have later := ih plain.tail (List.not_mem_of_not_mem_cons noSpace)
    rw [List.cons_append, run_cons]
    by_cases close : c = ')'
    · subst close
      simpa [step, withoutCloses] using later read
    · simpa [step, withoutCloses, Ne.symm notSpace, Ne.symm notColon, Ne.symm notOpen, close]
        using later (c :: read)

theorem run_keyword_nil (read : List Char) : (keyword read).run [] = (bare? read).toList := rfl

theorem run_keyword_colon (read rest : List Char) :
    (keyword read).run (':' :: rest) = (bare? read).toList ++ (keyword []).run rest := by
  simp [run_cons, step]

theorem run_keyword_open (read rest : List Char) :
    (keyword read).run ('(' :: rest) = (argument (textOf read) []).run rest := by
  simp [run_cons, step]

theorem run_argument_closed {text : List Char} (noSpace : ' ' ∉ text) (noClose : ')' ∉ text)
    (word : String) (read rest : List Char) :
    (argument word read).run (text ++ ')' :: rest) =
      ⟨word, some (textOf (text.reverse ++ read))⟩ :: (tail []).run rest := by
  induction text generalizing read with
  | nil => simp [run_cons, step]
  | cons c text ih =>
    have notSpace := List.ne_of_not_mem_cons noSpace
    have notClose := List.ne_of_not_mem_cons noClose
    have next := ih (List.not_mem_of_not_mem_cons noSpace) (List.not_mem_of_not_mem_cons noClose)
      (c :: read)
    rw [List.cons_append, run_cons]
    simpa [step, Ne.symm notSpace, Ne.symm notClose] using next

theorem run_argument_unclosed {text : List Char} (noClose : ')' ∉ text) (word : String)
    (read : List Char) : (argument word read).run text = [] := by
  induction text generalizing read with
  | nil => rfl
  | cons c text ih =>
    have notClose := List.ne_of_not_mem_cons noClose
    have later := ih (List.not_mem_of_not_mem_cons noClose)
    rw [run_cons]
    by_cases space : c = ' '
    · subst space
      simpa [step] using later read
    · simpa [step, space, Ne.symm notClose] using later (c :: read)

/-- The machine keeps the free text reversed; this is its test read forwards. -/
theorem opensKeyword_reverse_iff (free : List Char) :
    opensKeyword (withoutCloses free).reverse = true ↔ Opens free := by
  simp [opensKeyword, Opens, List.isPrefixOf_iff_prefix, List.reverse_prefix]

/-- The free text read so far grows by the stretch as long as none of the stretch's colons
opens a keyword, each one judged with all that was read before it. -/
theorem run_tail_append_aux {free : List Char} (noSpace : ' ' ∉ free) (seen rest : List Char)
    (inert : ∀ before after, free = before ++ ':' :: after → ¬ Opens (seen ++ before)) :
    (tail (withoutCloses seen).reverse).run (free ++ rest) =
      (tail (withoutCloses (seen ++ free)).reverse).run rest := by
  induction free generalizing seen with
  | nil => simp
  | cons c free ih =>
    have notSpace := List.ne_of_not_mem_cons noSpace
    have closed : ¬ (c = ':' ∧ opensKeyword (withoutCloses seen).reverse = true) := by
      rintro ⟨rfl, opens⟩
      exact inert [] free rfl (by simpa using (opensKeyword_reverse_iff seen).mp opens)
    have stays : (tail (withoutCloses seen).reverse).step c =
        (tail (withoutCloses (seen ++ [c])).reverse, none) := by
      rw [step, if_neg closed]
      by_cases close : c = ')'
      · simp [withoutCloses, close]
      · simp [withoutCloses, close, Ne.symm notSpace]
    have shifted : ∀ before after, free = before ++ ':' :: after →
        ¬ Opens (seen ++ [c] ++ before) := by
      intro before after split
      simpa using inert (c :: before) after (by simp [split])
    have next := ih (List.not_mem_of_not_mem_cons noSpace) (seen ++ [c]) shifted
    rw [List.cons_append, run_cons, stays]
    simpa using next

theorem run_tail_append {free : List Char} (noSpace : ' ' ∉ free) (inert : Inert free)
    (rest : List Char) :
    (tail []).run (free ++ rest) = (tail (withoutCloses free).reverse).run rest :=
  run_tail_append_aux noSpace [] rest inert

theorem run_tail_inert {free : List Char} (noSpace : ' ' ∉ free) (inert : Inert free) :
    (tail []).run free = [] := by
  simpa [run, finish] using run_tail_append noSpace inert []

theorem run_tail_colon {free : List Char} (opens : Opens free) (rest : List Char) :
    (tail (withoutCloses free).reverse).run (':' :: rest) = (keyword []).run rest := by
  rw [run_cons]
  simp [step, (opensKeyword_reverse_iff free).mpr opens]

end ScanState
end DeclarationLint.Directive
