import DeclarationLint.Proofs.Text.Blank
import DeclarationLint.Report.Console.Wrap
import Mathlib.Data.List.Forall2

/-!
# Wrapped text

To wrap a text is to cut it into parts and to show each of them on a line of its own. The parts
make up the text; a line shows its part as it is but for blanks at the end, or the start of it and
a mark. A text that fits on one line is not cut at all.
-/
namespace DeclarationLint.Report.Console

open DeclarationLint.Text (isBlank)

/-- What a line with room for `width` characters shows of a part of a text: all of it but for blanks
at its end, or as much as there is room for if it is too long without them. -/
inductive Shown (width : Nat) : Overflow → List Char → List Char → Prop where
  | whole {overflow : Overflow} {line blanks : List Char} (fits : line.length ≤ width)
      (blank : ∀ c ∈ blanks, isBlank c = true) : Shown width overflow (line ++ blanks) line
  | cut {start rest : List Char} (full : start.length + 1 = width)
      (long : width < (dropTrailing (start ++ rest)).length) :
      Shown width .ellipsis (start ++ rest) (start ++ [ellipsis])

/-- The lines show a text, part by part. -/
def Wraps (overflow : Overflow) (width : Nat) (text : String) (lines : List String) : Prop :=
  ∃ parts : List (List Char), parts.flatten = text.toList ∧
    List.Forall₂ (fun part line => Shown width overflow part line.toList) parts lines

theorem exists_of_mem_right {α β : Type} {relates : α → β → Prop} {items : List α} {others : List β}
    (related : List.Forall₂ relates items others) {other : β} (member : other ∈ others) :
    ∃ item ∈ items, relates item other := by
  induction related with
  | nil => cases member
  | @cons item first items _ relation _ ih =>
    rcases List.mem_cons.mp member with rfl | later
    · exact ⟨item, List.mem_cons_self, relation⟩
    · obtain ⟨found, among, relatedToo⟩ := ih later
      exact ⟨found, List.mem_cons_of_mem item among, relatedToo⟩

theorem dropTrailing_append (chars : List Char) :
    ∃ blanks, dropTrailing chars ++ blanks = chars ∧ ∀ c ∈ blanks, isBlank c = true := by
  refine ⟨(chars.reverse.takeWhile isBlank).reverse, ?_, ?_⟩
  · rw [dropTrailing, ← List.reverse_append, List.takeWhile_append_dropWhile, List.reverse_reverse]
  · intro c member
    exact List.mem_takeWhile_imp (List.mem_reverse.mp member)

theorem length_dropTrailing_le (chars : List Char) :
    (dropTrailing chars).length ≤ chars.length := by
  obtain ⟨blanks, split, -⟩ := dropTrailing_append chars
  have lengths := congrArg List.length split
  rw [List.length_append] at lengths
  omega

theorem length_dropTrailing_append_le (front chars : List Char) :
    (dropTrailing (front ++ chars)).length ≤ front.length + (dropTrailing chars).length := by
  unfold dropTrailing
  rw [List.reverse_append, List.length_reverse, List.length_reverse, List.dropWhile_append]
  split
  · have shorter := (List.dropWhile_sublist (p := isBlank) (l := front.reverse)).length_le
    rw [List.length_reverse] at shorter
    omega
  · rw [List.length_append, List.length_reverse]
    omega

/-- A line without the blanks at its end that there is no room for. -/
def shortened (width : Nat) (line : List Char) : List Char :=
  line.take (line.length - min (line.length - width) (line.length - (dropTrailing line).length))

theorem shortened_append (width : Nat) (line : List Char) :
    ∃ blanks, shortened width line ++ blanks = line ∧ ∀ c ∈ blanks, isBlank c = true := by
  obtain ⟨blanks, split, blank⟩ := dropTrailing_append line
  refine ⟨_, List.take_append_drop _ line, fun c member => blank c ?_⟩
  -- at least the trimmed line is kept, so what is dropped is among its blanks
  have reach := length_dropTrailing_le line
  have dropped : ∀ kept, (dropTrailing line).length ≤ kept → ∀ c ∈ line.drop kept, c ∈ blanks := by
    intro kept enough c inside
    rw [← split, List.drop_append, List.drop_eq_nil_of_le enough, List.nil_append] at inside
    exact List.mem_of_mem_drop inside
  exact dropped _ (by omega) c member

theorem length_shortened_le_or (width : Nat) (line : List Char) :
    (shortened width line).length ≤ width ∨
      (shortened width line).length = (dropTrailing line).length := by
  have reach := length_dropTrailing_le line
  rw [shortened, List.length_take]
  omega

theorem fit_eq (overflow : Overflow) (width : Nat) (line : List Char) :
    fit overflow width line =
      if (shortened width line).length ≤ width then shortened width line
      else match overflow with
        | .fold => (shortened width line).take width
        | .ellipsis => (shortened width line).take (width - 1) ++ [ellipsis] := rfl

theorem shown_fit {overflow : Overflow} {width : Nat} {part : List Char} (room : 0 < width)
    (folds : overflow = .fold → (dropTrailing part).length ≤ width) :
    Shown width overflow part (fit overflow width part) := by
  obtain ⟨blanks, split, blank⟩ := shortened_append width part
  rw [fit_eq]
  by_cases fits : (shortened width part).length ≤ width
  · rw [if_pos fits]
    nth_rewrite 1 [← split]
    exact .whole fits blank
  · have trimmed := (length_shortened_le_or width part).resolve_left fits
    rw [if_neg fits]
    cases overflow with
    | fold => exact absurd (folds rfl) (by omega)
    | ellipsis =>
      have whole : (shortened width part).take (width - 1) ++
          ((shortened width part).drop (width - 1) ++ blanks) = part := by
        rw [← List.append_assoc, List.take_append_drop, split]
      have start : ((shortened width part).take (width - 1)).length + 1 = width := by
        rw [List.length_take]
        omega
      nth_rewrite 1 [← whole]
      refine .cut start ?_
      rw [whole]
      omega

theorem flatten_chop (width : Nat) (chars : List Char) : (chop width chars).flatten = chars := by
  induction chars using chop.induct width with
  | case1 chars short => rw [chop, if_pos short, List.flatten_singleton]
  | case2 chars long ih =>
    rw [chop, if_neg long, List.flatten_cons, ih, List.take_append_drop]

theorem length_le_of_mem_chop {width : Nat} (room : 0 < width) {chars part : List Char}
    (member : part ∈ chop width chars) : part.length ≤ width := by
  induction chars using chop.induct width with
  | case1 chars short =>
    rw [chop, if_pos short, List.mem_singleton] at member
    subst member
    omega
  | case2 chars long ih =>
    rw [chop, if_neg long, List.mem_cons] at member
    rcases member with rfl | later
    · exact List.length_take_le width chars
    · exact ih later

theorem parts_ne_nil (overflow : Overflow) (width : Nat) (word : List Char) :
    parts overflow width word ≠ [] := by
  cases overflow with
  | fold =>
    rw [parts]
    split
    · rw [chop]
      split <;> simp
    · simp
  | ellipsis => simp [parts]

theorem flatten_parts (overflow : Overflow) (width : Nat) (word : List Char) :
    (parts overflow width word).flatten = word := by
  cases overflow with
  | fold =>
    rw [parts]
    split
    · exact flatten_chop width word
    · exact List.flatten_singleton
  | ellipsis => exact List.flatten_singleton

theorem dropLast_append_getLast?_parts (overflow : Overflow) (width : Nat) (word : List Char) :
    (parts overflow width word).dropLast.flatten ++ (parts overflow width word).getLast?.getD [] =
      word := by
  have some := parts_ne_nil overflow width word
  have whole := flatten_parts overflow width word
  rw [← List.dropLast_append_getLast some, List.flatten_concat] at whole
  rwa [List.getLast?_eq_some_getLast some]

/-- Nothing gets lost between the lines. -/
theorem flatten_fill (overflow : Overflow) (width : Nat) (line : List Char)
    (words : List (List Char)) :
    (fill overflow width line words).flatten = line ++ words.flatten := by
  induction words generalizing line with
  | nil => simp [fill]
  | cons word rest ih =>
    have started : (if line = [] then [] else [line]).flatten = line := by
      split
      · rename_i empty
        rw [empty, List.flatten_nil]
      · exact List.flatten_singleton
    rw [fill]
    split
    · rw [ih, List.flatten_cons, List.append_assoc]
    · rw [List.flatten_append, List.flatten_append, started, ih, List.flatten_cons,
        List.append_assoc, ← List.append_assoc _ _ rest.flatten, dropLast_append_getLast?_parts]

theorem fill_ne_nil (overflow : Overflow) (width : Nat) (line : List Char)
    (words : List (List Char)) : fill overflow width line words ≠ [] := by
  induction words generalizing line with
  | nil => simp [fill]
  | cons word rest ih =>
    rw [fill]
    split
    · exact ih _
    · exact List.append_ne_nil_of_right_ne_nil _ (ih _)

/-- Words that fit on the line being filled stay on it. -/
theorem fill_of_fits (overflow : Overflow) {width : Nat} {line : List Char}
    {words : List (List Char)} (fits : (line ++ words.flatten).length ≤ width) :
    fill overflow width line words = [line ++ words.flatten] := by
  induction words generalizing line with
  | nil => simp [fill]
  | cons word rest ih =>
    rw [List.flatten_cons, ← List.append_assoc] at fits ⊢
    have shorter := length_dropTrailing_le word
    have here : line.length + (dropTrailing word).length ≤ width := by
      simp only [List.length_append] at fits
      omega
    rw [fill, if_pos here, ih fits]

/-- A folded word leaves nothing that is too long for a line: the line being filled is never too
long itself, but for blanks at its end. -/
theorem length_dropTrailing_of_mem_fill {width : Nat} (room : 0 < width) {line : List Char}
    (fits : (dropTrailing line).length ≤ width) {words : List (List Char)} {part : List Char}
    (member : part ∈ fill .fold width line words) : (dropTrailing part).length ≤ width := by
  induction words generalizing line with
  | nil =>
    rw [fill, List.mem_singleton] at member
    rwa [member]
  | cons word rest ih =>
    have short : ∀ piece ∈ parts .fold width word, (dropTrailing piece).length ≤ width := by
      intro piece inside
      rw [parts] at inside
      split at inside
      · exact (length_dropTrailing_le piece).trans (length_le_of_mem_chop room inside)
      · rw [List.mem_singleton.mp inside]
        omega
    rw [fill] at member
    split at member
    · exact ih ((length_dropTrailing_append_le line word).trans ‹_›) member
    · rw [List.mem_append, List.mem_append] at member
      rcases member with (started | inside) | later
      · split at started
        · cases started
        · rwa [List.mem_singleton.mp started]
      · exact short part ((List.dropLast_sublist _).subset inside)
      · refine ih ?_ later
        rw [List.getLast?_eq_some_getLast (parts_ne_nil _ _ _)]
        exact short _ (List.getLast_mem _)

theorem splitWord_append (chars : List Char) :
    (splitWord chars).1 ++ (splitWord chars).2 = chars := by
  simp [splitWord, List.takeWhile_append_dropWhile]

/-- A word takes the blanks behind it with it. -/
theorem splitWord_eq_nil_of_blank {chars : List Char}
    (blank : (splitWord chars).2.all isBlank = true) : (splitWord chars).2 = [] := by
  cases rest : (splitWord chars).2 with
  | nil => rfl
  | cons c others =>
    have first : c ∈ (splitWord chars).2.head? := by rw [rest]; rfl
    have stops : isBlank c = false := Text.blank_of_mem_head?_dropWhile first
    rw [rest, List.all_cons, stops] at blank
    cases blank

theorem words_eq_nil_iff (chars : List Char) : words chars = [] ↔ chars.all isBlank = true := by
  rw [words]
  split
  · rename_i empty
    simp [empty]
  · split
    · rename_i blank
      exact iff_of_true rfl blank
    · rename_i letters
      exact iff_of_false (List.cons_ne_nil _ _) letters

/-- The words make up the text, unless it has blanks and nothing else. -/
theorem flatten_words {chars : List Char} (unlessEmpty : chars.all isBlank = true → chars = []) :
    (words chars).flatten = chars := by
  -- Behind a word there are never only blanks, so the condition passes on to the rest.
  induction chars using words.induct with
  | case1 => rw [words, dif_pos rfl, List.flatten_nil]
  | case2 chars nonempty blank => exact absurd (unlessEmpty blank) nonempty
  | case3 chars nonempty letters ih =>
    rw [words, dif_neg nonempty, if_neg letters, List.flatten_cons, ih splitWord_eq_nil_of_blank,
      splitWord_append]

/-- The parts of a text that are shown on lines of their own. -/
def wrapParts (overflow : Overflow) (width : Nat) (chars : List Char) : List (List Char) :=
  match words chars with
  | [] => [chars]
  | words => fill overflow width [] words

theorem wrap_eq (overflow : Overflow) (width : Nat) (text : String) :
    wrap overflow width text = (wrapParts overflow width text.toList).map fun part =>
      String.ofList (fit overflow width part) := rfl

theorem wrapParts_of_blank {chars : List Char} (blank : chars.all isBlank = true)
    (overflow : Overflow) (width : Nat) : wrapParts overflow width chars = [chars] := by
  rw [wrapParts, (words_eq_nil_iff chars).mpr blank]

theorem wrapParts_of_not_blank {chars : List Char} (letters : ¬ chars.all isBlank = true)
    (overflow : Overflow) (width : Nat) :
    wrapParts overflow width chars = fill overflow width [] (words chars) := by
  rw [wrapParts]
  split
  · rename_i none
    exact absurd ((words_eq_nil_iff chars).mp none) letters
  · rfl

theorem flatten_wrapParts (overflow : Overflow) (width : Nat) (chars : List Char) :
    (wrapParts overflow width chars).flatten = chars := by
  by_cases blank : chars.all isBlank = true
  · rw [wrapParts_of_blank blank, List.flatten_singleton]
  · rw [wrapParts_of_not_blank blank, flatten_fill, List.nil_append,
      flatten_words fun all => absurd all blank]

theorem wrapParts_ne_nil (overflow : Overflow) (width : Nat) (chars : List Char) :
    wrapParts overflow width chars ≠ [] := by
  by_cases blank : chars.all isBlank = true
  · rw [wrapParts_of_blank blank]
    exact List.cons_ne_nil _ _
  · rw [wrapParts_of_not_blank blank]
    exact fill_ne_nil overflow width [] _

theorem dropTrailing_of_blank {chars : List Char} (blank : chars.all isBlank = true) :
    dropTrailing chars = [] := by
  have none : chars.reverse.dropWhile isBlank = [] := by
    rw [List.dropWhile_eq_nil_iff]
    intro c member
    exact List.all_eq_true.mp blank c (List.mem_reverse.mp member)
  rw [dropTrailing, none, List.reverse_nil]

theorem length_dropTrailing_of_mem_wrapParts {width : Nat} (room : 0 < width)
    {chars part : List Char} (member : part ∈ wrapParts .fold width chars) :
    (dropTrailing part).length ≤ width := by
  by_cases blank : chars.all isBlank = true
  · rw [wrapParts_of_blank blank, List.mem_singleton] at member
    rw [member, dropTrailing_of_blank blank]
    exact Nat.zero_le width
  · rw [wrapParts_of_not_blank blank] at member
    have start : (dropTrailing []).length ≤ width := Nat.zero_le width
    exact length_dropTrailing_of_mem_fill room start member

/-- However long a text is and whatever becomes of long words, its lines show it. -/
theorem wraps_wrap {width : Nat} (room : 0 < width) (overflow : Overflow) (text : String) :
    Wraps overflow width text (wrap overflow width text) := by
  refine ⟨wrapParts overflow width text.toList, flatten_wrapParts overflow width text.toList, ?_⟩
  rw [wrap_eq, List.forall₂_map_right_iff, List.forall₂_same]
  intro part member
  rw [String.toList_ofList]
  refine shown_fit room fun folds => ?_
  subst folds
  exact length_dropTrailing_of_mem_wrapParts room member

theorem wrap_ne_nil (overflow : Overflow) (width : Nat) (text : String) :
    wrap overflow width text ≠ [] := by
  rw [wrap_eq]
  simpa using wrapParts_ne_nil overflow width text.toList

/-- A text that fits is shown as it is. -/
theorem wrap_of_length_le (overflow : Overflow) {width : Nat} {text : String}
    (fits : text.length ≤ width) : wrap overflow width text = [text] := by
  have short : text.toList.length ≤ width := by rwa [String.length_toList]
  have single : wrapParts overflow width text.toList = [text.toList] := by
    by_cases blank : text.toList.all isBlank = true
    · exact wrapParts_of_blank blank overflow width
    · have whole := flatten_words fun all => absurd all blank
      rw [wrapParts_of_not_blank blank, fill_of_fits overflow (by rwa [List.nil_append, whole]),
        List.nil_append, whole]
  have kept : fit overflow width text.toList = text.toList := by
    simp [fit_eq, shortened, Nat.sub_eq_zero_of_le short, short]
  rw [wrap_eq, single, List.map_singleton, kept, String.ofList_toList]

variable {overflow : Overflow} {width : Nat} {part line : List Char}

theorem Shown.length_le (shown : Shown width overflow part line) : line.length ≤ width := by
  cases shown with
  | whole fits => exact fits
  | cut full => simp [full]

theorem Shown.mem (shown : Shown width overflow part line) {c : Char} (member : c ∈ line) :
    c ∈ part ∨ c = ellipsis := by
  cases shown with
  | whole => exact Or.inl (List.mem_append_left _ member)
  | cut =>
    rcases List.mem_append.mp member with start | mark
    · exact Or.inl (List.mem_append_left _ start)
    · exact Or.inr (List.mem_singleton.mp mark)

namespace Wraps

variable {text : String} {lines : List String}

theorem length_le (wraps : Wraps overflow width text lines) {line : String}
    (member : line ∈ lines) : line.length ≤ width := by
  obtain ⟨parts, -, shown⟩ := wraps
  obtain ⟨part, -, shows⟩ := exists_of_mem_right shown member
  rw [← String.length_toList]
  exact shows.length_le

/-- Lines have no characters but those of the text and the mark. -/
theorem mem (wraps : Wraps overflow width text lines) {line : String} (member : line ∈ lines)
    {c : Char} (inside : c ∈ line.toList) : c ∈ text.toList ∨ c = ellipsis := by
  obtain ⟨parts, whole, shown⟩ := wraps
  obtain ⟨part, among, shows⟩ := exists_of_mem_right shown member
  refine (shows.mem inside).imp_left fun here => ?_
  rw [← whole]
  exact List.mem_flatten_of_mem among here

/-- Empty lines below those of a text show nothing more. -/
theorem append_empty (wraps : Wraps overflow width text lines) (count : Nat) :
    Wraps overflow width text (lines ++ List.replicate count "") := by
  obtain ⟨parts, whole, shown⟩ := wraps
  have nothing : Shown width overflow ([] ++ []) "".toList := .whole (Nat.zero_le width) (by simp)
  have below : List.Forall₂ (fun part line => Shown width overflow part line.toList)
      (List.replicate count []) (List.replicate count "") := by
    induction count with
    | zero => exact .nil
    | succ count ih => exact .cons nothing ih
  refine ⟨parts ++ List.replicate count [], by simp [whole], ?_⟩
  exact List.rel_append shown below

end Wraps
end DeclarationLint.Report.Console
