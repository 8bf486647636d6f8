import DeclarationLint.Text.Blank
import Mathlib.Data.List.TakeWhile

/-!
# Texts without blanks at the ends

To strip a text takes the blanks off both ends and nothing else. What is left is the one part of
the text with nothing but blanks around it and with no blank at an end of its own, so a text that
was stripped stays as it is.
-/
namespace DeclarationLint.Text

/-- No blank stands at either end of the text. -/
structure Tight (text : String) : Prop where
  first : ∀ c ∈ text.toList.head?, isBlank c = false
  last : ∀ c ∈ text.toList.getLast?, isBlank c = false

instance (text : String) : Decidable (Tight text) :=
  decidable_of_iff (text.toList.head?.all (! isBlank ·) ∧ text.toList.getLast?.all (! isBlank ·))
    (by
      simp only [Option.all_eq_true, Bool.not_eq_true']
      exact ⟨fun ends => ⟨ends.1, ends.2⟩, fun tight => ⟨tight.first, tight.last⟩⟩)

/-- The text is the core with blanks around it, as many as there are. -/
structure StripsTo (text core : String) : Prop where
  around : ∃ front back, text.toList = front ++ core.toList ++ back ∧
    (∀ c ∈ front, isBlank c = true) ∧ ∀ c ∈ back, isBlank c = true
  tight : Tight core

variable {blank : Char → Bool} {front core back : List Char}

theorem dropWhile_eq_self {chars : List Char} (first : ∀ c ∈ chars.head?, blank c = false) :
    chars.dropWhile blank = chars := by
  cases chars with
  | nil => rfl
  | cons c rest => rw [List.dropWhile_cons_of_neg (by simp [first c rfl])]

theorem blank_of_mem_head?_dropWhile {chars : List Char} {c : Char}
    (first : c ∈ (chars.dropWhile blank).head?) : blank c = false := by
  have stops := List.head?_dropWhile_not blank chars
  rw [Option.mem_def.mp first] at stops
  simpa using stops

theorem trimChars_around (frontBlank : ∀ c ∈ front, blank c = true)
    (backBlank : ∀ c ∈ back, blank c = true) (first : ∀ c ∈ core.head?, blank c = false)
    (last : ∀ c ∈ core.getLast?, blank c = false) :
    trimChars blank (front ++ core ++ back) = core := by
  have backwards : ∀ c ∈ core.reverse.head?, blank c = false := by
    rw [List.head?_reverse]
    exact last
  have lastFirst : ∀ c ∈ back.reverse, blank c = true := by simpa using backBlank
  rw [trimChars, List.append_assoc, List.dropWhile_append_of_pos frontBlank]
  cases core with
  | nil =>
    rw [List.nil_append, List.dropWhile_eq_nil_iff.mpr backBlank]
    rfl
  | cons c rest =>
    have stops : ∀ d ∈ (c :: rest ++ back).head?, blank d = false := first
    rw [dropWhile_eq_self stops, List.reverse_append, List.dropWhile_append_of_pos lastFirst,
      dropWhile_eq_self backwards, List.reverse_reverse]

theorem stripsTo_strip (text : String) : StripsTo text (strip text) := by
  let rest := text.toList.dropWhile isBlank
  have kept : (strip text).toList = (rest.reverse.dropWhile isBlank).reverse :=
    String.toList_ofList
  have behind : rest = (strip text).toList ++ (rest.reverse.takeWhile isBlank).reverse := by
    rw [kept, ← List.reverse_append, List.takeWhile_append_dropWhile, List.reverse_reverse]
  refine ⟨⟨text.toList.takeWhile isBlank, (rest.reverse.takeWhile isBlank).reverse, ?_, ?_, ?_⟩,
    ?_, ?_⟩
  · rw [List.append_assoc, ← behind, List.takeWhile_append_dropWhile]
  · exact fun c member => List.mem_takeWhile_imp member
  · exact fun c member => List.mem_takeWhile_imp (List.mem_reverse.mp member)
  · intro c first
    have here : c ∈ rest.head? := by
      rw [behind, List.head?_append, Option.mem_def.mp first]
      rfl
    exact blank_of_mem_head?_dropWhile here
  · intro c last
    rw [kept, List.getLast?_reverse] at last
    exact blank_of_mem_head?_dropWhile last

/-- There is one way to strip a text. -/
theorem strip_eq_iff (text core : String) : strip text = core ↔ StripsTo text core := by
  constructor
  · intro same
    exact same ▸ stripsTo_strip text
  · intro strips
    obtain ⟨⟨front, back, split, frontBlank, backBlank⟩, tight⟩ := strips
    rw [strip, trim, split, trimChars_around frontBlank backBlank tight.first tight.last,
      String.ofList_toList]

theorem Tight.strip_eq {text : String} (tight : Tight text) : strip text = text :=
  (strip_eq_iff text text).mpr ⟨⟨[], [], by simp, by simp, by simp⟩, tight⟩

theorem strip_eq_empty_iff (text : String) :
    strip text = "" ↔ ∀ c ∈ text.toList, isBlank c = true := by
  rw [strip_eq_iff]
  constructor
  · intro strips c member
    obtain ⟨front, back, split, frontBlank, backBlank⟩ := strips.around
    rw [split] at member
    simp only [String.toList_empty, List.append_nil, List.mem_append] at member
    exact member.elim (frontBlank c) (backBlank c)
  · intro blanks
    exact ⟨⟨text.toList, [], by simp, blanks, by simp⟩, by simp, by simp⟩

/-- Nothing gets into a text by stripping it. -/
theorem StripsTo.mem {text core : String} (strips : StripsTo text core) {c : Char}
    (member : c ∈ core.toList) : c ∈ text.toList := by
  obtain ⟨front, back, split, -, -⟩ := strips.around
  simp [split, member]

end DeclarationLint.Text
