import DeclarationLint.Text.Pieces
import Mathlib.Data.List.Basic

/-!
# First occurrences and pieces

What cutting a text gives, said without the cutting: where a mark occurs first, and when a
text falls into exactly two pieces.
-/
namespace DeclarationLint.Text

/-- The text is cut in front of and behind the first occurrence of the mark. -/
structure FirstOccurrence (mark text before following : List Char) : Prop where
  split : text = before ++ mark ++ following
  first : ∀ earlier later, text = earlier ++ mark ++ later → before.length ≤ earlier.length

theorem exists_firstOccurrence_of_after? {mark text following : List Char}
    (found : after? mark text = some following) :
    ∃ before, FirstOccurrence mark text before following := by
  induction text with
  | nil =>
    rw [after?, List.isPrefixOf?_eq_some_iff_append_eq] at found
    exact ⟨[], by simpa using found.symm, by simp⟩
  | cons c rest ih =>
    rw [after?] at found
    split at found
    · rename_i here
      rw [List.isPrefixOf?_eq_some_iff_append_eq] at here
      cases found
      exact ⟨[], by simpa using here.symm, by simp⟩
    · rename_i absent
      obtain ⟨before, occurrence⟩ := ih found
      refine ⟨c :: before, by simp [occurrence.split], ?_⟩
      intro earlier later split
      cases earlier with
      | nil =>
        have here : mark.isPrefixOf? (c :: rest) = some later := by
          rw [List.isPrefixOf?_eq_some_iff_append_eq]
          simpa using split.symm
        rw [here] at absent
        cases absent
      | cons d earlier =>
        have shorter := occurrence.first earlier later (List.cons.inj split).2
        simpa using shorter

theorem FirstOccurrence.after? {mark text before following : List Char}
    (occurrence : FirstOccurrence mark text before following) :
    after? mark text = some following := by
  induction text generalizing before with
  | nil =>
    have cut := occurrence.split
    rw [Text.after?, List.isPrefixOf?_eq_some_iff_append_eq]
    simp only [List.append_assoc, List.nil_eq, List.append_eq_nil_iff] at cut
    simp [cut.2]
  | cons c rest ih =>
    rw [Text.after?]
    cases before with
    | nil =>
      have here : mark.isPrefixOf? (c :: rest) = some following := by
        rw [List.isPrefixOf?_eq_some_iff_append_eq]
        simpa using occurrence.split.symm
      rw [here]
    | cons d before =>
      have absent : mark.isPrefixOf? (c :: rest) = none := by
        cases here : mark.isPrefixOf? (c :: rest) with
        | none => rfl
        | some later =>
          rw [List.isPrefixOf?_eq_some_iff_append_eq] at here
          exact absurd (occurrence.first [] later (by simpa using here.symm)) (by simp)
      rw [absent]
      have shifted : FirstOccurrence mark rest before following := by
        refine ⟨(List.cons.inj occurrence.split).2, ?_⟩
        intro earlier later split
        simpa using occurrence.first (c :: earlier) later (by simp [split])
      exact ih shifted

theorem firstOccurrence_iff (mark before following : List Char) :
    FirstOccurrence mark (before ++ mark ++ following) before following ↔
      after? mark (before ++ mark ++ following) = some following := by
  constructor
  · exact FirstOccurrence.after?
  · intro found
    obtain ⟨other, occurrence⟩ := exists_firstOccurrence_of_after? found
    have same : before = other := by simpa using occurrence.split
    exact same ▸ occurrence

theorem after?_eq_none_iff (mark text : List Char) :
    after? mark text = none ↔ ¬ mark <:+: text := by
  induction text with
  | nil =>
    cases mark <;> simp [after?, List.isPrefixOf?]
  | cons c rest ih =>
    rw [after?, List.infix_cons_iff, not_or, ← ih]
    cases here : mark.isPrefixOf? (c :: rest) with
    | none =>
      have absent : ¬ mark <+: c :: rest := by
        rintro ⟨later, split⟩
        rw [List.isPrefixOf?_eq_some_iff_append_eq.mpr split] at here
        cases here
      simp [absent]
    | some later =>
      have present : mark <+: c :: rest :=
        ⟨later, List.isPrefixOf?_eq_some_iff_append_eq.mp here⟩
      simp [present]

/-- What follows the first occurrence has no part in it being the first. -/
theorem FirstOccurrence.replace {mark text before following : List Char}
    (occurrence : FirstOccurrence mark text before following) (other : List Char) :
    FirstOccurrence mark (before ++ mark ++ other) before other := by
  refine ⟨rfl, fun earlier later split => ?_⟩
  by_contra shorter
  have inside : earlier ++ mark <+: before ++ mark :=
    List.prefix_of_prefix_length_le ⟨later, split.symm⟩ ⟨other, rfl⟩
      (by simp only [List.length_append]; omega)
  obtain ⟨between, joined⟩ := inside
  have again := occurrence.first earlier (between ++ following) (by
    rw [occurrence.split, ← joined]
    simp)
  exact shorter again

theorem after?_append_of_some {mark text following : List Char}
    (found : after? mark text = some following) (more : List Char) :
    after? mark (text ++ more) = some (following ++ more) := by
  obtain ⟨before, occurrence⟩ := exists_firstOccurrence_of_after? found
  rw [occurrence.split, List.append_assoc]
  exact (occurrence.replace (following ++ more)).after?

/-- No occurrence comes with what is put behind a text, or lies across the seam, if there is none
in it and it starts with another character than the mark has. -/
theorem isInfix_append_iff {mark more : List Char} (apart : ∀ c ∈ more.head?, c ∉ mark)
    (absent : ¬ mark <:+: more) (text : List Char) :
    mark <:+: text ++ more ↔ mark <:+: text := by
  refine ⟨?_, fun inside => inside.trans (List.prefix_append text more).isInfix⟩
  rintro ⟨before, following, split⟩
  rcases List.append_eq_append_iff.mp split with ⟨rest, rfl, rfl⟩ | ⟨rest, ends, rfl⟩
  · exact ⟨before, rest, rfl⟩
  · rcases List.append_eq_append_iff.mp ends with ⟨piece, rfl, rfl⟩ | ⟨gap, rfl, rfl⟩
    · cases rest with
      | nil => exact ⟨before, [], by simp⟩
      | cons c rest => exact absurd (by simp) (apart c rfl)
    · exact absurd ⟨gap, following, rfl⟩ absent

theorem after?_append {mark more : List Char} (apart : ∀ c ∈ more.head?, c ∉ mark)
    (absent : ¬ mark <:+: more) (text : List Char) :
    after? mark (text ++ more) = (after? mark text).map (· ++ more) := by
  cases search : after? mark text with
  | some following => exact after?_append_of_some search more
  | none =>
    rw [after?_eq_none_iff] at search
    rw [Option.map_none, after?_eq_none_iff, isInfix_append_iff apart absent]
    exact search

/-- What is put in front of a text does not count if it lacks the first character of the mark. -/
theorem after?_append_of_notMem {c : Char} {front : List Char} (absent : c ∉ front)
    (mark text : List Char) : after? (c :: mark) (front ++ text) = after? (c :: mark) text := by
  induction front with
  | nil => rfl
  | cons d front ih =>
    have different := List.ne_of_not_mem_cons absent
    have elsewhere : (c :: mark).isPrefixOf? (d :: (front ++ text)) = none := by
      simp [List.isPrefixOf?, different]
    rw [List.cons_append, after?, elsewhere]
    exact ih (List.not_mem_of_not_mem_cons absent)

/-- The text has one separator, between the two given parts. -/
structure SplitsOnce (separator : Char) (text left right : String) : Prop where
  split : text.toList = left.toList ++ separator :: right.toList
  left : separator ∉ left.toList
  right : separator ∉ right.toList

theorem not_mem_of_mem_splitOn {separator : Char} {chars piece : List Char}
    (member : piece ∈ chars.splitOn separator) : separator ∉ piece := by
  induction chars generalizing piece with
  | nil =>
    simp only [List.splitOn_nil, List.mem_singleton] at member
    simp [member]
  | cons c rest ih =>
    rw [List.splitOn_cons_eq_if_modifyHead] at member
    split at member
    · rcases List.mem_cons.mp member with rfl | later
      · simp
      · exact ih later
    · rename_i different
      cases pieces : rest.splitOn separator with
      | nil => simp [pieces] at member
      | cons first others =>
        rw [pieces, List.modifyHead_cons] at member
        rcases List.mem_cons.mp member with rfl | later
        · have inside : first ∈ rest.splitOn separator := by simp [pieces]
          have clean := ih inside
          have other : separator ≠ c := by
            rintro rfl
            simp at different
          simp [other, clean]
        · exact ih (by simp [pieces, later])

theorem pieces_eq_pair_iff (separator : Char) (text left right : String) :
    pieces separator text = [left, right] ↔ SplitsOnce separator text left right := by
  constructor
  · intro cut
    have parts : text.toList.splitOn separator = [left.toList, right.toList] := by
      have lists := congrArg (List.map String.toList) cut
      simpa [pieces, Function.comp_def] using lists
    have joined : [separator].intercalate (text.toList.splitOn separator) = text.toList :=
      List.intercalate_splitOn separator
    rw [parts] at joined
    have leftInside : left.toList ∈ text.toList.splitOn separator := by simp [parts]
    have rightInside : right.toList ∈ text.toList.splitOn separator := by simp [parts]
    exact ⟨by simpa using joined.symm, not_mem_of_mem_splitOn leftInside,
      not_mem_of_mem_splitOn rightInside⟩
  · intro once
    rw [pieces, once.split, List.splitOn_append_cons_self_of_not_mem once.left,
      List.splitOn_eq_singleton once.right]
    simp

theorem count_eq_one_iff (separator : Char) (text : String) :
    text.toList.count separator = 1 ↔ ∃ left right, SplitsOnce separator text left right := by
  constructor
  · intro once
    have member : separator ∈ text.toList := List.count_pos_iff.mp (by omega)
    obtain ⟨left, right, split, notLeft⟩ := List.eq_append_cons_of_mem member
    rw [split, List.count_append, List.count_cons_self,
      List.count_eq_zero_of_not_mem notLeft] at once
    have notRight : separator ∉ right := List.count_eq_zero.mp (by omega)
    exact ⟨String.ofList left, String.ofList right, by simpa using split, by simpa using notLeft,
      by simpa using notRight⟩
  · intro once
    obtain ⟨left, right, split, notLeft, notRight⟩ := once
    rw [split, List.count_append, List.count_cons_self, List.count_eq_zero_of_not_mem notLeft,
      List.count_eq_zero_of_not_mem notRight]

/-- Pieces that are put together with a mark between them are the pieces at this mark. -/
theorem pieces_intercalate {separator : Char} {mark : String} (single : mark.toList = [separator])
    {parts : List String} (whole : ∀ part ∈ parts, separator ∉ part.toList)
    (some : parts ≠ []) : pieces separator (mark.intercalate parts) = parts := by
  rw [pieces, String.toList_intercalate, single, List.splitOn_intercalate]
  · simp [Function.comp_def]
  · simpa using whole
  · simpa using some

theorem intercalate_cons (separator first : List Char) (rest : List (List Char)) :
    separator.intercalate (first :: rest) = first ++ rest.flatMap (separator ++ ·) := by
  induction rest generalizing first with
  | nil => simp
  | cons next rest ih => simp [ih]

theorem toList_intercalate_cons (mark first : String) (rest : List String) :
    (mark.intercalate (first :: rest)).toList =
      first.toList ++ rest.flatMap fun next => mark.toList ++ next.toList := by
  rw [String.toList_intercalate, List.map_cons, intercalate_cons, List.flatMap_map]

end DeclarationLint.Text
