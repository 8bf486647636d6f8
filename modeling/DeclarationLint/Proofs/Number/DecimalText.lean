import DeclarationLint.Number.Literal
import DeclarationLint.Proofs.Text.Blank
import Mathlib.Algebra.Group.Int.Defs
import Mathlib.Algebra.Group.Nat.Defs

/-!
# Integers in decimal

The decimal text of an integer is a sign if the integer is negative, and its digits. Read as a
setting it gives the integer back, unless it has more digits than a setting may have.
-/
namespace DeclarationLint.Literal

/-- The digits of a number, without its sign. -/
def magnitude (number : Int) : List Char := Nat.toDigits 10 number.natAbs

theorem isDigit_of_mem_magnitude {number : Int} {c : Char} (member : c ∈ magnitude number) :
    c.isDigit = true :=
  Nat.isDigit_of_mem_toDigits (by decide) (by decide) member

theorem notMem_magnitude {mark : Char} (noDigit : mark.isDigit = false) (number : Int) :
    mark ∉ magnitude number := by
  intro member
  rw [isDigit_of_mem_magnitude member] at noDigit
  cases noDigit

theorem toList_toString_of_neg {number : Int} (negative : number < 0) :
    (toString number).toList = '-' :: magnitude number := by
  obtain ⟨size, rfl⟩ := Int.eq_negSucc_of_lt_zero negative
  change ("-" ++ Nat.repr (size + 1)).toList = _
  simp [magnitude]

theorem toList_toString_of_nonneg {number : Int} (natural : 0 ≤ number) :
    (toString number).toList = magnitude number := by
  obtain ⟨size, rfl⟩ := Int.eq_ofNat_of_zero_le natural
  change (Nat.repr size).toList = _
  simp [magnitude]

theorem notMem_toString {mark : Char} (noDigit : mark.isDigit = false) (noSign : mark ≠ '-')
    (number : Int) : mark ∉ (toString number).toList := by
  by_cases negative : number < 0
  · rw [toList_toString_of_neg negative, List.mem_cons, not_or]
    exact ⟨noSign, notMem_magnitude noDigit number⟩
  · rw [toList_toString_of_nonneg (by omega)]
    exact notMem_magnitude noDigit number

theorem head?_magnitude_append (number : Int) (rest : List Char) :
    (magnitude number ++ rest).head? ≠ some '-' := by
  have noSign : '-' ∉ magnitude number := notMem_magnitude rfl number
  cases digits : magnitude number with
  | nil => exact absurd digits Nat.toDigits_ne_nil
  | cons c others =>
    rw [digits] at noSign
    intro same
    exact noSign (by simp [Option.some.inj same])

/-- How many digits the decimal text of an integer has. -/
def digitCount (number : Int) : Nat := (toString number).toList.countP Char.isDigit

theorem digitCount_eq_length (number : Int) : digitCount number = (magnitude number).length := by
  have digits : (magnitude number).countP Char.isDigit = (magnitude number).length :=
    List.countP_eq_length.mpr fun _ member => isDigit_of_mem_magnitude member
  rw [digitCount]
  by_cases negative : number < 0
  · rw [toList_toString_of_neg negative, List.countP_cons_of_neg (by decide), digits]
  · rw [toList_toString_of_nonneg (by omega), digits]

theorem digitCount_le_iff {number : Int} {most : Nat} (positive : 0 < most) :
    digitCount number ≤ most ↔ number.natAbs < 10 ^ most := by
  rw [digitCount_eq_length, magnitude, Nat.length_toDigits_le_iff (by decide) positive]

/-- Some integers are too long for any bound. -/
theorem lt_digitCount_pow {most : Nat} (positive : 0 < most) : most < digitCount (10 ^ most) := by
  refine Nat.lt_of_not_le fun within => ?_
  rw [digitCount_le_iff positive, Int.natAbs_pow] at within
  exact Nat.lt_irrefl _ within

/-- A digit stands for itself, and is no white space. -/
theorem plain_of_isDigit {c : Char} (digit : c.isDigit = true) :
    Text.asciiDigit c = c ∧ Text.isWhiteSpace c = false := by
  have ten : ∀ value : Fin 10, Text.asciiDigit (Char.ofNat (48 + value)) = Char.ofNat (48 + value) ∧
      Text.isWhiteSpace (Char.ofNat (48 + value)) = false := by decide
  have bounds : 48 ≤ c.toNat ∧ c.toNat ≤ 57 := by
    simpa [Char.isDigit, UInt32.le_iff_toNat_le] using digit
  have place : c = Char.ofNat (48 + (c.toNat - 48)) := by
    rw [Nat.add_sub_cancel' bounds.1, Char.ofNat_toNat]
  rw [place]
  exact ten ⟨c.toNat - 48, by omega⟩

theorem plain_of_mem_toString {number : Int} {c : Char}
    (member : c ∈ (toString number).toList) :
    Text.asciiDigit c = c ∧ Text.isWhiteSpace c = false := by
  by_cases sign : c = '-'
  · subst sign
    decide
  · refine plain_of_isDigit ?_
    by_contra noDigit
    exact notMem_toString (by simpa using noDigit) sign number member

theorem content_toString (number : Int) : content (toString number) = (toString number).toList := by
  have tight : Text.trimChars Text.isWhiteSpace (toString number).toList =
      (toString number).toList := by
    have trimmed : Text.trimChars Text.isWhiteSpace ([] ++ (toString number).toList ++ []) =
        (toString number).toList :=
      Text.trimChars_around (by simp) (by simp)
        (fun c first => (plain_of_mem_toString (List.mem_of_head? first)).2)
        (fun c last => (plain_of_mem_toString (List.mem_of_getLast? last)).2)
    simpa using trimmed
  have plain : (toString number).toList.map Text.asciiDigit = (toString number).toList.map id :=
    List.map_congr_left fun c member => (plain_of_mem_toString member).1
  rw [content, tight, plain, List.map_id]

theorem withoutUnderscores?_of_notMem {chars : List Char} (absent : '_' ∉ chars) :
    withoutUnderscores? chars = some chars := by
  have separate : ∀ before, underscoresSeparate before chars = true := by
    induction chars with
    | nil => exact fun _ => rfl
    | cons c rest ih =>
      intro before
      rw [underscoresSeparate, if_neg (List.ne_of_not_mem_cons absent).symm]
      exact ih (List.not_mem_of_not_mem_cons absent) _
  have kept : chars.filter (· ≠ '_') = chars := by
    rw [List.filter_eq_self]
    intro c member
    simpa using ne_of_mem_of_not_mem member absent
  rw [withoutUnderscores?, if_pos (separate false), kept]

theorem signed_toString (number : Int) :
    signed (toString number).toList = (decide (number < 0), magnitude number) := by
  by_cases negative : number < 0
  · rw [toList_toString_of_neg negative, signed, decide_eq_true negative]
  · rw [toList_toString_of_nonneg (by omega), decide_eq_false negative]
    have noMinus : '-' ∉ magnitude number := notMem_magnitude rfl number
    have noPlus : '+' ∉ magnitude number := notMem_magnitude rfl number
    unfold signed
    split
    · rename_i rest digits
      simp [digits] at noMinus
    · rename_i rest digits
      simp [digits] at noPlus
    · rfl

theorem natural?_magnitude (number : Int) : natural? (magnitude number) = some number.natAbs := by
  have digits : (magnitude number).all Char.isDigit = true :=
    List.all_eq_true.mpr fun _ member => isDigit_of_mem_magnitude member
  rw [natural?, if_pos ⟨Nat.toDigits_ne_nil, digits⟩, magnitude, Nat.ofDigitChars_ten_toDigits]

/-- A setting that is the decimal text of an integer gives this integer, if the text is not too
long. -/
theorem integer?_toString (number : Int) :
    integer? (toString number) = if digitCount number ≤ mostDigits then some number else none := by
  have noUnderscore : '_' ∉ (toString number).toList := notMem_toString rfl (by decide) number
  have value : (if decide (number < 0) = true then -(number.natAbs : Int) else number.natAbs) =
      number := by
    by_cases negative : number < 0
    · rw [decide_eq_true negative, if_pos rfl]
      omega
    · rw [decide_eq_false negative, if_neg Bool.false_ne_true]
      omega
  unfold integer?
  rw [content_toString, withoutUnderscores?_of_notMem noUnderscore, digitCount_eq_length]
  simp only [bind, Option.bind, signed_toString, natural?_magnitude, value]

end DeclarationLint.Literal
