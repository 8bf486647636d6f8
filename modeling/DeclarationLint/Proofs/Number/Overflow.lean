import DeclarationLint.Number.Binary64
import Mathlib.Algebra.Group.Nat.Defs
import Mathlib.Order.Basic
import Mathlib.Tactic.SplitIfs

/-!
# Integers beyond the floating point format

Between the largest finite value and the first power of two that is out of range lies a middle.
Rounding to nearest sends every size from the middle on to infinity, the middle itself included,
because the significand of the largest finite value is odd. So an integer has a finite nearest
value exactly if its size is below the middle.
-/
namespace DeclarationLint.Binary64

/-- The size from which on integers round to infinity, which is `2 ^ 1024 - 2 ^ 970`. -/
def integerCeiling : Nat := (2 ^ 54 - 1) * 2 ^ 970

/-- The ceiling by the greatest exponent. Its power of two is kept abstract from here on, since it
is better not computed. -/
theorem exists_integerCeiling_eq : ∃ half : Nat,
    greatestExponent = half + 1 ∧ integerCeiling = (2 ^ 54 - 1) * 2 ^ half := by
  refine ⟨970, rfl, ?_⟩
  rw [integerCeiling]

/-- From the middle above an odd number on a quotient rounds up. -/
theorem divideToEven_eq_succ_iff {numerator denominator odd : Nat} (isOdd : odd % 2 = 1)
    (below : numerator < (odd + 1) * denominator) :
    divideToEven numerator denominator = odd + 1 ↔
      2 * (odd * denominator) + denominator ≤ 2 * numerator := by
  have positive : 0 < denominator := Nat.pos_of_mul_pos_left (Nat.zero_lt_of_lt below)
  have divided := Nat.div_add_mod numerator denominator
  have remainder := Nat.mod_lt numerator positive
  have atMost : numerator / denominator ≤ odd :=
    Nat.le_of_lt_succ ((Nat.div_lt_iff_lt_mul positive).mpr below)
  unfold divideToEven
  rcases Nat.lt_or_eq_of_le atMost with smaller | same
  · have short : numerator < odd * denominator := (Nat.div_lt_iff_lt_mul positive).mp smaller
    simp only
    split_ifs <;> omega
  · rw [same, Nat.mul_comm] at divided
    simp only [same]
    split_ifs <;> omega

/-- The significand that a ratio is rounded to before its range is checked. -/
def roundedSignificand (numerator denominator : Nat) : Nat :=
  divideToEven (scaled numerator denominator (exponentFor numerator denominator)).1
    (scaled numerator denominator (exponentFor numerator denominator)).2

/-- A ratio is beyond the format if its exponent is, which grows by one if the significand rounds
up to the next power of two. -/
theorem ofRatio_eq_infinite_iff {numerator : Nat} (positive : numerator ≠ 0) (negative : Bool)
    (denominator : Nat) :
    (∃ sign, ofRatio negative numerator denominator = .infinite sign) ↔
      greatestExponent < exponentFor numerator denominator +
        if roundedSignificand numerator denominator = significandBound then 1 else 0 := by
  unfold ofRatio roundedSignificand
  rw [if_neg positive]
  simp only
  split_ifs <;> simp_all

theorem exponentFor_one {size : Nat} (positive : size ≠ 0) :
    exponentFor size 1 = (size.log2 : Int) - 52 := by
  have reached : Nat.pow 2 size.log2 ≤ size := Nat.log2_self_le positive
  have estimate : Int.ofNat size.log2 - Int.ofNat (Nat.log2 1) = (size.log2 : Int) := by
    rw [show Nat.log2 1 = 0 from rfl]
    simp
  have small : leastExponent ≤ (size.log2 : Int) - 52 := by
    unfold leastExponent
    omega
  unfold exponentFor
  simp only [estimate, scaled, Int.natCast_nonneg, if_true, Int.toNat_natCast, Nat.one_mul]
  rw [if_pos reached, Int.max_eq_right small]

/-- In each binade the significand rounds up to the next power of two from the middle on. -/
theorem roundedSignificand_eq_bound_iff {size half : Nat} (binade : size.log2 = 53 + half) :
    roundedSignificand size 1 = significandBound ↔ (2 ^ 54 - 1) * 2 ^ half ≤ size := by
  have positive : size ≠ 0 := by
    rintro rfl
    simp at binade
    omega
  have exponent : exponentFor size 1 = (half + 1 : Nat) := by
    rw [exponentFor_one positive, binade]
    omega
  have scale : scaled size 1 (half + 1 : Nat) = (size, 2 ^ (half + 1)) := by
    rw [scaled, if_pos (Int.natCast_nonneg _), Int.toNat_natCast, Nat.one_mul]
    rfl
  have below : size < (2 ^ 53 - 1 + 1) * 2 ^ (half + 1) := by
    have bounded : size < 2 ^ (size.log2 + 1) := Nat.lt_log2_self
    have split : 2 ^ (size.log2 + 1) = 2 ^ 53 * 2 ^ (half + 1) := by
      rw [← Nat.pow_add, binade, Nat.add_assoc]
    omega
  have bound : significandBound = 2 ^ 53 - 1 + 1 := rfl
  rw [roundedSignificand, exponent, scale, bound, divideToEven_eq_succ_iff (by decide) below]
  omega

/-- A whole number rounds to infinity exactly from the ceiling on. -/
theorem ofRatio_one_eq_infinite_iff {size : Nat} (positive : size ≠ 0) (negative : Bool) :
    (∃ sign, ofRatio negative size 1 = .infinite sign) ↔ integerCeiling ≤ size := by
  obtain ⟨half, greatest, ceiling⟩ := exists_integerCeiling_eq
  rw [ofRatio_eq_infinite_iff positive, exponentFor_one positive, greatest, ceiling]
  rcases Nat.lt_trichotomy size.log2 (53 + half) with lower | top | higher
  · have bounded : size < 2 ^ (size.log2 + 1) := Nat.lt_log2_self
    have small : 2 ^ (size.log2 + 1) ≤ 2 ^ 53 * 2 ^ half := by
      rw [← Nat.pow_add]
      exact Nat.pow_le_pow_right (by decide) lower
    split_ifs <;> omega
  · have rounds := roundedSignificand_eq_bound_iff top
    split_ifs <;> omega
  · have reached : 2 ^ size.log2 ≤ size := Nat.log2_self_le positive
    have large : 2 ^ 54 * 2 ^ half ≤ 2 ^ size.log2 := by
      rw [← Nat.pow_add]
      exact Nat.pow_le_pow_right (by decide) (by omega)
    split_ifs <;> omega

theorem ofInt_eq_infinite_iff (value : Int) :
    (∃ sign, ofInt value = .infinite sign) ↔ integerCeiling ≤ value.natAbs := by
  by_cases zero : value.natAbs = 0
  · have finite : ofInt value = .finite (value < 0) 0 leastExponent := by
      rw [ofInt, ofRatio, if_pos zero]
    obtain ⟨half, -, ceiling⟩ := exists_integerCeiling_eq
    have positive : 0 < 2 ^ half := Nat.two_pow_pos half
    constructor
    · rintro ⟨sign, infinite⟩
      rw [finite] at infinite
      cases infinite
    · intro reached
      omega
  · exact ofRatio_one_eq_infinite_iff zero _

end DeclarationLint.Binary64
