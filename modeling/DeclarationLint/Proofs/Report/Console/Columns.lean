import DeclarationLint.Report.Console.Columns

/-!
# Narrowed columns

Narrowing stops, and takes no more than is needed: two widths that are too wide together are
exactly as wide as allowed afterwards. What is taken from a width leaves it half of the bound at
least, so a column that needs no more than that keeps all it needs.
-/
namespace DeclarationLint.Report.Console

/-- What may become of two widths that have to give way to a bound. -/
structure Narrowed (bound first last : Nat) (widths : Nat × Nat) : Prop where
  first_le : widths.1 ≤ first
  last_le : widths.2 ≤ last
  le_first : min first (bound / 2) ≤ widths.1
  le_last : min last (bound / 2) ≤ widths.2
  le_total : min bound (first + last) ≤ widths.1 + widths.2

theorem Narrowed.refl (bound first last : Nat) : Narrowed bound first last (first, last) :=
  ⟨Nat.le_refl first, Nat.le_refl last, Nat.min_le_left _ _, Nat.min_le_left _ _,
    Nat.min_le_right _ _⟩

theorem Narrowed.trans {bound first last : Nat} {between widths : Nat × Nat}
    (once : Narrowed bound first last between)
    (later : Narrowed bound between.1 between.2 widths) : Narrowed bound first last widths := by
  obtain ⟨firstLe, lastLe, leFirst, leLast, leTotal⟩ := once
  obtain ⟨firstLe', lastLe', leFirst', leLast', leTotal'⟩ := later
  constructor <;> omega

theorem halfToEven_bounds (n : Nat) : n / 2 ≤ halfToEven n ∧ halfToEven n ≤ (n + 1) / 2 := by
  unfold halfToEven
  split
  · omega
  · split <;> omega

/-- One round takes from the wider of two widths until it is as wide as the other, and from equal
widths nearly the same. -/
theorem narrowed_narrowOnce {bound first last : Nat} (exceeds : bound < first + last) :
    Narrowed bound first last (narrowOnce (first + last - bound) first last) := by
  unfold narrowOnce
  rcases Nat.lt_trichotomy last first with wider | same | narrower
  · rw [if_pos wider]
    constructor <;> simp only <;> omega
  · subst same
    have half := halfToEven_bounds (last + last - bound)
    rw [if_neg (Nat.lt_irrefl last), if_neg (Nat.lt_irrefl last)]
    constructor <;> simp only <;> omega
  · rw [if_neg (Nat.lt_asymm narrower), if_pos narrower]
    constructor <;> simp only <;> omega

/-- The rounds end, and then the widths are within the bound. -/
theorem narrow_spec (bound first last : Nat) :
    Narrowed bound first last (narrow bound first last) ∧
      (narrow bound first last).1 + (narrow bound first last).2 = min bound (first + last) := by
  induction first, last using narrow.induct bound with
  | case1 first last exceeds next ih =>
    have once : Narrowed bound first last next := narrowed_narrowOnce exceeds
    have kept := once.le_total
    rw [narrow, if_pos exceeds]
    refine ⟨once.trans ih.1, ?_⟩
    calc (narrow bound next.1 next.2).1 + (narrow bound next.1 next.2).2
        = min bound (next.1 + next.2) := ih.2
      _ = min bound (first + last) := by omega
  | case2 first last within =>
    rw [narrow, if_neg within]
    exact ⟨.refl bound first last, by simp only; omega⟩

example : narrow 29 30 40 = (14, 15) := by cbv

/-- The columns of a table fit on the terminal. Each of the two that follow their content is as wide
as its longest cell, or wide enough for twelve characters. -/
theorem forContent_spec {terminal : Nat} (wide : 70 ≤ terminal)
    (longestRange longestMessage : Nat) :
    let widths := Widths.forContent terminal longestRange longestMessage
    widths.total ≤ available terminal ∧ min (longestRange + 2) 14 ≤ widths.range ∧
      min (longestMessage + 2) 14 ≤ widths.message := by
  obtain ⟨spec, total⟩ := narrow_spec (available terminal - (severityWidth + ruleWidth))
    (min (available terminal) (longestRange + 2)) (min (available terminal) (longestMessage + 2))
  have range := spec.le_first
  have message := spec.le_last
  simp only [Widths.forContent, Widths.total, available, severityWidth, ruleWidth]
    at total range message ⊢
  omega

end DeclarationLint.Report.Console
