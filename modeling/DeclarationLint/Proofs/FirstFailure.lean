import DeclarationLint.Journal
import Mathlib.Data.List.Forall2

/-!
# The first failure

Things that can fail are done one after the other, and the first failure ends them all. Either
everything succeeds and there is a result for each item, or there is a first item that fails, and
its error is the error of the whole.
-/
namespace DeclarationLint

section First

variable {α : Type} {holds : α → Prop}

/-- The item is there, and no item before it has the property that it has. -/
def IsFirst (holds : α → Prop) (items : List α) (item : α) : Prop :=
  ∃ before after, items = before ++ item :: after ∧ (∀ other ∈ before, ¬ holds other) ∧ holds item

theorem isFirst_cons_iff {head item : α} {rest : List α} :
    IsFirst holds (head :: rest) item ↔
      holds head ∧ item = head ∨ ¬ holds head ∧ IsFirst holds rest item := by
  constructor
  · intro first
    obtain ⟨before, after, split, earlier, here⟩ := first
    cases before with
    | nil =>
      obtain ⟨rfl, rfl⟩ := List.cons.inj split
      exact Or.inl ⟨here, rfl⟩
    | cons other before =>
      obtain ⟨rfl, rfl⟩ := List.cons.inj split
      refine Or.inr ⟨earlier head (by simp), before, after, rfl, ?_, here⟩
      intro other member
      exact earlier other (by simp [member])
  · intro first
    rcases first with ⟨here, same⟩ | ⟨absent, before, after, split, earlier, here⟩
    · subst same
      exact ⟨[], rest, rfl, by simp, here⟩
    · refine ⟨head :: before, after, by rw [split, List.cons_append], ?_, here⟩
      intro other member
      cases List.mem_cons.mp member with
      | inl same => exact same ▸ absent
      | inr later => exact earlier other later

theorem IsFirst.mem {items : List α} {item : α} (first : IsFirst holds items item) :
    item ∈ items := by
  obtain ⟨before, after, split, -, -⟩ := first
  simp [split]

theorem IsFirst.property {items : List α} {item : α} (first : IsFirst holds items item) :
    holds item := by
  obtain ⟨-, -, -, -, here⟩ := first
  exact here

/-- Where an item has the property, some item is the first to have it. -/
theorem exists_isFirst_iff {items : List α} :
    (∃ item, IsFirst holds items item) ↔ ∃ item ∈ items, holds item := by
  constructor
  · intro first
    obtain ⟨item, first⟩ := first
    exact ⟨item, first.mem, first.property⟩
  · intro found
    induction items with
    | nil => simp at found
    | cons head rest ih =>
      by_cases here : holds head
      · exact ⟨head, isFirst_cons_iff.mpr (Or.inl ⟨here, rfl⟩)⟩
      · obtain ⟨item, member, property⟩ := found
        have later : item ∈ rest := by
          cases List.mem_cons.mp member with
          | inl same => exact absurd (same ▸ property) here
          | inr later => exact later
        obtain ⟨first, isFirst⟩ := ih ⟨item, later, property⟩
        exact ⟨first, isFirst_cons_iff.mpr (Or.inr ⟨here, isFirst⟩)⟩

/-- The first of some images comes from the first item whose image has the property. -/
theorem isFirst_map_iff {β : Type} {f : β → α} {items : List β} {image : α} :
    IsFirst holds (items.map f) image ↔
      ∃ item, IsFirst (fun item => holds (f item)) items item ∧ f item = image := by
  induction items with
  | nil => simp [IsFirst]
  | cons head rest ih =>
    simp only [List.map_cons, isFirst_cons_iff, ih]
    constructor
    · intro first
      rcases first with ⟨here, rfl⟩ | ⟨absent, item, later, same⟩
      · exact ⟨head, Or.inl ⟨here, rfl⟩, rfl⟩
      · exact ⟨item, Or.inr ⟨absent, later⟩, same⟩
    · intro first
      obtain ⟨item, ⟨here, rfl⟩ | ⟨absent, later⟩, same⟩ := first
      · exact Or.inl ⟨here, same.symm⟩
      · exact Or.inr ⟨absent, item, later, same⟩

end First

section InTurn

variable {α β ε : Type} {f : α → Except ε β}

theorem mapM_cons_of_error {item : α} {error : ε} (failed : f item = .error error)
    (rest : List α) : (item :: rest).mapM f = .error error := by
  rw [List.mapM_cons, failed]
  rfl

theorem mapM_cons_of_ok {item : α} {value : β} (success : f item = .ok value) (rest : List α) :
    (item :: rest).mapM f = (rest.mapM f).map (value :: ·) := by
  rw [List.mapM_cons, success]
  cases others : rest.mapM f <;> rfl

theorem mapM_eq_ok_iff {items : List α} {values : List β} :
    items.mapM f = .ok values ↔
      List.Forall₂ (fun item value => f item = .ok value) items values := by
  induction items generalizing values with
  | nil => simp [pure, Except.pure, eq_comm]
  | cons item rest ih =>
    rw [List.forall₂_cons_left_iff]
    cases outcome : f item with
    | error error => simp [mapM_cons_of_error outcome]
    | ok value =>
      rw [mapM_cons_of_ok outcome]
      cases others : rest.mapM f with
      | error error => simp [Except.map, ← ih, others]
      | ok found => simp [Except.map, ← ih, others, eq_comm]

theorem exists_of_mem_mapM {items : List α} {values : List β} (success : items.mapM f = .ok values)
    {value : β} (member : value ∈ values) : ∃ item ∈ items, f item = .ok value := by
  rw [mapM_eq_ok_iff] at success
  induction success with
  | nil => cases member
  | cons first _ ih =>
    cases List.mem_cons.mp member with
    | inl same => exact ⟨_, List.mem_cons_self, same ▸ first⟩
    | inr later =>
      obtain ⟨item, inRest, found⟩ := ih later
      exact ⟨item, List.mem_cons_of_mem _ inRest, found⟩

/-- The error of the whole is that of the first item that fails. -/
theorem mapM_eq_error_iff {items : List α} {error : ε} :
    items.mapM f = .error error ↔
      ∃ item, IsFirst (fun item => ∃ error, f item = .error error) items item ∧
        f item = .error error := by
  induction items with
  | nil => simp [IsFirst, pure, Except.pure]
  | cons item rest ih =>
    simp only [isFirst_cons_iff]
    cases outcome : f item with
    | error other =>
      rw [mapM_cons_of_error outcome]
      constructor
      · intro same
        obtain rfl := Except.error.inj same
        exact ⟨item, Or.inl ⟨⟨other, rfl⟩, rfl⟩, outcome⟩
      · intro first
        obtain ⟨failing, ⟨-, rfl⟩ | ⟨passed, -⟩, failed⟩ := first
        · rw [outcome] at failed
          rw [Except.error.inj failed]
        · exact absurd ⟨other, rfl⟩ passed
    | ok value =>
      rw [mapM_cons_of_ok outcome]
      have passed : ¬ ∃ error, Except.ok (ε := ε) value = .error error := by simp
      simp only [passed, false_and, false_or, not_false_eq_true, true_and]
      rw [← ih]
      cases rest.mapM f <;> simp [Except.map]

theorem exists_mapM_ok {items : List α} (each : ∀ item ∈ items, ∃ value, f item = .ok value) :
    ∃ values, items.mapM f = .ok values := by
  cases outcome : items.mapM f with
  | ok values => exact ⟨values, rfl⟩
  | error error =>
    obtain ⟨item, first, failed⟩ := mapM_eq_error_iff.mp outcome
    obtain ⟨value, success⟩ := each item first.mem
    rw [success] at failed
    cases failed

/-- Where each item and its image have results that correspond, so have all items and all images. -/
theorem mapM_map {γ δ : Type} {g : α → γ} {f' : γ → Except ε δ} {h : β → δ} {items : List α}
    (each : ∀ item ∈ items, f' (g item) = (f item).map h) :
    (items.map g).mapM f' = (items.mapM f).map (List.map h) := by
  induction items with
  | nil => rfl
  | cons item rest ih =>
    have first := each item List.mem_cons_self
    have others := ih fun other member => each other (List.mem_cons_of_mem _ member)
    cases outcome : f item with
    | error error =>
      rw [outcome] at first
      rw [List.map_cons, mapM_cons_of_error first, mapM_cons_of_error outcome]
      rfl
    | ok value =>
      rw [outcome] at first
      rw [List.map_cons, mapM_cons_of_ok first, mapM_cons_of_ok outcome, others]
      cases rest.mapM f <;> rfl

/-- Where one item is exchanged for another with a result that corresponds, the whole ends as
before, but for that one result. -/
theorem mapM_single_change {item other : α} {h : β → β} (same : f other = (f item).map h)
    (before after : List α) :
    (∀ error, (before ++ other :: after).mapM f = .error error ↔
      (before ++ item :: after).mapM f = .error error) ∧
    ∀ values, (before ++ item :: after).mapM f = .ok values →
      ∃ earlier value later, values = earlier ++ value :: later ∧ f item = .ok value ∧
        (before ++ other :: after).mapM f = .ok (earlier ++ h value :: later) := by
  induction before with
  | nil =>
    cases outcome : f item with
    | error error =>
      rw [outcome] at same
      rw [List.nil_append, List.nil_append, mapM_cons_of_error same, mapM_cons_of_error outcome]
      exact ⟨fun _ => Iff.rfl, by simp⟩
    | ok value =>
      rw [outcome] at same
      rw [List.nil_append, List.nil_append, mapM_cons_of_ok same, mapM_cons_of_ok outcome]
      cases after.mapM f with
      | error error => exact ⟨fun _ => Iff.rfl, by simp [Except.map]⟩
      | ok later =>
        refine ⟨by simp [Except.map], ?_⟩
        intro values success
        exact ⟨[], value, later, (Except.ok.inj success).symm, rfl, rfl⟩
  | cons head rest ih =>
    obtain ⟨errors, values⟩ := ih
    cases outcome : f head with
    | error error =>
      rw [List.cons_append, List.cons_append, mapM_cons_of_error outcome,
        mapM_cons_of_error outcome]
      exact ⟨fun _ => Iff.rfl, by simp⟩
    | ok first =>
      rw [List.cons_append, List.cons_append, mapM_cons_of_ok outcome, mapM_cons_of_ok outcome]
      cases whole : (rest ++ item :: after).mapM f with
      | error error => simp [Except.map, (errors error).mpr whole]
      | ok found =>
        obtain ⟨earlier, value, later, rfl, made, changed⟩ := values found whole
        rw [changed]
        refine ⟨by simp [Except.map], ?_⟩
        intro values success
        exact ⟨first :: earlier, value, later, (Except.ok.inj success).symm, made, rfl⟩

end InTurn

namespace Journal

variable {ω ε α β : Type}

@[simp] theorem result_bind (first : Journal ω ε α) (next : α → Journal ω ε β) :
    (first >>= next).result = first.result >>= fun value => (next value).result := by
  cases outcome : first.result with
  | error error =>
    rw [bind_of_error outcome]
    rfl
  | ok value =>
    rw [bind_of_ok outcome]
    rfl

/-- What is written on the way has no part in how a list of computations ends. -/
theorem result_mapM (f : α → Journal ω ε β) (items : List α) :
    (items.mapM f).result = items.mapM fun item => (f item).result := by
  induction items with
  | nil => rfl
  | cons item rest ih =>
    rw [List.mapM_cons, List.mapM_cons, result_bind, ← ih]
    congr 1
    funext value
    rw [result_bind]
    rfl

end Journal
end DeclarationLint
