import Mathlib.Data.List.Basic

/-!
# Positions

Two parts of a tree may be alike, so where one of them stands is told by a position. In the order
of positions a part comes before everything inside it, and all that is inside it comes before the
next part.
-/
namespace DeclarationLint

/-- Where a part stands: its number on the top level, its number among the parts of that one, and
so on inwards. -/
abbrev Position := List Nat

variable {α : Type}

/-- The listed parts are those with a property, each one with its position and in the order of the
positions, so that none comes twice. -/
structure ListsInOrder (holds : Position → α → Prop) (listed : List (Position × α)) : Prop where
  ordered : (listed.map Prod.fst).Pairwise (List.Lex (· < ·))
  mem_iff : ∀ position part, (position, part) ∈ listed ↔ holds position part

theorem ListsInOrder.filter {holds : Position → α → Prop} {listed : List (Position × α)}
    (lists : ListsInOrder holds listed) (keeps : α → Bool) :
    ListsInOrder (fun position part => holds position part ∧ keeps part = true)
      (listed.filter fun stop => keeps stop.2) where
  ordered := lists.ordered.sublist (List.filter_sublist.map Prod.fst)
  mem_iff position part := by rw [List.mem_filter, lists.mem_iff]

/-- What is around a position is the whole, and what is around it inside the part it leads to. -/
theorem forall_around_cons_iff {find : Position → Option α} {opens : α → Prop}
    {index : Nat} {rest : Position} :
    (∀ upper outer, upper <+: index :: rest → upper ≠ index :: rest →
        find upper = some outer → opens outer) ↔
      (∀ outer, find [] = some outer → opens outer) ∧
        ∀ lower outer, lower <+: rest → lower ≠ rest →
          find (index :: lower) = some outer → opens outer := by
  constructor
  · intro around
    constructor
    · intro outer found
      exact around [] outer List.nil_prefix (by simp) found
    · intro lower outer deeper different found
      apply around (index :: lower) outer ?_ ?_ found
      · exact List.prefix_cons_iff.mpr (Or.inr ⟨lower, rfl, deeper⟩)
      · simpa using different
  · intro around upper outer inside different found
    obtain ⟨whole, part⟩ := around
    rcases List.prefix_cons_iff.mp inside with rfl | ⟨lower, rfl, deeper⟩
    · exact whole outer found
    · exact part lower outer deeper (fun same => different (by rw [same])) found

/-- Lists of what is inside parts that stand side by side and are numbered from an index on, made
into one list. -/
def sideBySide (index : Nat) : List (List (Position × α)) → List (Position × α)
  | [] => []
  | first :: rest =>
    first.map (fun stop => (index :: stop.1, stop.2)) ++ sideBySide (index + 1) rest

theorem mem_sideBySide_iff {index : Nat} {lists : List (List (Position × α))}
    {position : Position} {part : α} :
    (position, part) ∈ sideBySide index lists ↔
      ∃ offset rest listed, position = (index + offset) :: rest ∧
        lists[offset]? = some listed ∧ (rest, part) ∈ listed := by
  induction lists generalizing index with
  | nil => simp [sideBySide]
  | cons first others ih =>
    rw [sideBySide, List.mem_append, ih, List.mem_map]
    constructor
    · intro member
      rcases member with ⟨⟨rest, other⟩, inside, same⟩ | ⟨offset, rest, listed, same, found, inside⟩
      · obtain ⟨rfl, rfl⟩ := Prod.mk.inj same
        exact ⟨0, rest, first, rfl, rfl, inside⟩
      · refine ⟨offset + 1, rest, listed, ?_, found, inside⟩
        rw [same]
        congr 1
        omega
    · intro member
      obtain ⟨offset, rest, listed, same, found, inside⟩ := member
      cases offset with
      | zero =>
        obtain rfl := Option.some.inj found
        exact Or.inl ⟨(rest, part), inside, by rw [same]; rfl⟩
      | succ offset =>
        refine Or.inr ⟨offset, rest, listed, ?_, found, inside⟩
        rw [same]
        congr 1
        omega

theorem pairwise_sideBySide (index : Nat) {lists : List (List (Position × α))}
    (each : ∀ listed ∈ lists, (listed.map Prod.fst).Pairwise (List.Lex (· < ·))) :
    ((sideBySide index lists).map Prod.fst).Pairwise (List.Lex (· < ·)) := by
  induction lists generalizing index with
  | nil => exact List.Pairwise.nil
  | cons first rest ih =>
    rw [sideBySide, List.map_append, List.pairwise_append]
    refine ⟨?_, ih (index + 1) fun listed member => each listed (by simp [member]), ?_⟩
    · have ordered := each first (by simp)
      rw [List.map_map, List.pairwise_map]
      rw [List.pairwise_map] at ordered
      exact ordered.imp List.Lex.cons
    · intro earlier here later there
      rw [List.map_map, List.mem_map] at here
      obtain ⟨⟨position, part⟩, -, rfl⟩ := here
      obtain ⟨⟨position, part⟩, member, rfl⟩ := List.mem_map.mp there
      obtain ⟨offset, inner, listed, rfl, -⟩ := mem_sideBySide_iff.mp member
      apply List.Lex.rel
      omega

end DeclarationLint
