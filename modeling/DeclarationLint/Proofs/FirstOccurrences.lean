import Mathlib.Data.List.Perm.Subperm

/-!
# First occurrences

A list without the repetitions in it. Each item is kept once, in the order in which the items first
occur, and nothing else is lost. Items under other names, no two of them under the same, are kept
at the same places.
-/
namespace DeclarationLint

variable {α β : Type} [BEq α] [LawfulBEq α] [BEq β] [LawfulBEq β]

theorem nodup_eraseDups (items : List α) : items.eraseDups.Nodup := by
  match items with
  | [] => simp
  | first :: rest =>
    rw [List.eraseDups_cons, List.nodup_cons]
    refine ⟨?_, nodup_eraseDups _⟩
    intro again
    simpa using List.mem_eraseDups.mp again
termination_by items.length
decreasing_by exact Nat.lt_succ_of_le (List.length_filter_le _ _)

/-- What is kept of a list that loses its repetitions. -/
structure FirstOccurrences (items kept : List α) : Prop where
  nodup : kept.Nodup
  mem_iff : ∀ item, item ∈ kept ↔ item ∈ items
  ordered : kept.Pairwise fun earlier later => items.idxOf earlier < items.idxOf later

omit [LawfulBEq α] in
theorem FirstOccurrences.length_le {items kept : List α} (first : FirstOccurrences items kept) :
    kept.length ≤ items.length :=
  (first.nodup.subperm fun item member => (first.mem_iff item).mp member).length_le

omit [LawfulBEq α] in
theorem FirstOccurrences.length_eq_one_iff {items kept : List α}
    (first : FirstOccurrences items kept) : kept.length = 1 ↔ ∃! item, item ∈ items := by
  constructor
  · intro single
    obtain ⟨item, rfl⟩ := List.length_eq_one_iff.mp single
    refine ⟨item, (first.mem_iff item).mp (by simp), fun other member => ?_⟩
    simpa using (first.mem_iff other).mpr member
  · intro unique
    obtain ⟨item, member, only⟩ := unique
    have atLeast : 0 < kept.length := List.length_pos_of_mem ((first.mem_iff item).mpr member)
    have atMost : kept.length ≤ [item].length := by
      refine (first.nodup.subperm fun other there => ?_).length_le
      rw [List.mem_singleton]
      exact only other ((first.mem_iff other).mp there)
    rw [List.length_singleton] at atMost
    omega

/-- Whatever else is taken out of a list, items that stay keep their order. -/
theorem idxOf_lt_of_filter {keep : α → Bool} {items : List α} {first second : α}
    (keepFirst : keep first = true) (keepSecond : keep second = true)
    (before : (items.filter keep).idxOf first < (items.filter keep).idxOf second) :
    items.idxOf first < items.idxOf second := by
  induction items with
  | nil => simp at before
  | cons item rest ih =>
    by_cases there : item = second
    · subst there
      rw [List.filter_cons_of_pos keepSecond, List.idxOf_cons_self] at before
      exact absurd before (Nat.not_lt_zero _)
    · by_cases here : item = first
      · subst here
        rw [List.idxOf_cons_self, List.idxOf_cons_ne _ there]
        exact Nat.succ_pos _
      · have passed : (rest.filter keep).idxOf first < (rest.filter keep).idxOf second := by
          by_cases kept : keep item = true
          · rw [List.filter_cons_of_pos kept, List.idxOf_cons_ne _ here,
              List.idxOf_cons_ne _ there] at before
            exact Nat.lt_of_succ_lt_succ before
          · rwa [List.filter_cons_of_neg kept] at before
        rw [List.idxOf_cons_ne _ here, List.idxOf_cons_ne _ there]
        exact Nat.succ_lt_succ (ih passed)

theorem pairwise_idxOf_eraseDups (items : List α) :
    items.eraseDups.Pairwise fun earlier later => items.idxOf earlier < items.idxOf later := by
  match items with
  | [] => simp
  | first :: rest =>
    let differs : α → Bool := fun item => !item == first
    have kept : ∀ item ∈ (rest.filter differs).eraseDups, differs item = true := fun item member =>
      (List.mem_filter.mp (List.mem_eraseDups.mp member)).2
    have apart : ∀ item ∈ (rest.filter differs).eraseDups, first ≠ item := by
      intro item member same
      have different := kept item member
      simp [differs, same] at different
    rw [List.eraseDups_cons, List.pairwise_cons]
    constructor
    · intro item member
      rw [List.idxOf_cons_self, List.idxOf_cons_ne _ (apart item member)]
      exact Nat.succ_pos _
    · refine (pairwise_idxOf_eraseDups (rest.filter differs)).imp_of_mem ?_
      intro earlier later memberEarlier memberLater before
      rw [List.idxOf_cons_ne _ (apart earlier memberEarlier),
        List.idxOf_cons_ne _ (apart later memberLater)]
      exact Nat.succ_lt_succ
        (idxOf_lt_of_filter (kept earlier memberEarlier) (kept later memberLater) before)
termination_by items.length
decreasing_by exact Nat.lt_succ_of_le (List.length_filter_le _ _)

theorem firstOccurrences_eraseDups (items : List α) :
    FirstOccurrences items items.eraseDups :=
  ⟨nodup_eraseDups items, fun _ => List.mem_eraseDups, pairwise_idxOf_eraseDups items⟩

/-- Items that are there already make no difference at the end of a list. -/
theorem eraseDups_append_of_subset {items more : List α} (covered : more ⊆ items) :
    (items ++ more).eraseDups = items.eraseDups := by
  have nothing : more.removeAll items = [] := by
    rw [List.removeAll, List.filter_eq_nil_iff]
    intro item member
    simpa using covered member
  rw [List.eraseDups_append, nothing, List.eraseDups_nil, List.append_nil]

theorem eraseDups_concat (items : List α) (item : α) :
    (items ++ [item]).eraseDups =
      if item ∈ items.eraseDups then items.eraseDups else items.eraseDups ++ [item] := by
  by_cases known : item ∈ items
  · rw [if_pos (List.mem_eraseDups.mpr known), eraseDups_append_of_subset (by simpa using known)]
  · have alone : [item].removeAll items = [item] :=
      List.filter_eq_self.mpr (by simpa using known)
    rw [if_neg (List.mem_eraseDups.not.mpr known), List.eraseDups_append, alone,
      List.eraseDups_cons]
    rfl

theorem eraseDups_map (rename : α → β) (items : List α)
    (injective : ∀ first ∈ items, ∀ second ∈ items, rename first = rename second → first = second) :
    (items.map rename).eraseDups = items.eraseDups.map rename := by
  match items with
  | [] => rfl
  | first :: rest =>
    have kept : (rest.map rename).filter (fun item => !item == rename first) =
        (rest.filter fun item => !item == first).map rename := by
      rw [List.filter_map]
      congr 1
      apply List.filter_congr
      intro item member
      by_cases same : item = first
      · simp [same]
      · have apart : rename item ≠ rename first := fun renamed =>
          same (injective item (by simp [member]) first (by simp) renamed)
        simp [same, apart]
    have others := eraseDups_map rename (rest.filter fun item => !item == first) (by
      intro item member other otherMember renamed
      have inRest := (List.mem_filter.mp member).1
      have otherInRest := (List.mem_filter.mp otherMember).1
      exact injective item (by simp [inRest]) other (by simp [otherInRest]) renamed)
    rw [List.map_cons, List.eraseDups_cons, List.eraseDups_cons, List.map_cons, kept, others]
termination_by items.length
decreasing_by exact Nat.lt_succ_of_le (List.length_filter_le _ _)

end DeclarationLint
