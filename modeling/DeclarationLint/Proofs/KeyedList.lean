import DeclarationLint.KeyedList
import DeclarationLint.Proofs.FirstOccurrences
import Mathlib.Data.List.Basic
import Mathlib.Data.List.Induction

/-!
# Looking up in keyed lists

Which keys a keyed list has, and what a lookup gives after entries are written to it one after
the other.
-/
namespace DeclarationLint

theorem mem_of_lookup {κ α : Type} [BEq κ] [LawfulBEq κ] {entries : List (κ × α)} {key : κ}
    {value : α} (found : entries.lookup key = some value) : (key, value) ∈ entries := by
  obtain ⟨before, after, rfl, -⟩ := List.lookup_eq_some_iff.mp found
  exact List.mem_append_right _ List.mem_cons_self

namespace KeyedList

variable {κ α : Type} [DecidableEq κ]

theorem lookup_isSome_iff (key : κ) (entries : List (κ × α)) :
    (lookup key entries).isSome ↔ key ∈ entries.map Prod.fst := by
  induction entries with
  | nil => simp [lookup]
  | cons head rest ih =>
    obtain ⟨other, value⟩ := head
    by_cases same : other = key
    · simp [lookup, same]
    · simp [lookup, same, ih, Ne.symm same]

theorem mem_keys_iff (map : KeyedList κ α) (key : κ) :
    key ∈ map.keys ↔ (map.get? key).isSome :=
  (lookup_isSome_iff key map.entries).symm

theorem lookup_append (key : κ) (first second : List (κ × α)) :
    lookup key (first ++ second) = (lookup key first).or (lookup key second) := by
  induction first with
  | nil => rfl
  | cons head rest ih =>
    obtain ⟨other, value⟩ := head
    by_cases same : other = key <;> simp [lookup, same, ih]

theorem get?_update (map : KeyedList κ α) (key other : κ) (change : Option α → α) :
    (map.update key change).get? other =
      if key = other then some (change (map.get? key)) else map.get? other := by
  by_cases same : key = other
  · subst same
    rw [get?_update_self, if_pos rfl]
  · rw [get?_update_of_ne map (Ne.symm same), if_neg same]

theorem get?_insert (map : KeyedList κ α) (key other : κ) (value : α) :
    (map.insert key value).get? other = if key = other then some value else map.get? other :=
  get?_update map key other fun _ => value

omit [DecidableEq κ] in
theorem ext_entries {first second : KeyedList κ α} (same : first.entries = second.entries) :
    first = second := by
  obtain ⟨entries, nodup⟩ := first
  subst same
  rfl

theorem lookup_filter_ne (key other : κ) (entries : List (κ × α)) :
    lookup other (entries.filter (·.1 ≠ key)) =
      if key = other then none else lookup other entries := by
  induction entries with
  | nil => simp [lookup]
  | cons head rest ih =>
    obtain ⟨name, value⟩ := head
    by_cases dropped : name = key
    · subst dropped
      have left : ((name, value) :: rest).filter (·.1 ≠ name) = rest.filter (·.1 ≠ name) := by
        simp
      rw [left, ih, lookup]
      by_cases same : name = other
      · rw [if_pos same, if_pos same]
      · rw [if_neg same, if_neg same, if_neg same]
    · have kept : ((name, value) :: rest).filter (·.1 ≠ key) =
          (name, value) :: rest.filter (·.1 ≠ key) := by
        simp [dropped]
      rw [kept, lookup, lookup, ih]
      by_cases same : name = other
      · subst same
        rw [if_pos rfl, if_pos rfl, if_neg (Ne.symm dropped)]
      · rw [if_neg same, if_neg same]

theorem get?_erase (map : KeyedList κ α) (key other : κ) :
    (map.erase key).get? other = if key = other then none else map.get? other :=
  lookup_filter_ne key other map.entries

theorem erase_of_get?_eq_none {map : KeyedList κ α} {key : κ} (absent : map.get? key = none) :
    map.erase key = map := by
  refine ext_entries (List.filter_eq_self.mpr fun entry member => ?_)
  have unknown : key ∉ map.keys := by
    rw [mem_keys_iff, absent]
    exact Bool.false_ne_true
  have different : entry.1 ≠ key := fun same =>
    unknown (same ▸ List.mem_map_of_mem member)
  simpa using different

theorem eq_empty_of_get?_eq_none {map : KeyedList κ α} (absent : ∀ key, map.get? key = none) :
    map = .empty := by
  refine ext_entries (List.eq_nil_iff_forall_not_mem.mpr fun entry member => ?_)
  have known := (mem_keys_iff map entry.1).mp (List.mem_map_of_mem member)
  rw [absent] at known
  cases known

/-- Of the entries written for a key the last one is found; what the map held before is found
only if there is none. -/
theorem get?_insertAll (map : KeyedList κ α) (key : κ) (entries : List (κ × α)) :
    (map.insertAll entries).get? key = (lookup key entries.reverse).or (map.get? key) := by
  induction entries generalizing map with
  | nil => rfl
  | cons head rest ih =>
    have next := ih (map.insert head.1 head.2)
    rw [get?_insert] at next
    rw [List.reverse_cons, lookup_append, Option.or_assoc]
    refine next.trans ?_
    congr 1
    by_cases same : head.1 = key <;> simp [lookup, same]

/-- The last entry of a key is the one behind which the key does not occur again. -/
theorem lookup_reverse_eq_some_iff (key : κ) (value : α) (entries : List (κ × α)) :
    lookup key entries.reverse = some value ↔
      ∃ before after, entries = before ++ (key, value) :: after ∧
        ∀ entry ∈ after, entry.1 ≠ key := by
  constructor
  · intro found
    induction entries with
    | nil => cases found
    | cons head rest ih =>
      rw [List.reverse_cons, lookup_append] at found
      cases later : lookup key rest.reverse with
      | some other =>
        rw [later, Option.some_or] at found
        obtain ⟨before, after, split, last⟩ := ih (later.trans found)
        exact ⟨head :: before, after, by simp [split], last⟩
      | none =>
        have unseen : key ∉ rest.map Prod.fst := by
          have absent := (lookup_isSome_iff key rest.reverse).not.mp (by simp [later])
          simpa using absent
        obtain ⟨other, found_value⟩ := head
        by_cases same : other = key
        · simp only [later, lookup, same, if_true, Option.none_or, Option.some.injEq] at found
          refine ⟨[], rest, by simp [same, found], ?_⟩
          intro entry member equal
          exact unseen (List.mem_map.mpr ⟨entry, member, equal⟩)
        · simp [later, lookup, same] at found
  · rintro ⟨before, after, rfl, last⟩
    have absent : lookup key after.reverse = none := by
      cases found : lookup key after.reverse with
      | none => rfl
      | some other =>
        have member := (lookup_isSome_iff key after.reverse).mp (by simp [found])
        obtain ⟨entry, inside, equal⟩ := List.mem_map.mp member
        exact absurd equal (last entry (List.mem_reverse.mp inside))
    simp [lookup_append, lookup, absent]

/-- Where only some items give an entry, the value of a key comes from the last item that gives it
one. -/
theorem lookup_filterMap_reverse_eq_some_iff {β : Type} (given? : β → Option (κ × α))
    (items : List β) (key : κ) (value : α) :
    lookup key (items.filterMap given?).reverse = some value ↔
      ∃ before item after, items = before ++ item :: after ∧ given? item = some (key, value) ∧
        ∀ later ∈ after, ∀ other, given? later ≠ some (key, other) := by
  rw [lookup_reverse_eq_some_iff]
  constructor
  · rintro ⟨before, after, split, last⟩
    obtain ⟨itemsBefore, itemsFrom, itemsSplit, -, from_eq⟩ :=
      List.filterMap_eq_append_iff.mp split
    obtain ⟨skipped, item, itemsAfter, from_split, useless, given, after_eq⟩ :=
      List.filterMap_eq_cons_iff.mp from_eq
    refine ⟨itemsBefore ++ skipped, item, itemsAfter, by simp [itemsSplit, from_split], given, ?_⟩
    intro later member other again
    have listed : (key, other) ∈ after := by
      rw [← after_eq]
      exact List.mem_filterMap.mpr ⟨later, member, again⟩
    exact last (key, other) listed rfl
  · rintro ⟨before, item, after, split, given, last⟩
    refine ⟨before.filterMap given?, after.filterMap given?, ?_, ?_⟩
    · rw [split, List.filterMap_append, List.filterMap_cons_some given]
    · rintro ⟨name, other⟩ member rfl
      obtain ⟨later, inside, again⟩ := List.mem_filterMap.mp member
      exact last later inside other again

theorem ofList_concat (entries : List (κ × α)) (entry : κ × α) :
    ofList (entries ++ [entry]) = (ofList entries).insert entry.1 entry.2 := by
  rw [ofList, insertAll, List.foldl_append]
  rfl

theorem keys_ofList (entries : List (κ × α)) :
    (ofList entries).keys = (entries.map Prod.fst).eraseDups := by
  induction entries using List.reverseRecOn with
  | nil => rfl
  | append_singleton entries entry ih =>
    rw [ofList_concat, List.map_append, List.map_singleton, eraseDups_concat, ← ih]
    exact keys_update _ _ _

theorem get?_ofList (key : κ) (entries : List (κ × α)) :
    (ofList entries).get? key = lookup key entries.reverse := by
  rw [ofList, get?_insertAll, get?_empty, Option.or_none]

theorem place_of_notMem {key : κ} {entries : List (κ × α)} (absent : key ∉ entries.map Prod.fst)
    (change : Option α → α) : place key change entries = entries ++ [(key, change none)] := by
  induction entries with
  | nil => rfl
  | cons head rest ih =>
    obtain ⟨other, value⟩ := head
    rw [List.map_cons, List.mem_cons, not_or] at absent
    rw [place, if_neg (Ne.symm absent.1), ih absent.2, List.cons_append]

/-- Entries without a repeated key are kept as they are. -/
theorem entries_ofList {entries : List (κ × α)} (nodup : (entries.map Prod.fst).Nodup) :
    (ofList entries).entries = entries := by
  induction entries using List.reverseRecOn with
  | nil => rfl
  | append_singleton entries entry ih =>
    rw [List.map_append, List.nodup_append] at nodup
    have absent : entry.1 ∉ entries.map Prod.fst := fun member =>
      nodup.2.2 _ member entry.1 (by simp) rfl
    have earlier := ih nodup.1
    rw [← earlier] at absent
    rw [ofList_concat]
    exact (place_of_notMem absent _).trans (by rw [earlier])

theorem ofList_entries (map : KeyedList κ α) : ofList map.entries = map :=
  ext_entries (entries_ofList map.nodup)

theorem get?_eq_some_iff (map : KeyedList κ α) (key : κ) (value : α) :
    map.get? key = some value ↔ (key, value) ∈ map.entries := by
  obtain ⟨entries, nodup⟩ := map
  change lookup key entries = some value ↔ (key, value) ∈ entries
  induction entries with
  | nil => simp [lookup]
  | cons head rest ih =>
    obtain ⟨other, first⟩ := head
    rw [List.map_cons, List.nodup_cons] at nodup
    by_cases same : other = key
    · subst same
      have absent : (other, value) ∉ rest := fun member =>
        nodup.1 (List.mem_map.mpr ⟨_, member, rfl⟩)
      simp [lookup, absent, eq_comm]
    · rw [lookup, if_neg same, ih nodup.2]
      simp [Ne.symm same]

theorem get?_mapValues {β : Type} (change : α → β) (map : KeyedList κ α) (key : κ) :
    (map.mapValues change).get? key = (map.get? key).map change := by
  obtain ⟨entries, nodup⟩ := map
  change lookup key (entries.map fun entry => (entry.1, change entry.2)) =
    (lookup key entries).map change
  clear nodup
  induction entries with
  | nil => rfl
  | cons head rest ih =>
    obtain ⟨other, value⟩ := head
    by_cases same : other = key <;> simp [lookup, same, ih]

end KeyedList
end DeclarationLint
