/-!
# Keyed lists

A finite map that remembers the order in which its keys came. Writing to a key that is there
changes its value and moves nothing; a new key goes to the end.
-/
namespace DeclarationLint

structure KeyedList (κ : Type) (α : Type) where
  entries : List (κ × α)
  nodup : (entries.map Prod.fst).Nodup

namespace KeyedList

variable {κ α : Type} [DecidableEq κ]

def lookup (key : κ) : List (κ × α) → Option α
  | [] => none
  | (other, value) :: rest => if other = key then some value else lookup key rest

/-- Changes the entry of a key, or appends one made from nothing. -/
def place (key : κ) (change : Option α → α) : List (κ × α) → List (κ × α)
  | [] => [(key, change none)]
  | (other, value) :: rest =>
    if other = key then (other, change (some value)) :: rest
    else (other, value) :: place key change rest

theorem map_fst_place (key : κ) (change : Option α → α) (entries : List (κ × α)) :
    (place key change entries).map Prod.fst =
      if key ∈ entries.map Prod.fst then entries.map Prod.fst
      else entries.map Prod.fst ++ [key] := by
  induction entries with
  | nil => simp [place]
  | cons head rest ih =>
    obtain ⟨other, value⟩ := head
    by_cases same : other = key
    · simp [place, same]
    · have distinct : ¬ key = other := fun equal => same equal.symm
      simp only [place, same, if_false, List.map_cons, ih, List.mem_cons, distinct, false_or]
      split <;> simp

theorem nodup_place (key : κ) (change : Option α → α) {entries : List (κ × α)}
    (nodup : (entries.map Prod.fst).Nodup) :
    ((place key change entries).map Prod.fst).Nodup := by
  rw [map_fst_place]
  split
  · exact nodup
  · rename_i absent
    exact List.nodup_append.mpr ⟨nodup, by simp, by
      intro a member b single equal
      simp only [List.mem_singleton] at single
      subst single equal
      exact absent member⟩

def empty : KeyedList κ α := ⟨[], List.nodup_nil⟩

instance : Inhabited (KeyedList κ α) := ⟨empty⟩

def keys (map : KeyedList κ α) : List κ := map.entries.map Prod.fst

def size (map : KeyedList κ α) : Nat := map.entries.length

def get? (map : KeyedList κ α) (key : κ) : Option α := lookup key map.entries

def contains (map : KeyedList κ α) (key : κ) : Bool := (map.get? key).isSome

def update (map : KeyedList κ α) (key : κ) (change : Option α → α) : KeyedList κ α :=
  ⟨place key change map.entries, nodup_place key change map.nodup⟩

def insert (map : KeyedList κ α) (key : κ) (value : α) : KeyedList κ α :=
  map.update key fun _ => value

/-- All entries of a list in turn, so the last one of a key wins. -/
def insertAll (map : KeyedList κ α) (entries : List (κ × α)) : KeyedList κ α :=
  entries.foldl (fun built entry => built.insert entry.1 entry.2) map

def ofList (entries : List (κ × α)) : KeyedList κ α := empty.insertAll entries

/-- The same keys in the same order, with other values. -/
def mapValues {β : Type} (change : α → β) (map : KeyedList κ α) : KeyedList κ β :=
  ⟨map.entries.map fun entry => (entry.1, change entry.2), by
    simpa [List.map_map, Function.comp_def] using map.nodup⟩

def erase (map : KeyedList κ α) (key : κ) : KeyedList κ α :=
  ⟨map.entries.filter (·.1 ≠ key),
    map.nodup.sublist (List.filter_sublist.map Prod.fst)⟩

theorem keys_erase (map : KeyedList κ α) (key : κ) :
    (map.erase key).keys = map.keys.filter (· ≠ key) := by
  simp [erase, keys, List.filter_map, Function.comp_def]

theorem lookup_place_self (key : κ) (change : Option α → α) (entries : List (κ × α)) :
    lookup key (place key change entries) = some (change (lookup key entries)) := by
  induction entries with
  | nil => simp [place, lookup]
  | cons head rest ih =>
    obtain ⟨other, value⟩ := head
    by_cases same : other = key <;> simp [place, lookup, same, ih]

theorem lookup_place_of_ne {key other : κ} (distinct : other ≠ key) (change : Option α → α)
    (entries : List (κ × α)) :
    lookup other (place key change entries) = lookup other entries := by
  induction entries with
  | nil => simp [place, lookup, distinct.symm]
  | cons head rest ih =>
    obtain ⟨first, value⟩ := head
    by_cases same : first = key
    · subst same
      simp [place, lookup, distinct.symm]
    · by_cases found : first = other
      · subst found
        simp [place, lookup, same]
      · simp [place, lookup, same, found, ih]

@[simp] theorem get?_empty (key : κ) : (empty : KeyedList κ α).get? key = none := rfl

@[simp] theorem get?_update_self (map : KeyedList κ α) (key : κ) (change : Option α → α) :
    (map.update key change).get? key = some (change (map.get? key)) :=
  lookup_place_self key change map.entries

theorem get?_update_of_ne (map : KeyedList κ α) {key other : κ} (distinct : other ≠ key)
    (change : Option α → α) : (map.update key change).get? other = map.get? other :=
  lookup_place_of_ne distinct change map.entries

/-- A present key keeps its place and a new one goes to the end. -/
theorem keys_update (map : KeyedList κ α) (key : κ) (change : Option α → α) :
    (map.update key change).keys = if key ∈ map.keys then map.keys else map.keys ++ [key] :=
  map_fst_place key change map.entries

end KeyedList
end DeclarationLint
