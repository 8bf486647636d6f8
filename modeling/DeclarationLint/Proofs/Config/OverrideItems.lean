import DeclarationLint.Config.Overrides
import DeclarationLint.Proofs.FirstFailure
import DeclarationLint.Proofs.KeyedList
import DeclarationLint.Proofs.Text.Blank
import DeclarationLint.Proofs.Text.Pieces

/-!
# What a list of overrides says

An item is well formed if it has one equals sign with more than blanks in front of it. The first
item that is not is reported, in the words in which it was given. Without one the items are read
from first to last: a key has the place of the first item that gives it a value, and the value of
the last one. Keys and values have no blanks around them and no equals sign in them any more, so
what was read can be written down, item by item, and read again.
-/
namespace DeclarationLint.Overrides

/-- The item does not have exactly one equals sign, or nothing but blanks stands in front of it. -/
def Malformed (item : String) : Prop :=
  item.toList.count '=' ≠ 1 ∨
    ∃ left right, Text.SplitsOnce '=' item left right ∧ ∀ c ∈ left.toList, Text.isBlank c = true

/-- The item gives the value to the key: they are the two sides of its one equals sign, without
the blanks around them. -/
structure Gives (item key value : String) : Prop where
  sides : ∃ left right, Text.SplitsOnce '=' item left right ∧
    Text.StripsTo left key ∧ Text.StripsTo right value
  named : key ≠ ""

/-- The entry that an item gives. -/
def given? (item : String) : Option (String × String) := (parseItem item).toOption

/-- The settings are those that the items give, a key at its first place with its last value. -/
structure Gathers (items : List String) (overrides : KeyedList String String) : Prop where
  keys : ∃ names, List.Forall₂ (fun item name => ∃ value, Gives item name value) items names ∧
    FirstOccurrences names overrides.keys
  named : ∀ key ∈ overrides.keys, key ≠ ""
  values : ∀ key value, overrides.get? key = some value ↔
    ∃ before item after, items = before ++ item :: after ∧ Gives item key value ∧
      ∀ later ∈ after, ∀ other, ¬ Gives later key other

/-- The settings written down as items. -/
def itemsOf (overrides : KeyedList String String) : List String :=
  overrides.entries.map fun entry => entry.1 ++ "=" ++ entry.2

theorem parseItem_of_splitsOnce {item left right : String}
    (once : Text.SplitsOnce '=' item left right) :
    parseItem item =
      if Text.strip left = "" then .error ⟨item⟩
      else .ok (Text.strip left, Text.strip right) := by
  rw [parseItem, (Text.pieces_eq_pair_iff '=' item left right).mpr once]

theorem parseItem_of_not_splitsOnce {item : String}
    (several : ¬ ∃ left right, Text.SplitsOnce '=' item left right) :
    parseItem item = .error ⟨item⟩ := by
  unfold parseItem
  split
  · rename_i left right cut
    exact absurd ⟨left, right, (Text.pieces_eq_pair_iff '=' item left right).mp cut⟩ several
  · rfl

theorem parseItem_eq_ok_iff (item key value : String) :
    parseItem item = .ok (key, value) ↔ Gives item key value := by
  constructor
  · intro success
    by_cases once : ∃ left right, Text.SplitsOnce '=' item left right
    · obtain ⟨left, right, once⟩ := once
      rw [parseItem_of_splitsOnce once] at success
      split at success
      · cases success
      · rename_i named
        cases success
        exact ⟨⟨left, right, once, Text.stripsTo_strip left, Text.stripsTo_strip right⟩, named⟩
    · rw [parseItem_of_not_splitsOnce once] at success
      cases success
  · intro gives
    obtain ⟨⟨left, right, once, toKey, toValue⟩, named⟩ := gives
    rw [parseItem_of_splitsOnce once, (Text.strip_eq_iff left key).mpr toKey,
      (Text.strip_eq_iff right value).mpr toValue, if_neg named]

theorem parseItem_eq_error_iff (item : String) (error : BadItem) :
    parseItem item = .error error ↔ Malformed item ∧ error = ⟨item⟩ := by
  by_cases once : ∃ left right, Text.SplitsOnce '=' item left right
  · have single : item.toList.count '=' = 1 := (Text.count_eq_one_iff '=' item).mpr once
    obtain ⟨left, right, once⟩ := once
    have blank : Malformed item ↔ Text.strip left = "" := by
      rw [Text.strip_eq_empty_iff]
      constructor
      · intro malformed
        rcases malformed with several | ⟨other, rest, again, blanks⟩
        · exact absurd single several
        · have same := (Text.pieces_eq_pair_iff _ _ _ _).mpr again
          rw [(Text.pieces_eq_pair_iff _ _ _ _).mpr once] at same
          rwa [(List.cons.inj same).1]
      · exact fun blanks => Or.inr ⟨left, right, once, blanks⟩
    rw [parseItem_of_splitsOnce once, blank]
    split
    · rename_i empty
      simp [empty, eq_comm]
    · rename_i named
      simp [named]
  · have several : item.toList.count '=' ≠ 1 := (Text.count_eq_one_iff '=' item).not.mpr once
    have malformed : Malformed item := Or.inl several
    rw [parseItem_of_not_splitsOnce once]
    simp [malformed, eq_comm]

theorem exists_parseItem_error_iff (item : String) :
    (∃ error, parseItem item = .error error) ↔ Malformed item := by
  simp [parseItem_eq_error_iff]

theorem given?_eq_some_iff (item key value : String) :
    given? item = some (key, value) ↔ Gives item key value := by
  rw [← parseItem_eq_ok_iff, given?]
  cases parseItem item <;> simp [Except.toOption]

theorem parse_eq_error_iff (items : List String) (error : BadItem) :
    parse items = .error error ↔ IsFirst Malformed items error.item := by
  have whole : parse items = .error error ↔ items.mapM parseItem = .error error := by
    unfold parse
    cases items.mapM parseItem <;> simp [Except.map]
  have failing : (fun item => ∃ error, parseItem item = .error error) = Malformed :=
    funext fun item => propext (exists_parseItem_error_iff item)
  rw [whole, mapM_eq_error_iff, failing]
  simp only [parseItem_eq_error_iff]
  constructor
  · rintro ⟨item, first, -, rfl⟩
    exact first
  · intro first
    exact ⟨error.item, first, first.property, rfl⟩

/-- What is accepted is what the items give, one entry an item. -/
theorem parse_eq_ok_iff (items : List String) (overrides : KeyedList String String) :
    parse items = .ok overrides ↔
      ∃ entries, List.Forall₂ (fun item entry => Gives item entry.1 entry.2) items entries ∧
        overrides = .ofList entries := by
  unfold parse
  simp only [← parseItem_eq_ok_iff]
  constructor
  · intro success
    cases read : items.mapM parseItem with
    | error error =>
      rw [read] at success
      cases success
    | ok entries =>
      rw [read] at success
      exact ⟨entries, mapM_eq_ok_iff.mp read, (Except.ok.inj success).symm⟩
  · rintro ⟨entries, given, rfl⟩
    rw [mapM_eq_ok_iff.mpr given]
    rfl

theorem filterMap_given? {items : List String} {entries : List (String × String)}
    (given : List.Forall₂ (fun item entry => Gives item entry.1 entry.2) items entries) :
    items.filterMap given? = entries := by
  induction given with
  | nil => rfl
  | cons first _ ih => rw [List.filterMap_cons_some ((given?_eq_some_iff _ _ _).mpr first), ih]

theorem gathers_of_parse {items : List String} {overrides : KeyedList String String}
    (accepted : parse items = .ok overrides) : Gathers items overrides := by
  obtain ⟨entries, given, rfl⟩ := (parse_eq_ok_iff items overrides).mp accepted
  have names : List.Forall₂ (fun item name => ∃ value, Gives item name value) items
      (entries.map Prod.fst) :=
    List.forall₂_map_right_iff.mpr (given.imp fun _ entry gives => ⟨entry.2, gives⟩)
  have first : FirstOccurrences (entries.map Prod.fst) (KeyedList.ofList entries).keys := by
    rw [KeyedList.keys_ofList]
    exact firstOccurrences_eraseDups _
  have values : ∀ key value, (KeyedList.ofList entries).get? key = some value ↔
      ∃ before item after, items = before ++ item :: after ∧ Gives item key value ∧
        ∀ later ∈ after, ∀ other, ¬ Gives later key other := by
    intro key value
    rw [KeyedList.get?_ofList, ← filterMap_given? given,
      KeyedList.lookup_filterMap_reverse_eq_some_iff]
    simp only [ne_eq, given?_eq_some_iff]
  refine ⟨⟨_, names, first⟩, ?_, values⟩
  intro key member
  obtain ⟨value, found⟩ := Option.isSome_iff_exists.mp ((KeyedList.mem_keys_iff _ _).mp member)
  obtain ⟨before, item, after, -, gives, -⟩ := (values key value).mp found
  exact gives.named

/-- What one item gives is given again by the item that it is written as. -/
theorem Gives.written {item key value : String} (gives : Gives item key value) :
    Gives (key ++ "=" ++ value) key value := by
  obtain ⟨⟨left, right, once, toKey, toValue⟩, named⟩ := gives
  refine ⟨⟨key, value, ⟨by simp, ?_, ?_⟩, ?_, ?_⟩, named⟩
  · exact fun member => once.left (toKey.mem member)
  · exact fun member => once.right (toValue.mem member)
  · exact (Text.strip_eq_iff key key).mp toKey.tight.strip_eq
  · exact (Text.strip_eq_iff value value).mp toValue.tight.strip_eq

theorem parse_itemsOf {items : List String} {overrides : KeyedList String String}
    (gathers : Gathers items overrides) : parse (itemsOf overrides) = .ok overrides := by
  refine (parse_eq_ok_iff _ _).mpr ⟨overrides.entries, ?_, overrides.ofList_entries.symm⟩
  rw [itemsOf, List.forall₂_map_left_iff, List.forall₂_same]
  intro entry member
  have found := (KeyedList.get?_eq_some_iff overrides entry.1 entry.2).mpr member
  obtain ⟨before, item, after, -, gives, -⟩ := (gathers.values entry.1 entry.2).mp found
  exact gives.written

/-- Items are refused if and only if one of them is malformed, with a message that quotes the first
such item. Otherwise they are read as settings, each key at the place of the first item that gives
it a value and with the value that the last one gives, and these settings are found again in the
items that they are written as. -/
theorem parse_outcome (items : List String) :
    (∀ message, (∃ error, parse items = .error error ∧ error.message = message) ↔
        ∃ item, IsFirst Malformed items item ∧
          message = "Expected KEY=VALUE, got: " ++ Text.quoted item) ∧
      ((∃ error, parse items = .error error) ↔ ∃ item ∈ items, Malformed item) ∧
      ∀ overrides, parse items = .ok overrides →
        Gathers items overrides ∧ parse (itemsOf overrides) = .ok overrides := by
  refine ⟨?_, ?_, ?_⟩
  · intro message
    constructor
    · rintro ⟨error, refused, rfl⟩
      exact ⟨error.item, (parse_eq_error_iff items error).mp refused, rfl⟩
    · rintro ⟨item, first, rfl⟩
      exact ⟨⟨item⟩, (parse_eq_error_iff items ⟨item⟩).mpr first, rfl⟩
  · rw [← exists_isFirst_iff]
    constructor
    · rintro ⟨error, refused⟩
      exact ⟨error.item, (parse_eq_error_iff items error).mp refused⟩
    · rintro ⟨item, first⟩
      exact ⟨⟨item⟩, (parse_eq_error_iff items ⟨item⟩).mpr first⟩
  · intro overrides accepted
    have gathers := gathers_of_parse accepted
    exact ⟨gathers, parse_itemsOf gathers⟩

/-- Keys with blanks of several kinds around them, one of them twice, and a value with none. -/
def roughItems : List String := ["\u3000NCSS\t= 1", "limit=", " NCSS\x1c=2 3\n"]

def roughOverrides : KeyedList String String := .ofList [("NCSS", "2 3"), ("limit", "")]

theorem parse_outcome_rough :
    parse roughItems = .ok roughOverrides ∧
      itemsOf roughOverrides = ["NCSS=2 3", "limit="] ∧
      parse (itemsOf roughOverrides) = .ok roughOverrides ∧
      IsFirst Malformed ["a=b", " =c", "d", "e=f=g"] " =c" ∧
      ∃ error, parse ["a=b", " =c", "d", "e=f=g"] = .error error ∧
        error.message = "Expected KEY=VALUE, got: ' =c'" := by
  have read : List.Forall₂ (fun item entry => parseItem item = .ok entry) roughItems
      [("NCSS", "1"), ("limit", ""), ("NCSS", "2 3")] :=
    .cons (by decide +kernel) (.cons (by decide +kernel) (.cons (by decide +kernel) .nil))
  have accepted : parse roughItems = .ok roughOverrides := by
    rw [parse, mapM_eq_ok_iff.mpr read]
    rfl
  have again := ((parse_outcome roughItems).2.2 roughOverrides accepted).2
  have cut : Text.SplitsOnce '=' " =c" " " "c" := ⟨rfl, by decide, by decide⟩
  have blank : Malformed " =c" :=
    Or.inr ⟨" ", "c", cut, (Text.strip_eq_empty_iff " ").mp (by decide)⟩
  have fine : ¬ Malformed "a=b" := by
    rw [← exists_parseItem_error_iff]
    rintro ⟨error, refused⟩
    cases refused
  have first : IsFirst Malformed ["a=b", " =c", "d", "e=f=g"] " =c" :=
    ⟨["a=b"], ["d", "e=f=g"], rfl, by simpa using fine, blank⟩
  exact ⟨accepted, rfl, again, first,
    ((parse_outcome _).1 _).mpr ⟨" =c", first, by decide +kernel⟩⟩

end DeclarationLint.Overrides
