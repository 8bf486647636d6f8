import DeclarationLint.Settings

/-!
# Remembered settings

Settings are read from a file once and then remembered under the file's identifier, whatever
becomes of the comments, until they are dropped. Each reading gets a serial number of its
own, so two answers are the same object exactly when their numbers agree. Who reads or drops the
settings of an identifier holds its lock. Locks are kept for good, and to drop everything is to
go through the locks.
-/
namespace DeclarationLint

/-- Settings read from a file, and which reading it was. -/
structure Reading where
  serial : Nat
  settings : Settings

structure SettingsCache where
  readings : KeyedList String Reading
  /-- The identifiers that have a lock, in the order in which they got it. -/
  locks : List String
  next : Nat
  locked : ∀ identifier ∈ readings.keys, identifier ∈ locks

namespace SettingsCache

def empty : SettingsCache := ⟨.empty, [], 0, by simp [KeyedList.empty, KeyedList.keys]⟩

instance : Inhabited SettingsCache := ⟨empty⟩

/-- An identifier gets its lock when it is first needed. -/
def lock (locks : List String) (identifier : String) : List String :=
  if identifier ∈ locks then locks else locks ++ [identifier]

theorem mem_lock_iff {locks : List String} {identifier other : String} :
    other ∈ lock locks identifier ↔ other ∈ locks ∨ other = identifier := by
  unfold lock
  split
  · rename_i present
    exact ⟨Or.inl, fun member => member.elim id fun same => same ▸ present⟩
  · simp

/-- Remembers a new reading. -/
def remember (cache : SettingsCache) (identifier : String) (reading : Reading) :
    SettingsCache where
  readings := cache.readings.insert identifier reading
  locks := lock cache.locks identifier
  next := reading.serial + 1
  locked other member := by
    rw [KeyedList.insert, KeyedList.keys_update] at member
    split at member
    · exact mem_lock_iff.mpr (Or.inl (cache.locked other member))
    · rcases List.mem_append.mp member with old | new
      · exact mem_lock_iff.mpr (Or.inl (cache.locked other old))
      · exact mem_lock_iff.mpr (Or.inr (List.mem_singleton.mp new))

/-- The remembered reading of a file, or a new one. -/
def settingsFor (cache : SettingsCache) (file : SourceFile) : Reading × SettingsCache :=
  match cache.readings.get? file.identifier with
  | some reading => (reading, cache)
  | none =>
    let reading : Reading := ⟨cache.next, Settings.ofFile file⟩
    (reading, cache.remember file.identifier reading)

def invalidate (cache : SettingsCache) (identifier : String) : SettingsCache where
  readings := cache.readings.erase identifier
  locks := lock cache.locks identifier
  next := cache.next
  locked other member := by
    rw [KeyedList.keys_erase] at member
    exact mem_lock_iff.mpr (Or.inl (cache.locked other (List.mem_filter.mp member).1))

/-- Drops what is remembered for each identifier that has a lock. -/
def clear (cache : SettingsCache) : SettingsCache := cache.locks.foldl invalidate cache

def contains (cache : SettingsCache) (identifier : String) : Bool :=
  cache.readings.contains identifier

def size (cache : SettingsCache) : Nat := cache.readings.size

end SettingsCache
end DeclarationLint
