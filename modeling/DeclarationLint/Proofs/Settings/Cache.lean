import DeclarationLint.Proofs.KeyedList
import DeclarationLint.Settings.Cache

/-!
# What the cache may remember

As long as files with one identifier carry the same comments, whatever is remembered under an
identifier is what any file with that identifier would be read as. Dropping one identifier
leaves the others alone, and dropping all of them leaves nothing, since nothing is remembered
without a lock.
-/
namespace DeclarationLint

/-- Files with one identifier have the same comments. -/
def SameComments (files : List SourceFile) : Prop :=
  ∀ first ∈ files, ∀ second ∈ files, first.identifier = second.identifier →
    first.comments = second.comments

namespace SettingsCache

/-- What is remembered for a file is what its comments say. -/
def Sound (files : List SourceFile) (cache : SettingsCache) : Prop :=
  ∀ file ∈ files, ∀ reading ∈ cache.readings.get? file.identifier,
    reading.settings = Settings.ofFile file

theorem sound_empty (files : List SourceFile) : empty.Sound files := by
  intro file _ reading remembered
  cases remembered

theorem settingsFor_of_some {cache : SettingsCache} {file : SourceFile} {reading : Reading}
    (remembered : cache.readings.get? file.identifier = some reading) :
    cache.settingsFor file = (reading, cache) := by
  rw [settingsFor, remembered]

theorem settingsFor_of_none {cache : SettingsCache} {file : SourceFile}
    (unknown : cache.readings.get? file.identifier = none) :
    cache.settingsFor file =
      (⟨cache.next, Settings.ofFile file⟩,
        cache.remember file.identifier ⟨cache.next, Settings.ofFile file⟩) := by
  rw [settingsFor, unknown]

/-- Whoever asks for settings finds what is remembered from then on. -/
theorem get?_settingsFor (cache : SettingsCache) (file : SourceFile) :
    (cache.settingsFor file).2.readings.get? file.identifier = some (cache.settingsFor file).1 := by
  cases remembered : cache.readings.get? file.identifier with
  | some reading =>
    rw [settingsFor_of_some remembered]
    exact remembered
  | none =>
    rw [settingsFor_of_none remembered]
    change (cache.readings.insert _ _).get? _ = _
    rw [KeyedList.get?_insert, if_pos rfl]

/-- The answer was there before, or it is what the comments of the file say. -/
theorem settingsFor_origin (cache : SettingsCache) (file : SourceFile) :
    cache.readings.get? file.identifier = some (cache.settingsFor file).1 ∨
      (cache.settingsFor file).1.settings = Settings.ofFile file := by
  cases remembered : cache.readings.get? file.identifier with
  | some reading =>
    rw [settingsFor_of_some remembered]
    exact Or.inl rfl
  | none =>
    rw [settingsFor_of_none remembered]
    exact Or.inr rfl

theorem get?_invalidate (cache : SettingsCache) (identifier other : String) :
    (cache.invalidate identifier).readings.get? other =
      if identifier = other then none else cache.readings.get? other :=
  KeyedList.get?_erase cache.readings identifier other

theorem get?_foldl_invalidate (cache : SettingsCache) (identifiers : List String)
    (other : String) :
    (identifiers.foldl invalidate cache).readings.get? other =
      if other ∈ identifiers then none else cache.readings.get? other := by
  induction identifiers generalizing cache with
  | nil => rfl
  | cons identifier rest ih =>
    rw [List.foldl_cons, ih, get?_invalidate]
    by_cases same : identifier = other
    · simp [same]
    · simp [same, Ne.symm same]

theorem readings_clear (cache : SettingsCache) : cache.clear.readings = .empty := by
  refine KeyedList.eq_empty_of_get?_eq_none fun other => ?_
  rw [clear, get?_foldl_invalidate]
  split
  · rfl
  · rename_i unlocked
    have unknown : other ∉ cache.readings.keys := fun known => unlocked (cache.locked other known)
    rw [KeyedList.mem_keys_iff, Option.not_isSome_iff_eq_none] at unknown
    exact unknown

theorem next_foldl_invalidate (cache : SettingsCache) (identifiers : List String) :
    (identifiers.foldl invalidate cache).next = cache.next := by
  induction identifiers generalizing cache with
  | nil => rfl
  | cons identifier rest ih => exact ih (cache.invalidate identifier)

theorem next_clear (cache : SettingsCache) : cache.clear.next = cache.next :=
  next_foldl_invalidate cache cache.locks

/-- A sound cache answers with what the comments of the file say, and stays sound. -/
theorem Sound.settingsFor {files : List SourceFile} {cache : SettingsCache}
    (sound : cache.Sound files) (consistent : SameComments files) {file : SourceFile}
    (member : file ∈ files) :
    (cache.settingsFor file).1.settings = Settings.ofFile file ∧
      (cache.settingsFor file).2.Sound files := by
  cases remembered : cache.readings.get? file.identifier with
  | some reading =>
    rw [settingsFor_of_some remembered]
    exact ⟨sound file member reading remembered, sound⟩
  | none =>
    rw [settingsFor_of_none remembered]
    refine ⟨rfl, ?_⟩
    intro other otherMember reading found
    change (cache.readings.insert _ _).get? other.identifier = some reading at found
    rw [KeyedList.get?_insert] at found
    split at found
    · rename_i same
      cases found
      have comments := consistent file member other otherMember same
      simp [Settings.ofFile, comments]
    · exact sound other otherMember reading found

end SettingsCache
end DeclarationLint
