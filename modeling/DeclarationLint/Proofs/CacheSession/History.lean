import DeclarationLint.Proofs.CacheSession.Past
import DeclarationLint.Proofs.Settings.Cache

/-!
# What a session remembers

Every answer of a session follows from the steps before it. An identifier has an entry exactly if
settings were asked for under it since it was last dropped, and the entry is what the first file
asked for said at that moment, whatever was done to files in between. One lemma says what a step
does to the entries (`get?_step`), and from it the entries are known after any steps
(`get?_after_iff`).
-/
namespace DeclarationLint

namespace CacheSession

/-- The session as a list of steps leaves it. -/
def after (session : CacheSession) (past : List CacheStep) : CacheSession :=
  past.foldl (fun before step => (before.step step).2) session

/-- The file that a step looks up settings for. -/
def asked? (session : CacheSession) (step : CacheStep) : Option SourceFile :=
  step.asked?.bind session.files.get?

theorem after_append (session : CacheSession) (past rest : List CacheStep) :
    session.after (past ++ rest) = (session.after past).after rest := by
  rw [after, after, after, List.foldl_append]

theorem after_concat (session : CacheSession) (past : List CacheStep) (step : CacheStep) :
    session.after (past ++ [step]) = ((session.after past).step step).2 :=
  after_append session past [step]

theorem run_cons (session : CacheSession) (step : CacheStep) (rest : List CacheStep) :
    session.run (step :: rest) =
      ((session.step step).1, (session.step step).2.cache.size) ::
        (session.step step).2.run rest := rfl

theorem run_append (session : CacheSession) (past rest : List CacheStep) :
    session.run (past ++ rest) = session.run past ++ (session.after past).run rest := by
  induction past generalizing session with
  | nil => rfl
  | cons step past ih => exact congrArg _ (ih (session.step step).2)

theorem length_run (session : CacheSession) (steps : List CacheStep) :
    (session.run steps).length = steps.length := by
  induction steps generalizing session with
  | nil => rfl
  | cons step rest ih => exact congrArg (· + 1) (ih (session.step step).2)

/-- The answer that comes after some steps is the one that the session gives as they leave it. -/
theorem getElem?_run (session : CacheSession) (past : List CacheStep) (step : CacheStep)
    (later : List CacheStep) :
    (session.run (past ++ step :: later))[past.length]? =
      some (((session.after past).step step).1,
        (session.after (past ++ [step])).cache.size) := by
  rw [run_append, ← length_run session past, List.getElem?_append_right (Nat.le_refl _),
    Nat.sub_self, after_concat]
  rfl

section Step

variable {session : CacheSession} {step : CacheStep}

theorem step_of_asked {file : SourceFile} (asked : session.asked? step = some file) :
    (session.step step).2 = { session with cache := (session.cache.settingsFor file).2 } := by
  cases step with
  | settings name =>
    have found : session.files.get? name = some file := asked
    simp only [CacheSession.step, stepOn, found]
  | lint name =>
    have found : session.files.get? name = some file := asked
    simp only [CacheSession.step, stepOn, found]
    rfl
  | comment | invalidate | clear | contains => cases asked

theorem cache_step_of_not_asked (unknown : session.asked? step = none) :
    (session.step step).2.cache =
      match step with
      | .invalidate identifier => session.cache.invalidate identifier
      | .clear => session.cache.clear
      | _ => session.cache := by
  cases step with
  | settings name | lint name =>
    have absent : session.files.get? name = none := unknown
    rw [CacheSession.step, stepOn, absent]
  | comment name comment =>
    rw [CacheSession.step, stepOn]
    cases session.files.get? name <;> rfl
  | invalidate | clear | contains => rfl

theorem get?_files_step (session : CacheSession) (step : CacheStep) (name : String) :
    (session.step step).2.files.get? name =
      (session.files.get? name).map fun file =>
        { file with comments := file.comments ++ (step.added? name).toList } := by
  have unchanged : session.files.get? name =
      (session.files.get? name).map fun file =>
        { file with comments := file.comments ++ (none : Option Comment).toList } := by
    cases session.files.get? name <;> simp
  cases step with
  | settings other | lint other =>
    rw [CacheSession.step, stepOn]
    cases session.files.get? other <;> exact unchanged
  | invalidate | clear | contains => exact unchanged
  | comment other comment =>
    rw [CacheSession.step, stepOn]
    by_cases same : other = name
    · subst same
      cases found : session.files.get? other with
      | none => simp [found]
      | some file => simp [KeyedList.get?_insert, CacheStep.added?]
    · cases session.files.get? other with
      | none => simp [CacheStep.added?, same]
      | some file => simp [CacheStep.added?, same, KeyedList.get?_insert]

/-- The entries after a step: it may drop some, and it makes one if it asks for settings that are
not remembered. -/
theorem get?_step (session : CacheSession) (step : CacheStep) (identifier : String)
    (reading : Reading) :
    (session.step step).2.cache.readings.get? identifier = some reading ↔
      (session.cache.readings.get? identifier = some reading ∧ ¬ step.Drops identifier) ∨
        (session.cache.readings.get? identifier = none ∧
          ∃ file ∈ session.asked? step, file.identifier = identifier ∧
            reading = ⟨session.cache.next, Settings.ofFile file⟩) := by
  cases asked : session.asked? step with
  | some file =>
    obtain ⟨name, asks, -⟩ := Option.bind_eq_some_iff.mp asked
    have keeps := CacheStep.not_drops_of_asked? asks identifier
    rw [step_of_asked asked]
    cases remembered : session.cache.readings.get? file.identifier with
    | some old =>
      rw [SettingsCache.settingsFor_of_some remembered]
      constructor
      · exact fun found => Or.inl ⟨found, keeps⟩
      · rintro (⟨found, -⟩ | ⟨unknown, other, same, rfl, -⟩)
        · exact found
        · rw [← Option.mem_some_iff.mp same, remembered] at unknown
          cases unknown
    | none =>
      rw [SettingsCache.settingsFor_of_none remembered]
      change (session.cache.readings.insert _ _).get? identifier = some reading ↔ _
      rw [KeyedList.get?_insert]
      by_cases same : file.identifier = identifier
      · subst same
        simp [remembered, eq_comm]
      · simp [same, keeps]
  | none =>
    rw [cache_step_of_not_asked asked]
    cases step with
    | settings | lint | comment | contains => simp [CacheStep.Drops]
    | invalidate other =>
      rw [SettingsCache.get?_invalidate]
      by_cases same : other = identifier <;> simp [CacheStep.Drops, same]
    | clear => simp [CacheStep.Drops, SettingsCache.readings_clear]

theorem next_step_of_new {file : SourceFile} (asked : session.asked? step = some file)
    (unknown : session.cache.readings.get? file.identifier = none) :
    (session.step step).2.cache.next = session.cache.next + 1 := by
  rw [step_of_asked asked, SettingsCache.settingsFor_of_none unknown]
  rfl

theorem next_le_step (session : CacheSession) (step : CacheStep) :
    session.cache.next ≤ (session.step step).2.cache.next := by
  cases asked : session.asked? step with
  | some file =>
    cases remembered : session.cache.readings.get? file.identifier with
    | some reading =>
      have unchanged : (session.step step).2.cache.next = session.cache.next := by
        rw [step_of_asked asked, SettingsCache.settingsFor_of_some remembered]
      exact Nat.le_of_eq unchanged.symm
    | none =>
      rw [next_step_of_new asked remembered]
      exact Nat.le_succ _
  | none =>
    rw [cache_step_of_not_asked asked]
    cases step with
    | clear => exact Nat.le_of_eq (SettingsCache.next_clear session.cache).symm
    | settings | comment | invalidate | contains | lint => exact Nat.le_refl _

end Step

section After

variable {files : KeyedList String SourceFile} {past : List CacheStep}

theorem get?_files_after (files : KeyedList String SourceFile) (past : List CacheStep)
    (name : String) :
    ((start files).after past).files.get? name = fileAfter files past name := by
  induction past using List.reverseRecOn with
  | nil =>
    change files.get? name = _
    rw [fileAfter]
    cases files.get? name <;> simp
  | append_singleton past step ih =>
    rw [after_concat, get?_files_step, ih, fileAfter, fileAfter, Option.map_map,
      List.filterMap_append]
    congr 1
    funext file
    cases added : step.added? name <;> simp [added]

/-- The number that the next new reading gets. -/
def clock (files : KeyedList String SourceFile) (past : List CacheStep) : Nat :=
  ((start files).after past).cache.next

theorem asked?_after (step : CacheStep) :
    ((start files).after past).asked? step = step.asked?.bind (fileAfter files past) := by
  rw [asked?]
  congr 1
  funext name
  exact get?_files_after files past name

theorem entry_eq_none_iff {identifier : String} {entry : Option Reading}
    {serial : List CacheStep → Nat}
    (entries : ∀ reading, entry = some reading ↔
      ∃ before file, FirstAsked files past identifier before file ∧
        reading = ⟨serial before, Settings.ofFile file⟩) :
    entry = none ↔ ¬ AskedSince files past identifier := by
  rw [Option.eq_none_iff_forall_ne_some, ← exists_firstAsked_iff]
  constructor
  · rintro absent ⟨before, file, firstAsked⟩
    exact absent _ ((entries _).mpr ⟨before, file, firstAsked, rfl⟩)
  · intro absent reading found
    obtain ⟨before, file, firstAsked, -⟩ := (entries reading).mp found
    exact absent ⟨before, file, firstAsked⟩

/-- The entry of an identifier is what the first file asked for said when it was asked for. -/
theorem get?_after_iff (past : List CacheStep) (identifier : String) (reading : Reading) :
    ((start files).after past).cache.readings.get? identifier = some reading ↔
      ∃ before file, FirstAsked files past identifier before file ∧
        reading = ⟨clock files before, Settings.ofFile file⟩ := by
  induction past using List.reverseRecOn generalizing reading with
  | nil =>
    constructor
    · intro found
      cases found
    · rintro ⟨before, file, firstAsked, -⟩
      obtain ⟨step, later, split, -⟩ := firstAsked.asked
      simp at split
  | append_singleton past step ih =>
    rw [after_concat, get?_step, ih, entry_eq_none_iff ih, asked?_after]
    constructor
    · rintro (⟨⟨before, file, firstAsked, same⟩, keeps⟩ | ⟨fresh, file, asked, named, same⟩)
      · exact ⟨before, file, firstAsked_concat.mpr (Or.inr ⟨firstAsked, keeps⟩), same⟩
      · obtain ⟨name, asking, found⟩ := Option.bind_eq_some_iff.mp asked
        exact ⟨past, file,
          firstAsked_concat.mpr (Or.inl ⟨fresh, rfl, named, name, asking, found⟩), same⟩
    · rintro ⟨before, file, firstAsked, same⟩
      rcases firstAsked_concat.mp firstAsked with
        ⟨fresh, rfl, named, name, asking, found⟩ | ⟨firstAsked, keeps⟩
      · exact Or.inr ⟨fresh, file, Option.bind_eq_some_iff.mpr ⟨name, asking, found⟩, named, same⟩
      · exact Or.inl ⟨⟨before, file, firstAsked, same⟩, keeps⟩

theorem get?_after_eq_none_iff (past : List CacheStep) (identifier : String) :
    ((start files).after past).cache.readings.get? identifier = none ↔
      ¬ AskedSince files past identifier :=
  entry_eq_none_iff (get?_after_iff past identifier)

end After

end CacheSession
end DeclarationLint
