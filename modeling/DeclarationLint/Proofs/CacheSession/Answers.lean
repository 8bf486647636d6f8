import DeclarationLint.Proofs.CacheSession.History

/-!
# What a session answers

The answers of a session are told here from the steps alone: which settings a query or a count of
statements sees, when two queries get the very same object, what is known, how many identifiers
are, and which steps change nothing.
-/
namespace DeclarationLint

namespace CacheSession

/-- A step that concerns one identifier, by its name or through a file that has it. -/
def Concerns (files : KeyedList String SourceFile) (identifier : String) : CacheStep → Prop
  | .settings name | .lint name | .comment name _ =>
    ∃ file ∈ files.get? name, file.identifier = identifier
  | .invalidate other | .contains other => other = identifier
  | .clear => False

/-- The step can be left out: the entries stay as they are, and so do all later answers. -/
def Idle (files : KeyedList String SourceFile) (past : List CacheStep) (step : CacheStep) : Prop :=
  ((start files).after (past ++ [step])).cache.readings =
      ((start files).after past).cache.readings ∧
    ∀ later, ((start files).after (past ++ [step])).run later =
      ((start files).after past).run later

/-- The answers of a session as they follow from its past. The answer to a step is the one in the
place of the step, together with the number of readings remembered after it. -/
structure FollowsPast (files : KeyedList String SourceFile) (steps : List CacheStep) : Prop where
  /-- A query sees the comments that the first file asked for had at that moment. -/
  settings : ∀ past name later file, steps = past ++ .settings name :: later →
    fileAfter files past name = some file →
    ∃ before first reading size, ((start files).run steps)[past.length]? =
        some (.reading reading, size) ∧
      FirstAsked files (past ++ [.settings name]) file.identifier before first ∧
      reading.settings = .ofComments first.comments
  /-- So does a count of statements. -/
  lint : ∀ past name later file, steps = past ++ .lint name :: later →
    fileAfter files past name = some file →
    ∃ before first size, FirstAsked files (past ++ [.lint name]) file.identifier before first ∧
      ((start files).run steps)[past.length]? =
        some (.linted
          (Rule.StatementCount.rule.check .empty (.ofComments first.comments) file).result, size)
  /-- Two queries get one object if they are for one identifier and nothing drops it in between. -/
  object : ∀ past one between other later first second,
    steps = past ++ .settings one :: (between ++ .settings other :: later) →
    files.get? one = some first → files.get? other = some second →
    ∃ early late sizeThen sizeNow,
      ((start files).run steps)[past.length]? = some (.reading early, sizeThen) ∧
      ((start files).run steps)[(past ++ .settings one :: between).length]? =
        some (.reading late, sizeNow) ∧
      (late.serial = early.serial ↔ first.identifier = second.identifier ∧
        ∀ step ∈ between, ¬ step.Drops first.identifier)
  contains : ∀ past identifier later, steps = past ++ .contains identifier :: later →
    ∃ known size, ((start files).run steps)[past.length]? = some (.held known, size) ∧
      (known = true ↔ AskedSince files past identifier)
  size : ∀ past step later, steps = past ++ step :: later →
    ∃ answer, ∃ held : List String, held.Nodup ∧
      (∀ identifier, identifier ∈ held ↔ AskedSince files (past ++ [step]) identifier) ∧
      ((start files).run steps)[past.length]? = some (answer, held.length)
  invalidateAbsent : ∀ past identifier later, steps = past ++ later →
    ¬ AskedSince files past identifier → Idle files past (.invalidate identifier)
  clearAbsent : ∀ past later, steps = past ++ later →
    (∀ identifier, ¬ AskedSince files past identifier) → Idle files past .clear
  /-- The entries of other identifiers stay as they are. -/
  others : ∀ past step later identifier other, steps = past ++ step :: later →
    Concerns files identifier step → other ≠ identifier →
    ((start files).after (past ++ [step])).cache.readings.get? other =
      ((start files).after past).cache.readings.get? other

/-- Two sessions that differ in nothing but their locks. -/
structure Alike (first second : CacheSession) : Prop where
  files : first.files = second.files
  readings : first.cache.readings = second.cache.readings
  next : first.cache.next = second.cache.next

theorem settingsFor_congr {first second : SettingsCache}
    (readings : first.readings = second.readings) (next : first.next = second.next) (file : SourceFile) :
    (first.settingsFor file).1 = (second.settingsFor file).1 ∧
      (first.settingsFor file).2.readings = (second.settingsFor file).2.readings ∧
      (first.settingsFor file).2.next = (second.settingsFor file).2.next := by
  cases remembered : first.readings.get? file.identifier with
  | some reading =>
    rw [SettingsCache.settingsFor_of_some remembered]
    rw [readings] at remembered
    rw [SettingsCache.settingsFor_of_some remembered]
    exact ⟨rfl, readings, next⟩
  | none =>
    rw [SettingsCache.settingsFor_of_none remembered]
    rw [readings] at remembered
    rw [SettingsCache.settingsFor_of_none remembered]
    simp [SettingsCache.remember, readings, next]

theorem Alike.step {first second : CacheSession} (alike : Alike first second) (step : CacheStep) :
    (first.step step).1 = (second.step step).1 ∧
      Alike (first.step step).2 (second.step step).2 := by
  obtain ⟨firstCache, firstFiles⟩ := first
  obtain ⟨secondCache, secondFiles⟩ := second
  obtain ⟨files, readings, next⟩ := alike
  dsimp only at files readings next
  subst files
  cases step with
  | settings name =>
    cases found : firstFiles.get? name with
    | none => simpa [CacheSession.step, stepOn, found] using ⟨rfl, readings, next⟩
    | some file =>
      obtain ⟨same, sameReadings, sameNext⟩ := settingsFor_congr readings next file
      simpa [CacheSession.step, stepOn, found, same] using ⟨rfl, sameReadings, sameNext⟩
  | lint name =>
    cases found : firstFiles.get? name with
    | none => simpa [CacheSession.step, stepOn, found] using ⟨rfl, readings, next⟩
    | some file =>
      obtain ⟨same, sameReadings, sameNext⟩ := settingsFor_congr readings next file
      simpa [CacheSession.step, stepOn, found, Rule.run, same] using ⟨rfl, sameReadings, sameNext⟩
  | comment name comment =>
    cases found : firstFiles.get? name with
    | none => simpa [CacheSession.step, stepOn, found] using ⟨rfl, readings, next⟩
    | some file => simpa [CacheSession.step, stepOn, found] using ⟨rfl, readings, next⟩
  | invalidate identifier =>
    exact ⟨rfl, rfl, congrArg (KeyedList.erase · identifier) readings, next⟩
  | clear =>
    refine ⟨rfl, rfl, ?_, ?_⟩
    · exact (SettingsCache.readings_clear _).trans (SettingsCache.readings_clear _).symm
    · exact (SettingsCache.next_clear _).trans (next.trans (SettingsCache.next_clear _).symm)
  | contains identifier =>
    refine ⟨?_, rfl, readings, next⟩
    simp [CacheSession.step, SettingsCache.contains, readings]

theorem Alike.run {first second : CacheSession} (alike : Alike first second)
    (steps : List CacheStep) : first.run steps = second.run steps := by
  induction steps generalizing first second with
  | nil => rfl
  | cons step rest ih =>
    obtain ⟨answer, after⟩ := alike.step step
    have size : (first.step step).2.cache.size = (second.step step).2.cache.size :=
      congrArg KeyedList.size after.readings
    rw [run_cons, run_cons, answer, size, ih after]

variable {files : KeyedList String SourceFile} {past : List CacheStep}

theorem Alike.idle {step : CacheStep}
    (alike : Alike (((start files).after past).step step).2 ((start files).after past)) :
    Idle files past step := by
  rw [← after_concat] at alike
  exact ⟨alike.readings, alike.run⟩

theorem idle_invalidate {identifier : String} (absent : ¬ AskedSince files past identifier) :
    Idle files past (.invalidate identifier) := by
  have unknown := (get?_after_eq_none_iff past identifier).mpr absent
  exact Alike.idle ⟨rfl, KeyedList.erase_of_get?_eq_none unknown, rfl⟩

theorem idle_clear (absent : ∀ identifier, ¬ AskedSince files past identifier) :
    Idle files past .clear := by
  have nothing : ((start files).after past).cache.readings = .empty :=
    KeyedList.eq_empty_of_get?_eq_none fun identifier =>
      (get?_after_eq_none_iff past identifier).mpr (absent identifier)
  exact Alike.idle ⟨rfl, (SettingsCache.readings_clear _).trans nothing.symm,
    SettingsCache.next_clear _⟩

/-- Whoever asks for settings sees what the first file asked for said. -/
theorem exists_firstAsked_reading {step : CacheStep} {name : String} {file : SourceFile}
    (asks : step.asked? = some name) (found : fileAfter files past name = some file) :
    ∃ before first, FirstAsked files (past ++ [step]) file.identifier before first ∧
      (((start files).after past).cache.settingsFor file).1 =
        ⟨clock files before, Settings.ofFile first⟩ := by
  have asked : ((start files).after past).asked? step = some file := by
    rw [asked?_after, asks]
    exact found
  have entry := SettingsCache.get?_settingsFor ((start files).after past).cache file
  apply (get?_after_iff (past ++ [step]) _ _).mp
  rw [after_concat, step_of_asked asked]
  exact entry

theorem clock_le_append (past rest : List CacheStep) :
    clock files past ≤ clock files (past ++ rest) := by
  induction rest using List.reverseRecOn with
  | nil => simp
  | append_singleton rest step ih =>
    have next := next_le_step ((start files).after (past ++ rest)) step
    rw [← after_concat, List.append_assoc] at next
    exact Nat.le_trans ih next

theorem clock_of_prefix {longer : List CacheStep} (shorter : past <+: longer) :
    clock files past ≤ clock files longer := by
  obtain ⟨rest, rfl⟩ := shorter
  exact clock_le_append past rest

/-- The first to ask gets a number that is not given again. -/
theorem clock_lt_of_firstAsked {identifier : String} {before longer steps : List CacheStep}
    {file : SourceFile} (firstAsked : FirstAsked files past identifier before file)
    (inside : past <+: steps) (longerInside : longer <+: steps)
    (shorter : before.length < longer.length) : clock files before < clock files longer := by
  obtain ⟨step, later, rfl, ⟨name, asks, found⟩, -⟩ := firstAsked.asked
  have asked : ((start files).after before).asked? step = some file := by
    rw [asked?_after, asks]
    exact found
  have unknown := (get?_after_eq_none_iff before identifier).mpr firstAsked.first
  rw [← firstAsked.named] at unknown
  have counted : clock files (before ++ [step]) = clock files before + 1 := by
    rw [clock, after_concat]
    exact next_step_of_new asked unknown
  have begins : before ++ [step] <+: steps :=
    List.IsPrefix.trans ⟨later, by simp⟩ inside
  have reaches : before ++ [step] <+: longer :=
    List.prefix_of_prefix_length_le begins longerInside (by
      rw [List.length_append]
      exact shorter)
  have grown : clock files (before ++ [step]) ≤ clock files longer := clock_of_prefix reaches
  omega

/-- Whoever has the same number was the first to ask at the same moment. -/
theorem before_eq_of_clock_eq {identifier other : String}
    {before otherBefore rest : List CacheStep} {file otherFile : SourceFile}
    (early : FirstAsked files past identifier before file)
    (late : FirstAsked files (past ++ rest) other otherBefore otherFile)
    (same : clock files otherBefore = clock files before) : before = otherBefore := by
  have inside : past <+: past ++ rest := List.prefix_append past rest
  have beforeInside := early.begins.trans inside
  have length : before.length = otherBefore.length := by
    rcases Nat.lt_trichotomy before.length otherBefore.length with shorter | equal | longer
    · have smaller := clock_lt_of_firstAsked early inside late.begins shorter
      omega
    · exact equal
    · have smaller := clock_lt_of_firstAsked late (List.prefix_refl _) beforeInside longer
      omega
  have begins : before <+: otherBefore :=
    List.prefix_of_prefix_length_le beforeInside late.begins (Nat.le_of_eq length)
  exact begins.eq_of_length length

/-- Later in the session the same number means that the same file was the first to be asked for
under the same identifier, and that nothing has dropped it. -/
theorem clock_eq_iff {identifier other : String}
    {before otherBefore rest : List CacheStep} {file otherFile : SourceFile}
    (early : FirstAsked files past identifier before file)
    (late : FirstAsked files (past ++ rest) other otherBefore otherFile) :
    clock files otherBefore = clock files before ↔
      identifier = other ∧ ∀ step ∈ rest, ¬ step.Drops identifier := by
  constructor
  · intro same
    obtain rfl := before_eq_of_clock_eq early late same
    exact early.kept_of_same_before late
  · rintro ⟨rfl, kept⟩
    have stays := early.append kept
    have entry := (get?_after_iff (past ++ rest) identifier _).mpr ⟨before, file, stays, rfl⟩
    have lateEntry := (get?_after_iff (past ++ rest) identifier _).mpr
      ⟨otherBefore, otherFile, late, rfl⟩
    rw [entry] at lateEntry
    exact (congrArg Reading.serial (Option.some.inj lateEntry)).symm

theorem answer_settings {name : String} {file : SourceFile}
    (found : fileAfter files past name = some file) (later : List CacheStep) :
    ∃ before first size,
      FirstAsked files (past ++ [.settings name]) file.identifier before first ∧
        ((start files).run (past ++ .settings name :: later))[past.length]? =
          some (.reading ⟨clock files before, Settings.ofFile first⟩, size) := by
  have asks : (CacheStep.settings name).asked? = some name := rfl
  obtain ⟨before, first, firstAsked, reading⟩ := exists_firstAsked_reading asks found
  have present : ((start files).after past).files.get? name = some file := by
    rw [get?_files_after]
    exact found
  refine ⟨before, first, ((start files).after (past ++ [.settings name])).cache.size, firstAsked,
    ?_⟩
  rw [getElem?_run, CacheSession.step, stepOn, present, ← reading]

theorem answer_lint {name : String} {file : SourceFile}
    (found : fileAfter files past name = some file) (later : List CacheStep) :
    ∃ before first size,
      FirstAsked files (past ++ [.lint name]) file.identifier before first ∧
        ((start files).run (past ++ .lint name :: later))[past.length]? =
          some (.linted (Rule.StatementCount.rule.check .empty (.ofFile first) file).result,
            size) := by
  have asks : (CacheStep.lint name).asked? = some name := rfl
  obtain ⟨before, first, firstAsked, reading⟩ := exists_firstAsked_reading asks found
  have present : ((start files).after past).files.get? name = some file := by
    rw [get?_files_after]
    exact found
  have settings : (((start files).after past).cache.settingsFor file).1.settings =
      Settings.ofFile first := congrArg Reading.settings reading
  refine ⟨before, first, ((start files).after (past ++ [.lint name])).cache.size, firstAsked, ?_⟩
  rw [getElem?_run, CacheSession.step, stepOn, present, ← settings]
  rfl

theorem mem_keys_after_iff (past : List CacheStep) (identifier : String) :
    identifier ∈ ((start files).after past).cache.readings.keys ↔
      AskedSince files past identifier := by
  rw [KeyedList.mem_keys_iff, ← Option.ne_none_iff_isSome, Ne, get?_after_eq_none_iff,
    not_not]

theorem get?_step_of_concerns {step : CacheStep} {identifier other : String}
    (concerns : Concerns files identifier step) (different : other ≠ identifier) :
    ((start files).after (past ++ [step])).cache.readings.get? other =
      ((start files).after past).cache.readings.get? other := by
  have keeps : ¬ step.Drops other := by
    cases step with
    | invalidate => exact fun drops => different (drops.symm.trans concerns)
    | clear => exact concerns.elim
    | settings | lint | comment | contains => exact id
  refine Option.ext fun reading => ?_
  rw [after_concat, get?_step]
  constructor
  · rintro (⟨found, -⟩ | ⟨-, file, asked, named, -⟩)
    · exact found
    · exfalso
      rw [Option.mem_def, asked?_after] at asked
      obtain ⟨name, asks, found⟩ := Option.bind_eq_some_iff.mp asked
      obtain ⟨original, present, kept⟩ := identifier_of_fileAfter found
      have concerned : ∃ file ∈ files.get? name, file.identifier = identifier := by
        cases step with
        | settings asking | lint asking =>
          obtain rfl := Option.some.inj asks
          exact concerns
        | comment | invalidate | clear | contains => cases asks
      obtain ⟨owner, owned, same⟩ := concerned
      have sameOwner : original = owner := Option.some.inj (present.symm.trans owned)
      exact different (named.symm.trans (kept.symm.trans (sameOwner ▸ same)))
  · exact fun found => Or.inl ⟨found, keeps⟩

/-- What a session answers follows from the steps before: which file was the first to be asked
for under an identifier since it was last dropped, and what its comments said then. -/
theorem answers_follow_past (files : KeyedList String SourceFile) (steps : List CacheStep) :
    FollowsPast files steps where
  settings := by
    rintro past name later file rfl found
    obtain ⟨before, first, size, firstAsked, answer⟩ := answer_settings found later
    exact ⟨before, first, _, size, answer, firstAsked, rfl⟩
  lint := by
    rintro past name later file rfl found
    obtain ⟨before, first, size, firstAsked, answer⟩ := answer_lint found later
    exact ⟨before, first, size, firstAsked, answer⟩
  object := by
    rintro past one between other later first second rfl firstFile secondFile
    obtain ⟨asking, firstFound, firstNamed⟩ := exists_fileAfter past firstFile
    obtain ⟨again, secondFound, secondNamed⟩ :=
      exists_fileAfter (past ++ .settings one :: between) secondFile
    obtain ⟨before, file, size, early, answer⟩ := answer_settings firstFound
      (between ++ .settings other :: later)
    obtain ⟨lateBefore, lateFile, lateSize, late, lateAnswer⟩ := answer_settings secondFound later
    rw [List.append_assoc, List.cons_append] at lateAnswer
    have reached : (past ++ .settings one :: between) ++ [.settings other] =
        (past ++ [.settings one]) ++ (between ++ [.settings other]) := by simp
    have keeps : ¬ (CacheStep.settings other).Drops first.identifier := id
    rw [firstNamed] at early
    rw [secondNamed, reached] at late
    refine ⟨_, _, size, lateSize, answer, lateAnswer, ?_⟩
    rw [clock_eq_iff early late]
    simp [or_imp, forall_and, keeps]
  contains := by
    rintro past identifier later rfl
    refine ⟨((start files).after past).cache.contains identifier, _, getElem?_run _ _ _ _, ?_⟩
    rw [SettingsCache.contains, KeyedList.contains, ← KeyedList.mem_keys_iff, mem_keys_after_iff]
  size := by
    rintro past step later rfl
    have answer := getElem?_run (start files) past step later
    have size : ((start files).after (past ++ [step])).cache.size =
        ((start files).after (past ++ [step])).cache.readings.keys.length :=
      (List.length_map _).symm
    rw [size] at answer
    exact ⟨_, _, ((start files).after (past ++ [step])).cache.readings.nodup,
      mem_keys_after_iff _, answer⟩
  invalidateAbsent := fun _ _ _ _ absent => idle_invalidate absent
  clearAbsent := fun _ _ _ absent => idle_clear absent
  others := fun _ _ _ _ _ _ concerns different => get?_step_of_concerns concerns different

/-- Two files with one identifier, of which the second silences its first line. -/
def sharedIdentifier : KeyedList String SourceFile :=
  .ofList [("plain.c", ⟨"a.c", [], []⟩), ("silent.c", ⟨"a.c", [], [⟨1, "// declint:suppress"⟩]⟩)]

example : ∃ reading, ((start sharedIdentifier).run
      [.lint "silent.c", .settings "plain.c", .clear, .settings "plain.c"])[1]? =
        some (.reading reading, 1) ∧
    reading.settings.isSuppressed 1 "high_ncss" = true :=
  ⟨_, rfl, by decide⟩

end CacheSession
end DeclarationLint
