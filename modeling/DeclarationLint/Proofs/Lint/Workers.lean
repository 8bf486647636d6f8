import DeclarationLint.LintPaths.Workers
import DeclarationLint.Proofs.Lint.History
import DeclarationLint.Proofs.Lint.Loading
import DeclarationLint.Proofs.Pool

/-!
# Linting paths on any number of workers

To load a file has nothing to do with what is told on the way, and to apply a rule through a sound
cache gives what it gives without one. So both pools settle on what one worker comes to alone, and a
run over paths has one result for all numbers of workers.
-/
namespace DeclarationLint

variable {workers : Nat}

section Loading

variable (disk : Disk) (parser : Parser) (paths : List Path)

theorem carryOutAll_loadingJobs :
    carryOutAll [] (loadingJobs disk parser paths) =
      (ParsedFile.loadAll disk parser paths).result := by
  let load : Path → Except Fault (Option ParsedFile) := fun path =>
    (ParsedFile.load disk parser path).result
  have jobs : (loadingJobs disk parser paths).mapM (carryOut []) =
      (paths.mapM load).map (List.map Option.toList) :=
    mapM_map fun path _ => carryOut_singleton _
  rw [carryOutAll, jobs, ParsedFile.loadAll, Journal.result_bind, Journal.result_mapM]
  change _ = paths.mapM load >>= _
  cases paths.mapM load with
  | error fault => rfl
  | ok loaded => exact congrArg Except.ok (List.filterMap_eq_flatMap_toList id loaded).symm

/-- Any number of workers loads what one worker loads. -/
theorem settles_loading (someone : 1 ≤ workers) (told : List Notice) :
    Pool.Settles workers (.start told (loadingJobs disk parser paths))
      (ParsedFile.loadAll disk parser paths).result := by
  have steady : ∀ actions ∈ loadingJobs disk parser paths, ∀ action ∈ actions,
      Action.Steady (fun _ => True) [] action := by
    intro actions member action inJob
    obtain ⟨path, -, rfl⟩ := List.mem_map.mp member
    rw [List.mem_singleton.mp inJob]
    exact fun _ _ => ⟨rfl, trivial⟩
  rw [← carryOutAll_loadingJobs]
  exact Pool.settles_start someone trivial steady

end Loading

section Linting

variable {files : List SourceFile} {config : Config} {cache : SettingsCache}

theorem result_collect {α : Type} (expected : α → Journal Event Fault (List Issue))
    (items : List α) :
    (collect (items.map expected)).result =
      (items.mapM fun item => (expected item).result).map List.flatten := by
  induction items with
  | nil => rfl
  | cons item rest ih =>
    cases ended : (expected item).result with
    | error fault =>
      rw [List.map_cons, collect_cons_of_error ended, ended,
        mapM_cons_of_error (f := fun item => (expected item).result) ended]
      rfl
    | ok issues =>
      rw [List.map_cons, collect_cons_of_ok ended, ih,
        mapM_cons_of_ok (f := fun item => (expected item).result) ended]
      cases rest.mapM fun item => (expected item).result <;> rfl

theorem carryOutAll_lintingJobs (config : Config) (files : List SourceFile) :
    carryOutAll .empty (lintingJobs config files) = (lintFilesAfresh config files).result := by
  have job : ∀ file, carryOut .empty (config.rules.map fun rule cache =>
      ((rule.run config.runSettings cache file).1,
        (rule.run config.runSettings cache file).2.result)) =
      (lintFileAfresh config file).result := by
    intro file
    rw [lintFileAfresh, result_collect, carryOut, List.mapM_map]
    rfl
  rw [lintFilesAfresh, result_collect, carryOutAll, lintingJobs, List.mapM_map]
  simp only [← job]
  rfl

/-- Any number of workers finds what one worker finds. -/
theorem settles_linting (someone : 1 ≤ workers) (consistent : SameComments files)
    (sound : cache.Sound files) (config : Config) :
    Pool.Settles workers (.start cache (lintingJobs config files))
      (lintFiles config files cache).2.result := by
  rw [(lintFiles_yields consistent (fun _ member => member) config cache sound).1,
    ← carryOutAll_lintingJobs]
  refine Pool.settles_start someone sound ?_
  intro actions member action inJob
  obtain ⟨file, inFiles, rfl⟩ := List.mem_map.mp member
  obtain ⟨rule, -, rfl⟩ := List.mem_map.mp inJob
  intro state soundState
  -- The rule may read the settings through the cache, but it sees what it would see afresh.
  obtain ⟨ends, soundAfter⟩ :=
    run_yields consistent inFiles rule config.runSettings state soundState
  exact ⟨congrArg Journal.result ends, soundAfter⟩

end Linting

/-- A run over paths comes to what it comes to on one worker, whose files have the same comments if
they have the same identifier. -/
theorem lintsTo_iff {config : Config} {disk : Disk} {parser : Parser} {paths : List Path}
    {result : Except Fault LintResult}
    (consistent : ∀ files, (ParsedFile.loadAll disk parser paths).result = .ok files →
      SameComments (files.map ParsedFile.source)) :
    LintsTo config disk parser workers paths .empty result ↔
      result = (lintPaths config disk parser paths .empty).linted.result := by
  have loading : ∀ loaded, 1 < workers →
      (Pool.Yields workers [] (loadingJobs disk parser paths) loaded ↔
        loaded = (ParsedFile.loadAll disk parser paths).result) :=
    fun loaded several => (settles_loading disk parser paths (by omega) []).yields_iff
  have linting : ∀ files, (ParsedFile.loadAll disk parser paths).result = .ok files →
      ∀ linted, 1 < workers →
        (Pool.Yields workers .empty (lintingJobs config (files.map ParsedFile.source)) linted ↔
          linted = (lintFiles config (files.map ParsedFile.source) .empty).2.result) :=
    fun files loaded linted several => (settles_linting (by omega) (consistent files loaded)
      (SettingsCache.sound_empty _) config).yields_iff
  constructor
  · intro lints
    cases lints with
    | alone => rfl
    | unloaded several loaded =>
      rw [lintPaths_of_error ((loading _ several).mp loaded).symm]
    | @loaded files found several loaded linted =>
      have ended := ((loading _ several).mp loaded).symm
      rw [lintPaths_of_ok ended, (linting files ended found several).mp linted]
  · rintro rfl
    by_cases several : 1 < workers
    · cases outcome : (ParsedFile.loadAll disk parser paths).result with
      | error fault =>
        rw [lintPaths_of_error outcome]
        exact .unloaded several ((loading _ several).mpr outcome.symm)
      | ok files =>
        rw [lintPaths_of_ok outcome]
        exact .loaded several ((loading _ several).mpr outcome.symm)
          ((linting files outcome _ several).mpr rfl)
    · exact .alone (by omega)

end DeclarationLint
