import DeclarationLint.Lint
import DeclarationLint.Proofs.Settings.Cache
import DeclarationLint.Rule.Scripted

/-!
# Runs that share a cache

One cache may serve any number of runs, one after the other, and outlives the runs that fail.
If files with one identifier carry the same comments, it makes no difference to any run: each
one ends as if every rule had read the comments of every file for itself. The invariant that
carries this through rules, files and runs is that the cache is sound; a stage that fails keeps
it as well as one that succeeds.
-/
namespace DeclarationLint

/-- The issues of several checks together, up to the first fault. -/
def collect : List (Journal Event Fault (List Issue)) → Journal Event Fault (List Issue)
  | [] => pure []
  | first :: rest => do
    let issues ← first
    let others ← collect rest
    pure (issues ++ others)

/-- Every rule on one file, each with settings that it reads for itself. -/
def lintFileAfresh (config : Config) (file : SourceFile) : Journal Event Fault (List Issue) :=
  collect (config.rules.map fun rule => (rule.run config.runSettings .empty file).2)

def lintFilesAfresh (config : Config) (files : List SourceFile) :
    Journal Event Fault (List Issue) :=
  collect (files.map (lintFileAfresh config))

/-- A run over a list of files. -/
structure LintRun where
  config : Config
  files : List SourceFile

namespace LintRun

def stage (run : LintRun) : Stage := lintFiles run.config run.files

def afresh (run : LintRun) : Journal Event Fault (List Issue) :=
  lintFilesAfresh run.config run.files

/-- How each run of a history ends, when all of them share one cache. -/
def outcomes : List LintRun → SettingsCache → List (Journal Event Fault (List Issue))
  | [], _ => []
  | run :: rest, cache => (run.stage cache).2 :: outcomes rest (run.stage cache).1

def cacheAfter (runs : List LintRun) (cache : SettingsCache) : SettingsCache :=
  runs.foldl (fun before run => (run.stage before).1) cache

end LintRun

/-- From any sound cache the stage ends in the given way, and it leaves the cache sound. -/
def Stage.Yields (files : List SourceFile) (stage : Stage)
    (expected : Journal Event Fault (List Issue)) : Prop :=
  ∀ cache : SettingsCache, cache.Sound files →
    (stage cache).2 = expected ∧ (stage cache).1.Sound files

theorem collect_cons_of_error {first : Journal Event Fault (List Issue)} {fault : Fault}
    (failed : first.result = .error fault) (rest : List (Journal Event Fault (List Issue))) :
    collect (first :: rest) = first := by
  obtain ⟨entries, result⟩ := first
  cases failed
  rfl

theorem collect_cons_of_ok {first : Journal Event Fault (List Issue)} {issues : List Issue}
    (success : first.result = .ok issues) (rest : List (Journal Event Fault (List Issue))) :
    collect (first :: rest) =
      ⟨first.entries ++ (collect rest).entries, (collect rest).result.map (issues ++ ·)⟩ := by
  rw [collect, Journal.bind_of_ok success]
  cases others : (collect rest).result with
  | error fault =>
    rw [Journal.bind_of_error others]
    rfl
  | ok found =>
    rw [Journal.bind_of_ok others]
    simp [Except.map]

/-- Stages in a row end as expected if each does so whenever an invariant holds of the items before
it and the cache, and keeps the invariant, however it ends. -/
theorem runStages_of_invariant {α : Type} {stage : α → Stage}
    {expected : α → Journal Event Fault (List Issue)}
    {holds : List α → SettingsCache → Prop} {items : List α}
    (step : ∀ before item after, items = before ++ item :: after → ∀ cache, holds before cache →
      (stage item cache).2 = expected item ∧ holds (before ++ [item]) (stage item cache).1)
    {before after : List α} (split : items = before ++ after) {cache : SettingsCache}
    (start : holds before cache) :
    (runStages (after.map stage) cache).2 = collect (after.map expected) ∧
      ∃ met, holds met (runStages (after.map stage) cache).1 := by
  induction after generalizing before cache with
  | nil => exact ⟨rfl, before, start⟩
  | cons item rest ih =>
    obtain ⟨ends, kept⟩ := step before item rest split cache start
    have others := ih (by rw [split, List.append_assoc, List.singleton_append]) kept
    rw [List.map_cons, List.map_cons, runStages]
    rcases run : stage item cache with ⟨left, events, fault | issues⟩
    · rw [run] at ends kept
      have failed : (expected item).result = .error fault := by rw [← ends]
      rw [collect_cons_of_error failed]
      exact ⟨ends, _, kept⟩
    · rw [run] at ends others
      have success : (expected item).result = .ok issues := by rw [← ends]
      obtain ⟨endsRest, keptRest⟩ := others
      rw [collect_cons_of_ok success, ← endsRest, ← ends]
      exact ⟨rfl, keptRest⟩

/-- Stages that keep a cache sound can be put in a row. -/
theorem runStages_yields {α : Type} {files : List SourceFile} {stage : α → Stage}
    {expected : α → Journal Event Fault (List Issue)} {items : List α}
    (each : ∀ item ∈ items, Stage.Yields files (stage item) (expected item)) :
    Stage.Yields files (runStages (items.map stage)) (collect (items.map expected)) := by
  have step : ∀ (before : List α) (item : α) (after : List α), items = before ++ item :: after →
      ∀ cache : SettingsCache, cache.Sound files →
        (stage item cache).2 = expected item ∧ (stage item cache).1.Sound files := by
    intro before item after split
    exact each item (by simp [split])
  intro cache sound
  obtain ⟨ends, -, soundAfter⟩ := runStages_of_invariant step (List.nil_append _).symm sound
  exact ⟨ends, soundAfter⟩

/-- A rule sees the same settings through a sound cache as by reading the file itself. -/
theorem run_yields {files : List SourceFile} (consistent : SameComments files)
    {file : SourceFile} (member : file ∈ files) (rule : Rule) (runSettings : RunSettings) :
    Stage.Yields files (fun cache => rule.run runSettings cache file)
      (rule.run runSettings .empty file).2 := by
  intro cache sound
  obtain ⟨settings, soundAfter⟩ := sound.settingsFor consistent member
  refine ⟨?_, soundAfter⟩
  change rule.check runSettings (cache.settingsFor file).1.settings file =
    rule.check runSettings (Settings.ofFile file) file
  rw [settings]

theorem lintFile_yields {files : List SourceFile} (consistent : SameComments files)
    {file : SourceFile} (member : file ∈ files) (config : Config) :
    Stage.Yields files (lintFile config file) (lintFileAfresh config file) :=
  runStages_yields fun rule _ => run_yields consistent member rule config.runSettings

theorem lintFiles_yields {files : List SourceFile} (consistent : SameComments files)
    {linted : List SourceFile} (members : ∀ file ∈ linted, file ∈ files) (config : Config) :
    Stage.Yields files (lintFiles config linted) (lintFilesAfresh config linted) :=
  runStages_yields fun file member => lintFile_yields consistent (members file member) config

namespace LintRun

theorem sound_cacheAfter {files : List SourceFile} (consistent : SameComments files)
    {runs : List LintRun} (members : ∀ run ∈ runs, ∀ file ∈ run.files, file ∈ files)
    {cache : SettingsCache} (sound : cache.Sound files) :
    (cacheAfter runs cache).Sound files := by
  induction runs generalizing cache with
  | nil => exact sound
  | cons run rest ih =>
    have first := lintFiles_yields consistent (members run (by simp)) run.config cache sound
    exact ih (fun later member => members later (by simp [member])) first.2

theorem outcomes_eq {files : List SourceFile} (consistent : SameComments files)
    {runs : List LintRun} (members : ∀ run ∈ runs, ∀ file ∈ run.files, file ∈ files)
    {cache : SettingsCache} (sound : cache.Sound files) :
    outcomes runs cache = runs.map afresh := by
  induction runs generalizing cache with
  | nil => rfl
  | cons run rest ih =>
    have first := lintFiles_yields consistent (members run (by simp)) run.config cache sound
    have others := ih (fun later member => members later (by simp [member])) first.2
    rw [outcomes, List.map_cons]
    exact congrArg₂ List.cons first.1 others

end LintRun

theorem collect_map_ok {α : Type} {expected : α → Journal Event Fault (List Issue)}
    {block : α → List Issue} {items : List α}
    (success : ∀ item ∈ items, (expected item).result = .ok (block item)) :
    (collect (items.map expected)).result = .ok (items.flatMap block) := by
  induction items with
  | nil => rfl
  | cons item rest ih =>
    have first := success item (by simp)
    have others := ih fun later member => success later (by simp [member])
    rw [List.map_cons, collect_cons_of_ok first, others]
    rfl

/-- Checks that all succeed have one block of issues each. -/
theorem exists_blocks {α : Type} {expected : α → Journal Event Fault (List Issue)}
    {items : List α} {issues : List Issue}
    (success : (collect (items.map expected)).result = .ok issues) :
    ∃ block : α → List Issue,
      (∀ item ∈ items, (expected item).result = .ok (block item)) ∧
        issues = items.flatMap block := by
  have each : ∀ item ∈ items, (expected item).result =
      .ok ((expected item).result.toOption.getD []) := by
    induction items generalizing issues with
    | nil => simp
    | cons item rest ih =>
      rw [List.map_cons] at success
      cases first : (expected item).result with
      | error fault =>
        rw [collect_cons_of_error first, first] at success
        cases success
      | ok found =>
        rw [collect_cons_of_ok first] at success
        cases others : (collect (rest.map expected)).result with
        | error fault =>
          rw [others] at success
          cases success
        | ok more =>
          intro later member
          rcases List.mem_cons.mp member with same | member
          · rw [same, first]
            rfl
          · exact ih others later member
  refine ⟨fun item => (expected item).result.toOption.getD [], each, ?_⟩
  have together := collect_map_ok each
  rw [success] at together
  cases together
  rfl

/-- Whatever runs came before and however they ended, a run that shares their cache ends as it
would without one. The issues of a run that succeeds are one block for each of its files, and
the files in another order give the same blocks in that order. -/
theorem history_without_cache (history : List LintRun)
    (consistent : SameComments (history.flatMap LintRun.files)) :
    LintRun.outcomes history .empty = history.map LintRun.afresh ∧
      ∀ earlier run later, history = earlier ++ run :: later →
        ∀ issues, (run.stage (LintRun.cacheAfter earlier .empty)).2.result = .ok issues →
          ∃ block : SourceFile → List Issue,
            (∀ file ∈ run.files, (lintFileAfresh run.config file).result = .ok (block file)) ∧
            issues = run.files.flatMap block ∧
            ∀ reordered, reordered.Perm run.files →
              (lintFiles run.config reordered (LintRun.cacheAfter earlier .empty)).2.result =
                .ok (reordered.flatMap block) := by
  have members : ∀ run ∈ history, ∀ file ∈ run.files, file ∈ history.flatMap LintRun.files :=
    fun run member file inRun => List.mem_flatMap.mpr ⟨run, member, inRun⟩
  have initial := SettingsCache.sound_empty (history.flatMap LintRun.files)
  refine ⟨LintRun.outcomes_eq consistent members initial, ?_⟩
  intro earlier run later position issues success
  have earlierMember : ∀ other ∈ earlier, other ∈ history := by
    intro other member
    simp [position, member]
  have runMember : run ∈ history := by simp [position]
  have sound := LintRun.sound_cacheAfter consistent
    (fun other member => members other (earlierMember other member)) initial
  -- The soundness of the cache is all that the runs before are needed for.
  have ends := lintFiles_yields consistent (members run runMember) run.config _ sound
  rw [LintRun.stage, ends.1] at success
  obtain ⟨block, each, blocks⟩ := exists_blocks success
  refine ⟨block, each, blocks, ?_⟩
  intro reordered permuted
  have same : ∀ file ∈ reordered, file ∈ run.files :=
    fun file member => permuted.mem_iff.mp member
  have endsReordered := lintFiles_yields consistent
    (fun file member => members run runMember file (same file member)) run.config _ sound
  rw [endsReordered.1]
  exact collect_map_ok fun file member => each file (same file member)

/-- A file whose only function has the given name. Its comment silences the rule `quiet`. -/
def fileWithFunction (name : String) : SourceFile where
  identifier := "a.c"
  declarations := [⟨.function, name, .between "a.c" 1 1 1 2, none, []⟩]
  comments := [⟨1, "// declint:suppress(quiet)"⟩]

/-- A rule that reports every function but gives up at the names listed. -/
def functionRule (identifier : String) (faulty : List String) : Rule :=
  RuleScript.rule
    ⟨identifier, .minor, .naming, ["function"], [], faulty, none, none, false⟩

def twoRules : Config := ⟨[functionRule "quiet" [], functionRule "loud" ["g"]], .empty, by decide⟩

/-- The first run fails in the middle of its second file. -/
def interruptedHistory : List LintRun :=
  [⟨twoRules, [fileWithFunction "f", fileWithFunction "g"]⟩,
    ⟨twoRules, [fileWithFunction "h", fileWithFunction "f"]⟩]

theorem history_without_cache_interrupted :
    SameComments (interruptedHistory.flatMap LintRun.files) ∧
      (interruptedHistory.map fun run => run.afresh.result.toOption.map (·.map Issue.description)) =
        [none, some ["saw h", "saw f"]] ∧
      LintRun.outcomes interruptedHistory .empty = interruptedHistory.map LintRun.afresh ∧
      ∃ block : SourceFile → List Issue,
        (lintFiles twoRules [fileWithFunction "f", fileWithFunction "h"]
            (LintRun.cacheAfter (interruptedHistory.take 1) .empty)).2.result =
          .ok ([fileWithFunction "f", fileWithFunction "h"].flatMap block) := by
  have consistent : SameComments (interruptedHistory.flatMap LintRun.files) := by
    have comments : ∀ file ∈ interruptedHistory.flatMap LintRun.files,
        file.comments = [⟨1, "// declint:suppress(quiet)"⟩] := by
      simp [interruptedHistory, fileWithFunction]
    intro first firstMember second secondMember _
    rw [comments first firstMember, comments second secondMember]
  have transparent := history_without_cache interruptedHistory consistent
  obtain ⟨block, -, -, permuted⟩ := transparent.2 (interruptedHistory.take 1)
    ⟨twoRules, [fileWithFunction "h", fileWithFunction "f"]⟩ [] rfl _ rfl
  have reordered := permuted [fileWithFunction "f", fileWithFunction "h"] (List.Perm.swap _ _ _)
  exact ⟨consistent, rfl, transparent.1, block, reordered⟩

end DeclarationLint
