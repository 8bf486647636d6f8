import DeclarationLint.Proofs.Lint.Locality

/-!
# Rules do not interfere

All rules of a run share one cache, and of several files with one identifier the first decides
what the cache holds for all of them. Which file that is does not depend on the rules. So a rule
finds in a file what it finds there without the other rules, and the issues of a run fall into one
block for each file and rule. The nested loops of a run are taken as one loop over its checks,
and the invariant of this loop says exactly what the cache remembers after the files it has met.
-/
namespace DeclarationLint

namespace Stage

/-- One stage after another, which is left out if the first one fails. -/
def andThen (first second : Stage) : Stage := fun cache =>
  match first cache with
  | (after, ⟨events, .error fault⟩) => (after, ⟨events, .error fault⟩)
  | (after, ⟨events, .ok issues⟩) =>
    let (last, others) := second after
    (last, ⟨events ++ others.entries, others.result.map (issues ++ ·)⟩)

theorem andThen_of_error {first : Stage} {cache after : SettingsCache} {events : List Event}
    {fault : Fault} (failed : first cache = (after, ⟨events, .error fault⟩)) (second : Stage) :
    first.andThen second cache = (after, ⟨events, .error fault⟩) := by
  rw [andThen, failed]

theorem andThen_of_ok {first : Stage} {cache after : SettingsCache} {events : List Event}
    {issues : List Issue} (success : first cache = (after, ⟨events, .ok issues⟩))
    (second : Stage) :
    first.andThen second cache =
      ((second after).1,
        ⟨events ++ (second after).2.entries, (second after).2.result.map (issues ++ ·)⟩) := by
  rw [andThen, success]

theorem andThen_assoc (first second third : Stage) :
    (first.andThen second).andThen third = first.andThen (second.andThen third) := by
  funext cache
  rcases one : first cache with ⟨middle, events, fault | issues⟩
  · rw [andThen_of_error one, andThen_of_error (andThen_of_error one second)]
  · rw [andThen_of_ok one]
    have both := andThen_of_ok one second
    rcases two : second middle with ⟨after, others, fault | found⟩
    · rw [two] at both
      rw [andThen_of_error both, andThen_of_error two]
      rfl
    · rw [two] at both
      rw [andThen_of_ok both, andThen_of_ok two]
      cases (third after).2.result <;> simp [Except.map]

theorem nil_andThen (second : Stage) : Stage.andThen (runStages []) second = second := by
  funext cache
  rw [andThen_of_ok rfl]
  rcases second cache with ⟨after, events, fault | issues⟩ <;> rfl

end Stage

theorem runStages_append (first second : List Stage) :
    runStages (first ++ second) = Stage.andThen (runStages first) (runStages second) := by
  induction first with
  | nil => exact (Stage.nil_andThen _).symm
  | cons stage rest ih =>
    change Stage.andThen stage (runStages (rest ++ second)) =
      Stage.andThen (Stage.andThen stage (runStages rest)) (runStages second)
    rw [ih, Stage.andThen_assoc]

/-- Rows of stages in a row are one row. -/
theorem runStages_flatMap {α : Type} (stages : α → List Stage) (items : List α) :
    runStages (items.map fun item => runStages (stages item)) =
      runStages (items.flatMap stages) := by
  induction items with
  | nil => rfl
  | cons item rest ih =>
    rw [List.flatMap_cons, runStages_append, ← ih]
    rfl

/-- The first file with the identifier of the given one. Its comments decide for all of them. -/
def firstOf (files : List SourceFile) (file : SourceFile) : SourceFile :=
  (files.find? (·.identifier = file.identifier)).getD file

theorem firstOf_append_cons (before after : List SourceFile) (file : SourceFile) :
    firstOf (before ++ file :: after) file = firstOf before file := by
  rw [firstOf, firstOf, List.find?_append, List.find?_cons_of_pos (by simp)]
  cases before.find? (·.identifier = file.identifier) <;> rfl

namespace SettingsCache

/-- The cache holds the settings of the first file with each identifier, and nothing else. -/
def Holds (files : List SourceFile) (cache : SettingsCache) : Prop :=
  ∀ identifier, (cache.readings.get? identifier).map Reading.settings =
    (files.find? (·.identifier = identifier)).map Settings.ofFile

theorem holds_empty : empty.Holds [] := fun _ => rfl

/-- To ask for the settings of a file is to meet it. -/
theorem Holds.settingsFor {files : List SourceFile} {cache : SettingsCache}
    (holds : cache.Holds files) (file : SourceFile) :
    (cache.settingsFor file).1.settings = .ofFile (firstOf files file) ∧
      (cache.settingsFor file).2.Holds (files ++ [file]) := by
  have known := holds file.identifier
  cases remembered : cache.readings.get? file.identifier with
  | some reading =>
    rw [remembered, Option.map_some, eq_comm, Option.map_eq_some_iff] at known
    obtain ⟨first, found, settings⟩ := known
    rw [settingsFor_of_some remembered, firstOf, found]
    refine ⟨settings.symm, fun identifier => ?_⟩
    rw [holds identifier, List.find?_append]
    by_cases same : file.identifier = identifier
    · rw [← same, found]
      rfl
    · rw [List.find?_cons_of_neg (by simpa using same), List.find?_nil, Option.or_none]
  | none =>
    rw [remembered, Option.map_none, eq_comm, Option.map_eq_none_iff] at known
    rw [settingsFor_of_none remembered, firstOf, known]
    refine ⟨rfl, fun identifier => ?_⟩
    change ((cache.readings.insert _ _).get? identifier).map _ = _
    rw [KeyedList.get?_insert, List.find?_append]
    by_cases same : file.identifier = identifier
    · rw [if_pos same, ← same, known, List.find?_cons_of_pos (by simp)]
      rfl
    · rw [if_neg same, holds identifier, List.find?_cons_of_neg (by simpa using same),
        List.find?_nil, Option.or_none]

end SettingsCache

namespace Config

/-- The checks that a run consists of, in order. -/
def checks (config : Config) (files : List SourceFile) : List (SourceFile × Rule) :=
  files.flatMap fun file => config.rules.map fun rule => (file, rule)

/-- The configuration with a single rule. -/
def narrowed (config : Config) (rule : Rule) : Config :=
  ⟨[rule], config.runSettings, List.nodup_singleton _⟩

theorem mem_checks {config : Config} {files : List SourceFile} {check : SourceFile × Rule} :
    check ∈ config.checks files ↔ check.1 ∈ files ∧ check.2 ∈ config.rules := by
  simp only [checks, List.mem_flatMap, List.mem_map]
  constructor
  · rintro ⟨file, inFiles, rule, inRules, rfl⟩
    exact ⟨inFiles, inRules⟩
  · rintro ⟨inFiles, inRules⟩
    exact ⟨check.1, inFiles, check.2, inRules, rfl⟩

theorem find?_checks {config : Config} (enabled : config.rules ≠ []) (p : SourceFile → Bool)
    (files : List SourceFile) :
    ((config.checks files).map Prod.fst).find? p = files.find? p := by
  obtain ⟨rule, others, rules⟩ := List.exists_cons_of_ne_nil enabled
  induction files with
  | nil => rfl
  | cons file rest ih =>
    change List.find? p (((config.rules.map fun rule => (file, rule)) ++
      config.checks rest).map Prod.fst) = _
    rw [List.map_append, List.find?_append, ih]
    by_cases found : p file = true
    · rw [rules, List.map_cons, List.map_cons, List.find?_cons_of_pos found, Option.some_or,
        List.find?_cons_of_pos found]
    · have copies : ((config.rules.map fun rule => (file, rule)).map Prod.fst).find? p = none := by
        simp [found]
      rw [copies, Option.none_or, List.find?_cons_of_neg found]

theorem firstOf_checks {config : Config} {files : List SourceFile} {check : SourceFile × Rule}
    (member : check ∈ config.checks files) :
    firstOf ((config.checks files).map Prod.fst) check.1 = firstOf files check.1 := by
  have enabled : config.rules ≠ [] := by
    intro none
    simp [checks, none] at member
  rw [firstOf, firstOf, find?_checks enabled]

theorem flatMap_checks {α : Type} (config : Config) (files : List SourceFile)
    (block : SourceFile × Rule → List α) :
    (config.checks files).flatMap block =
      files.flatMap fun file => config.rules.flatMap fun rule => block (file, rule) := by
  rw [checks, List.flatMap_assoc]
  simp only [List.flatMap_map]

end Config

/-- The nested loops of a run are one loop over its checks. -/
theorem lintFiles_eq_runStages (config : Config) (files : List SourceFile) :
    lintFiles config files =
      runStages ((config.checks files).map fun check cache =>
        check.2.run config.runSettings cache check.1) := by
  rw [Config.checks, List.map_flatMap, ← runStages_flatMap]
  simp only [List.map_map]
  rfl

/-- What a check comes to in a run over the given files. -/
def Config.checkAmong (config : Config) (files : List SourceFile) (check : SourceFile × Rule) :
    Journal Event Fault (List Issue) :=
  check.2.check config.runSettings (.ofFile (firstOf files check.1)) check.1

/-- Every rule checks a file with the settings of the first file that has its identifier. -/
theorem lintFiles_eq_collect (config : Config) (files : List SourceFile) :
    (lintFiles config files .empty).2 =
      collect ((config.checks files).map (config.checkAmong files)) := by
  have step : ∀ (before : List (SourceFile × Rule)) (check : SourceFile × Rule)
      (after : List (SourceFile × Rule)), config.checks files = before ++ check :: after →
        ∀ cache : SettingsCache, cache.Holds (before.map Prod.fst) →
          (check.2.run config.runSettings cache check.1).2 = config.checkAmong files check ∧
            (check.2.run config.runSettings cache check.1).1.Holds
              ((before ++ [check]).map Prod.fst) := by
    intro before check after split cache holds
    obtain ⟨settings, holdsAfter⟩ := holds.settingsFor check.1
    have member : check ∈ config.checks files := by simp [split]
    -- The first file with this identifier has been met before, or else it is the file itself.
    have first := Config.firstOf_checks member
    rw [split, List.map_append, List.map_cons, firstOf_append_cons] at first
    rw [List.map_append]
    refine ⟨?_, holdsAfter⟩
    change check.2.check _ (cache.settingsFor check.1).1.settings check.1 = _
    rw [settings, first]
    rfl
  rw [lintFiles_eq_runStages]
  exact (runStages_of_invariant step (List.nil_append _).symm SettingsCache.holds_empty).1

namespace Rule

variable {rule : Rule} {settings : Settings} {runSettings : RunSettings}

/-- Whatever a visit reports is an issue of the rule. -/
theorem rule_of_mem_visitOne {declaration : Declaration} {finding : Finding}
    (written : finding ∈ (rule.visitOne settings runSettings declaration).entries) :
    ∀ issue ∈ finding.issue?, issue.rule = rule.identifier := by
  rw [visitOne_eq] at written
  have owned : ∀ performed ∈ (rule.perform ⟨settings, runSettings, some declaration⟩
      (rule.visit declaration)).entries,
        ∀ issue ∈ performed.issue?, issue.rule = rule.identifier := by
    apply forall_mem_perform
    · intro event issue reported
      cases reported
    · intro report issue reported
      obtain rfl := Option.some.inj reported
      rfl
  rcases List.mem_cons.mp written with rfl | performed
  · intro issue reported
    cases reported
  · exact owned finding performed

theorem rule_of_mem_check {file : SourceFile} {issues : List Issue}
    (success : (rule.check runSettings settings file).result = .ok issues) {issue : Issue}
    (member : issue ∈ issues) : issue.rule = rule.identifier := by
  rw [(check_ok success).2] at member
  obtain ⟨declaration, -, found⟩ := List.mem_flatMap.mp member
  obtain ⟨finding, written, isIssue⟩ := List.mem_filterMap.mp found
  exact rule_of_mem_visitOne written issue isIssue

end Rule

/-- Of blocks that belong to the rules one by one, the issues of a rule are its own block. -/
theorem filter_flatMap_rules {rules : List Rule}
    (distinct : (rules.map Rule.identifier).Nodup) {block : Rule → List Issue}
    (owned : ∀ rule ∈ rules, ∀ issue ∈ block rule, issue.rule = rule.identifier)
    {rule : Rule} (member : rule ∈ rules) :
    (rules.flatMap block).filter (·.rule = rule.identifier) = block rule := by
  induction rules with
  | nil => cases member
  | cons head rest ih =>
    rw [List.map_cons, List.nodup_cons] at distinct
    obtain ⟨fresh, distinct⟩ := distinct
    have ownedRest : ∀ later ∈ rest, ∀ issue ∈ block later, issue.rule = later.identifier :=
      fun later inRest => owned later (by simp [inRest])
    rw [List.flatMap_cons, List.filter_append]
    rcases List.mem_cons.mp member with rfl | later
    · have own : (block rule).filter (·.rule = rule.identifier) = block rule :=
        List.filter_eq_self.mpr fun issue found => by simp [owned rule (by simp) issue found]
      have others : (rest.flatMap block).filter (·.rule = rule.identifier) = [] := by
        refine List.filter_eq_nil_iff.mpr fun issue found => ?_
        obtain ⟨other, inRest, found⟩ := List.mem_flatMap.mp found
        rw [ownedRest other inRest issue found, decide_eq_true_eq]
        exact fun same => fresh (List.mem_map.mpr ⟨other, inRest, same⟩)
      rw [own, others, List.append_nil]
    · have foreign : (block head).filter (·.rule = rule.identifier) = [] := by
        refine List.filter_eq_nil_iff.mpr fun issue found => ?_
        rw [owned head (by simp) issue found, decide_eq_true_eq]
        exact fun same => fresh (List.mem_map.mpr ⟨rule, later, same.symm⟩)
      rw [foreign, List.nil_append, ih distinct ownedRest later]

/-- Some of the rules of a run, in any order, find on their own what they find in the run. -/
theorem lintFiles_of_subset {config : Config} {files : List SourceFile}
    {block : SourceFile × Rule → List Issue}
    (each : ∀ check ∈ config.checks files,
      (config.checkAmong files check).result = .ok (block check))
    (other : Config) (rules : other.rules ⊆ config.rules)
    (runSettings : other.runSettings = config.runSettings) :
    (lintFiles other files .empty).2.result =
      .ok (files.flatMap fun file => other.rules.flatMap fun rule => block (file, rule)) := by
  rw [lintFiles_eq_collect, ← Config.flatMap_checks]
  refine collect_map_ok fun check member => ?_
  obtain ⟨inFiles, inRules⟩ := Config.mem_checks.mp member
  rw [Config.checkAmong, runSettings]
  exact each check (Config.mem_checks.mpr ⟨inFiles, rules inRules⟩)

/-- The issues of a run that returns are one block for each file and rule, file by file and in
each file rule by rule. The blocks of a rule are its issues in the run, and they are all that a run
of this rule alone finds. Any rules of the run, in any order, find the same blocks in that order. A
block is what the rule finds in the file with the settings of the first file that has the same
identifier. -/
theorem rules_do_not_interfere {config : Config} {files : List SourceFile} {issues : List Issue}
    (returned : (lintFiles config files .empty).2.result = .ok issues) :
    ∃ block : SourceFile → Rule → List Issue,
      issues = (files.flatMap fun file => config.rules.flatMap (block file)) ∧
      (∀ rule ∈ config.rules,
        issues.filter (·.rule = rule.identifier) = (files.flatMap fun file => block file rule) ∧
        (lintFiles (config.narrowed rule) files .empty).2.result =
          .ok (files.flatMap fun file => block file rule) ∧
        ∀ file ∈ files,
          (rule.check config.runSettings (.ofFile (firstOf files file)) file).result =
            .ok (block file rule)) ∧
      ∀ other : Config, other.rules ⊆ config.rules → other.runSettings = config.runSettings →
        (lintFiles other files .empty).2.result =
          .ok (files.flatMap fun file => other.rules.flatMap (block file)) := by
  rw [lintFiles_eq_collect] at returned
  obtain ⟨block, each, rfl⟩ := exists_blocks returned
  have checked : ∀ file ∈ files, ∀ rule ∈ config.rules,
      (rule.check config.runSettings (.ofFile (firstOf files file)) file).result =
        .ok (block (file, rule)) :=
    fun file inFiles rule inRules => each (file, rule) (Config.mem_checks.mpr ⟨inFiles, inRules⟩)
  refine ⟨fun file rule => block (file, rule), config.flatMap_checks files block, ?_, ?_⟩
  · intro rule inRules
    refine ⟨?_, ?_, fun file inFiles => checked file inFiles rule inRules⟩
    · rw [Config.flatMap_checks, List.filter_flatMap]
      refine List.flatMap_congr fun file inFiles => ?_
      apply filter_flatMap_rules config.nodup ?_ inRules
      exact fun other enabled _ found =>
        Rule.rule_of_mem_check (checked file inFiles other enabled) found
    · have alone := lintFiles_of_subset each (config.narrowed rule)
        (by simpa [Config.narrowed] using inRules) rfl
      simpa [Config.narrowed] using alone
  · exact lintFiles_of_subset each

/-- Two files with one identifier, of which the first decides that `loud` is silent on line 2. -/
def sharedIdentifier : List SourceFile :=
  [fileWithComments "a.c" [⟨2, "// declint:suppress(loud)"⟩],
    fileWithComments "a.c" [⟨5, "// declint:suppress"⟩]]

/-- The rules of `measuredAndNamed` in the other order. -/
def namedAndMeasured : Config :=
  ⟨[functionRule "loud" [], Rule.StatementCount.rule], .ofList [("NCSS", .integer 2)], by decide⟩

theorem rules_do_not_interfere_shared :
    ∃ issues, (lintFiles measuredAndNamed sharedIdentifier .empty).2.result = .ok issues ∧
      issues.map (fun issue => (issue.rule, issue.span.start.line)) =
        [("high_ncss", 2), ("high_ncss", 5), ("loud", 5),
          ("high_ncss", 2), ("high_ncss", 5), ("loud", 5)] ∧
      (lintFiles (measuredAndNamed.narrowed (functionRule "loud" [])) sharedIdentifier
          .empty).2.result = .ok (issues.filter (·.rule = "loud")) ∧
      (lintFiles namedAndMeasured sharedIdentifier .empty).2.result.map
          (·.map fun issue => (issue.rule, issue.span.start.line)) =
        .ok [("loud", 5), ("high_ncss", 2), ("high_ncss", 5),
          ("loud", 5), ("high_ncss", 2), ("high_ncss", 5)] ∧
      ∃ block : SourceFile → Rule → List Issue,
        (lintFiles namedAndMeasured sharedIdentifier .empty).2.result =
          .ok (sharedIdentifier.flatMap fun file => namedAndMeasured.rules.flatMap (block file)) := by
  have returned : (lintFiles measuredAndNamed sharedIdentifier .empty).2.result = .ok _ := rfl
  have swapped : namedAndMeasured.rules.Perm measuredAndNamed.rules := List.Perm.swap _ _ _
  obtain ⟨block, -, alone, reordered⟩ := rules_do_not_interfere returned
  obtain ⟨own, narrowed, -⟩ := alone (functionRule "loud" []) (by simp [measuredAndNamed])
  refine ⟨_, returned, rfl, ?_, rfl, block, reordered namedAndMeasured swapped.subset rfl⟩
  rw [narrowed, ← own]
  rfl

end DeclarationLint
