import DeclarationLint.CommandLine
import DeclarationLint.Proofs.FirstFailure
import DeclarationLint.Rule.Scripted
import Mathlib.Data.List.Nodup

/-!
# Selecting rules

A run can be narrowed to some rules of a configuration by naming them. An identifier that no rule
has is refused, the first one of several. The rules named make a configuration if and only if each
is named once: the narrowing keeps a rule as often as it is named, and a configuration takes no
rule twice.
-/
namespace DeclarationLint

/-- An identifier occurs again, and nothing has occurred twice before. -/
def IsFirstRepeated (identifiers : List String) (identifier : String) : Prop :=
  ∃ before after, identifiers = before ++ identifier :: after ∧ before.Nodup ∧ identifier ∈ before

theorem firstRepeated?_eq_some_iff {seen identifiers : List String} {identifier : String} :
    firstRepeated? seen identifiers = some identifier ↔
      ∃ before after, identifiers = before ++ identifier :: after ∧ before.Nodup ∧
        (∀ other ∈ before, other ∉ seen) ∧ (identifier ∈ before ∨ identifier ∈ seen) := by
  induction identifiers generalizing seen with
  | nil => simp [firstRepeated?]
  | cons head rest ih =>
    rw [firstRepeated?]
    by_cases old : head ∈ seen
    · rw [if_pos old]
      constructor
      · intro found
        obtain rfl := Option.some.inj found
        exact ⟨[], rest, rfl, List.nodup_nil, by simp, Or.inr old⟩
      · intro repeated
        obtain ⟨before, after, split, -, fresh, -⟩ := repeated
        cases before with
        | nil => rw [(List.cons.inj split).1]
        | cons first before =>
          rw [(List.cons.inj split).1] at old
          exact absurd old (fresh first (by simp))
    · rw [if_neg old, ih]
      constructor
      · intro repeated
        obtain ⟨before, after, split, nodup, fresh, again⟩ := repeated
        have absent : head ∉ before := by
          intro member
          exact fresh head member (by simp)
        refine ⟨head :: before, after, by rw [split, List.cons_append],
          List.nodup_cons.mpr ⟨absent, nodup⟩, ?_, ?_⟩
        · intro other member seenOther
          cases List.mem_cons.mp member with
          | inl same => exact old (same ▸ seenOther)
          | inr later => exact fresh other later (by simp [seenOther])
        · simpa [or_assoc, or_comm, or_left_comm] using again
      · intro repeated
        obtain ⟨before, after, split, nodup, fresh, again⟩ := repeated
        cases before with
        | nil =>
          obtain ⟨rfl, rfl⟩ := List.cons.inj split
          simp [old] at again
        | cons first before =>
          obtain ⟨rfl, rfl⟩ := List.cons.inj split
          obtain ⟨absent, nodup⟩ := List.nodup_cons.mp nodup
          refine ⟨before, after, rfl, nodup, ?_, ?_⟩
          · intro other member seenOther
            cases List.mem_cons.mp seenOther with
            | inl same => exact absent (same ▸ member)
            | inr earlier => exact fresh other (by simp [member]) earlier
          · simpa [or_assoc, or_comm, or_left_comm] using again

theorem firstRepeated?_nil_eq_some_iff {identifiers : List String} {identifier : String} :
    firstRepeated? [] identifiers = some identifier ↔ IsFirstRepeated identifiers identifier := by
  simp [firstRepeated?_eq_some_iff, IsFirstRepeated]

theorem IsFirstRepeated.not_nodup {identifiers : List String} {identifier : String}
    (repeated : IsFirstRepeated identifiers identifier) : ¬ identifiers.Nodup := by
  obtain ⟨before, after, split, -, again⟩ := repeated
  intro nodup
  rw [split] at nodup
  exact (List.nodup_append.mp nodup).2.2 identifier again identifier (by simp) rfl

namespace Config

variable {config : Config} {identifier : String} {rule : Rule}

/-- Some rule of the configuration has the identifier. -/
def Registers (config : Config) (identifier : String) : Prop :=
  identifier ∈ config.rules.map Rule.identifier

instance (config : Config) (identifier : String) : Decidable (config.Registers identifier) :=
  inferInstanceAs (Decidable (identifier ∈ config.rules.map Rule.identifier))

/-- The configuration with the rules named, and with the same settings. -/
def narrow (config : Config) (identifiers : List String) : Except ConfigError Config := do
  let rules ← config.enabledRules identifiers
  make rules config.runSettings

theorem rule_eq_ok_iff :
    config.rule identifier = .ok rule ↔ rule ∈ config.rules ∧ rule.identifier = identifier := by
  unfold Config.rule
  split
  · rename_i found known
    have member := List.mem_of_find?_eq_some known
    have named : found.identifier = identifier := by simpa using List.find?_some known
    rw [Except.ok.injEq]
    constructor
    · intro same
      exact same ▸ ⟨member, named⟩
    · intro chosen
      exact List.inj_on_of_nodup_map config.nodup member chosen.1 (named.trans chosen.2.symm)
  · rename_i unknown
    simp only [reduceCtorEq, false_iff, not_and]
    intro member
    simpa using List.find?_eq_none.mp unknown rule member

theorem rule_eq_error_iff {error : ConfigError} :
    config.rule identifier = .error error ↔
      ¬ config.Registers identifier ∧ error = .unknownRule identifier := by
  unfold Config.rule Registers
  split
  · rename_i found known
    have registered : identifier ∈ config.rules.map Rule.identifier := by
      apply List.mem_map.mpr
      exact ⟨found, List.mem_of_find?_eq_some known, by simpa using List.find?_some known⟩
    simp [registered]
  · rename_i unknown
    have unregistered : identifier ∉ config.rules.map Rule.identifier := by
      simpa using unknown
    simp [unregistered, eq_comm]

theorem exists_rule_iff :
    (∃ rule, config.rule identifier = .ok rule) ↔ config.Registers identifier := by
  simp only [rule_eq_ok_iff, Registers, List.mem_map]

variable {identifiers : List String} {rules : List Rule} {runSettings : RunSettings}
  {error : ConfigError}

/-- The rules selected are those of the configuration that have the identifiers, in their order. -/
theorem enabledRules_eq_ok_iff (asked : identifiers ≠ []) :
    config.enabledRules identifiers = .ok rules ↔
      rules.map Rule.identifier = identifiers ∧ rules ⊆ config.rules := by
  rw [enabledRules, if_neg asked, mapM_eq_ok_iff]
  simp only [rule_eq_ok_iff]
  constructor
  · intro named
    clear asked
    induction named with
    | nil => exact ⟨rfl, List.nil_subset _⟩
    | cons found _ ih =>
      rw [List.map_cons, found.2, ih.1]
      exact ⟨rfl, List.cons_subset.mpr ⟨found.1, ih.2⟩⟩
  · intro chosen
    obtain ⟨rfl, subset⟩ := chosen
    rw [List.forall₂_map_left_iff]
    exact List.forall₂_same.mpr fun rule member => ⟨subset member, rfl⟩

theorem enabledRules_eq_error_iff (asked : identifiers ≠ []) :
    config.enabledRules identifiers = .error error ↔
      ∃ identifier, IsFirst (¬ config.Registers ·) identifiers identifier ∧
        error = .unknownRule identifier := by
  have fails : (fun identifier => ∃ error, config.rule identifier = .error error) =
      (¬ config.Registers ·) := by
    funext identifier
    simp [rule_eq_error_iff]
  rw [enabledRules, if_neg asked, mapM_eq_error_iff, fails]
  constructor
  · intro failed
    obtain ⟨identifier, first, failed⟩ := failed
    exact ⟨identifier, first, (rule_eq_error_iff.mp failed).2⟩
  · intro unknown
    obtain ⟨identifier, first, same⟩ := unknown
    exact ⟨identifier, first, rule_eq_error_iff.mpr ⟨first.property, same⟩⟩

theorem exists_enabledRules_iff (asked : identifiers ≠ []) :
    (∃ rules, config.enabledRules identifiers = .ok rules) ↔
      ∀ identifier ∈ identifiers, config.Registers identifier := by
  constructor
  · intro selected
    obtain ⟨rules, selected⟩ := selected
    obtain ⟨rfl, subset⟩ := (enabledRules_eq_ok_iff asked).mp selected
    exact fun identifier member => List.map_subset _ subset member
  · intro registered
    rw [enabledRules, if_neg asked]
    apply exists_mapM_ok
    intro identifier member
    exact exists_rule_iff.mpr (registered identifier member)

theorem make_eq_ok_iff :
    make rules runSettings = .ok config ↔
      config.rules = rules ∧ config.runSettings = runSettings := by
  unfold make
  split
  · rename_i identifier found
    have twice := (firstRepeated?_nil_eq_some_iff.mp found).not_nodup
    simp only [reduceCtorEq, false_iff, not_and]
    intro same
    exact absurd (same ▸ config.nodup) twice
  · rw [Except.ok.injEq]
    constructor
    · intro same
      rw [← same]
      exact ⟨rfl, rfl⟩
    · intro parts
      obtain ⟨rules, runSettings, nodup⟩ := config
      obtain ⟨rfl, rfl⟩ := parts
      rfl

theorem make_eq_error_iff :
    make rules runSettings = .error error ↔
      ∃ identifier, IsFirstRepeated (rules.map Rule.identifier) identifier ∧
        error = .duplicateRule identifier := by
  simp only [← firstRepeated?_nil_eq_some_iff]
  unfold make
  split
  · rename_i identifier found
    simp [found, eq_comm]
  · rename_i fresh
    simp [fresh]

theorem exists_make_iff :
    (∃ config, make rules runSettings = .ok config) ↔ (rules.map Rule.identifier).Nodup := by
  constructor
  · intro made
    obtain ⟨config, made⟩ := made
    rw [← (make_eq_ok_iff.mp made).1]
    exact config.nodup
  · intro nodup
    exact ⟨⟨rules, runSettings, nodup⟩, make_eq_ok_iff.mpr ⟨rfl, rfl⟩⟩

theorem narrow_eq_error_iff :
    config.narrow identifiers = .error error ↔
      config.enabledRules identifiers = .error error ∨
        ∃ rules, config.enabledRules identifiers = .ok rules ∧
          make rules config.runSettings = .error error := by
  unfold narrow
  cases config.enabledRules identifiers with
  | error other => simp [bind, Except.bind]
  | ok rules => simp [bind, Except.bind]

theorem narrow_eq_ok_iff {narrowed : Config} :
    config.narrow identifiers = .ok narrowed ↔
      ∃ rules, config.enabledRules identifiers = .ok rules ∧
        make rules config.runSettings = .ok narrowed := by
  unfold narrow
  cases config.enabledRules identifiers with
  | error other => simp [bind, Except.bind]
  | ok rules => simp [bind, Except.bind]

/-- What becomes of a configuration that is narrowed to the rules named. The first identifier that
no rule has is refused. If all of them are known, those named twice are the only obstacle: the
first that occurs again is refused, and without one the result has exactly the rules named, in the
order named, and the settings it had. -/
theorem narrow_outcome (config : Config) {identifiers : List String} (asked : identifiers ≠ []) :
    (∀ error, config.enabledRules identifiers = .error error ↔
      ∃ identifier, IsFirst (¬ config.Registers ·) identifiers identifier ∧
        error = .unknownRule identifier) ∧
    (∀ error, config.narrow identifiers = .error error ↔
      (∃ identifier, IsFirst (¬ config.Registers ·) identifiers identifier ∧
        error = .unknownRule identifier) ∨
      (∀ identifier ∈ identifiers, config.Registers identifier) ∧
        ∃ identifier, IsFirstRepeated identifiers identifier ∧
          error = .duplicateRule identifier) ∧
    ((∃ narrowed, config.narrow identifiers = .ok narrowed) ↔
      (∀ identifier ∈ identifiers, config.Registers identifier) ∧ identifiers.Nodup) ∧
    ∀ narrowed, config.narrow identifiers = .ok narrowed ↔
      narrowed.rules.map Rule.identifier = identifiers ∧ narrowed.rules ⊆ config.rules ∧
        narrowed.runSettings = config.runSettings := by
  have selected : ∀ narrowed, config.narrow identifiers = .ok narrowed ↔
      narrowed.rules.map Rule.identifier = identifiers ∧ narrowed.rules ⊆ config.rules ∧
        narrowed.runSettings = config.runSettings := by
    intro narrowed
    simp only [narrow_eq_ok_iff, enabledRules_eq_ok_iff asked, make_eq_ok_iff]
    constructor
    · intro made
      obtain ⟨rules, ⟨named, subset⟩, rfl, settings⟩ := made
      exact ⟨named, subset, settings⟩
    · intro made
      obtain ⟨named, subset, settings⟩ := made
      exact ⟨narrowed.rules, ⟨named, subset⟩, rfl, settings⟩
  refine ⟨fun error => enabledRules_eq_error_iff asked, ?_, ?_, selected⟩
  · intro error
    rw [narrow_eq_error_iff, enabledRules_eq_error_iff asked, ← exists_enabledRules_iff asked]
    apply or_congr_right
    constructor
    · intro made
      obtain ⟨rules, known, twice⟩ := made
      rw [make_eq_error_iff, ((enabledRules_eq_ok_iff asked).mp known).1] at twice
      exact ⟨⟨rules, known⟩, twice⟩
    · intro repeated
      obtain ⟨⟨rules, known⟩, twice⟩ := repeated
      refine ⟨rules, known, ?_⟩
      rw [make_eq_error_iff, ((enabledRules_eq_ok_iff asked).mp known).1]
      exact twice
  · rw [← exists_enabledRules_iff asked]
    constructor
    · intro made
      obtain ⟨narrowed, made⟩ := made
      obtain ⟨rules, known, -⟩ := narrow_eq_ok_iff.mp made
      exact ⟨⟨rules, known⟩, ((selected narrowed).mp made).1 ▸ narrowed.nodup⟩
    · intro once
      obtain ⟨⟨rules, known⟩, nodup⟩ := once
      rw [← ((enabledRules_eq_ok_iff asked).mp known).1] at nodup
      obtain ⟨narrowed, made⟩ := exists_make_iff.mpr nodup
      exact ⟨narrowed, narrow_eq_ok_iff.mpr ⟨rules, known, made⟩⟩

/-- The built-in rule and another one that reports every function. -/
def measuredAndShown : Config :=
  ⟨[Rule.StatementCount.rule,
      RuleScript.rule ⟨"shown", .minor, .naming, ["function"], [], [], none, none, false⟩],
    .ofList [("NCSS", .integer 2)], by decide⟩

theorem narrow_outcome_reordered :
    ["shown", "high_ncss"] ≠ [] ∧
      (∃ narrowed, measuredAndShown.narrow ["shown", "high_ncss"] = .ok narrowed ∧
        narrowed.rules.map Rule.identifier = ["shown", "high_ncss"] ∧
        narrowed.runSettings = measuredAndShown.runSettings) ∧
      measuredAndShown.narrow ["shown", "shown", "none", "gone"] =
        .error (.unknownRule "none") ∧
      measuredAndShown.narrow ["high_ncss", "shown", "high_ncss", "shown"] =
        .error (.duplicateRule "high_ncss") := by
  obtain ⟨-, -, succeeds, made⟩ := narrow_outcome measuredAndShown
    (by decide : ["shown", "high_ncss"] ≠ [])
  obtain ⟨narrowed, success⟩ := succeeds.mpr (by decide)
  obtain ⟨named, -, settings⟩ := (made narrowed).mp success
  refine ⟨by decide, ⟨narrowed, success, named, settings⟩, ?_, ?_⟩
  · apply ((narrow_outcome measuredAndShown
      (by decide : ["shown", "shown", "none", "gone"] ≠ [])).2.1 _).mpr
    exact Or.inl ⟨"none", ⟨["shown", "shown"], ["gone"], rfl, by decide, by decide⟩, rfl⟩
  · apply ((narrow_outcome measuredAndShown
      (by decide : ["high_ncss", "shown", "high_ncss", "shown"] ≠ [])).2.1 _).mpr
    refine Or.inr ⟨by decide, "high_ncss", ?_, rfl⟩
    exact ⟨["high_ncss", "shown"], ["shown"], rfl, by decide, by decide⟩

/-- Whoever names a rule twice gets no run at all, although the rule is known and is selected. -/
theorem narrow_rule_named_twice :
    (∀ identifier ∈ ["high_ncss", "high_ncss"],
        (Config.standard .empty).Registers identifier) ∧
      ((Config.standard .empty).enabledRules ["high_ncss", "high_ncss"]).map
        (·.map Rule.identifier) = .ok ["high_ncss", "high_ncss"] ∧
      (Config.standard .empty).narrow ["high_ncss", "high_ncss"] =
        .error (.duplicateRule "high_ncss") ∧
      CommandLine.configFor ⟨["a.c"], .text, [], ["high_ncss", "high_ncss"], false, 1⟩ =
        .error (.config (.duplicateRule "high_ncss")) :=
  ⟨by decide, rfl, rfl, rfl⟩

end Config
end DeclarationLint
