import DeclarationLint.Config.Overrides
import DeclarationLint.Proofs.Lint.Locality
import DeclarationLint.Proofs.Rule.Outcome

/-!
# Settings given as text

Whatever a user writes into comments and overrides reaches a run as text. A text may be of no use,
but it is never out of range, so the search for a setting has an answer whenever the settings of
the run are texts. A visit that has no faults of its own then has an answer too, and so have the
walk, the check and the run that it belongs to.
-/
namespace DeclarationLint

namespace Literal

theorem ofDigitChars_lt {digits : List Char} (decimal : ∀ c ∈ digits, c.isDigit = true) :
    Nat.ofDigitChars 10 digits 0 < 10 ^ digits.length := by
  induction digits with
  | nil => decide
  | cons c rest ih =>
    have others := ih fun later member => decimal later (by simp [member])
    have digit : c.toNat - '0'.toNat ≤ 9 := by
      have isDigit := decimal c (by simp)
      simp only [Char.isDigit, Bool.and_eq_true, decide_eq_true_eq,
        UInt32.le_iff_toNat_le] at isDigit
      have most : c.toNat ≤ 57 := isDigit.2
      change c.toNat - 48 ≤ 9
      omega
    rw [Nat.ofDigitChars_cons, Nat.ofDigitChars_eq_ofDigitChars_zero, Nat.mul_zero, Nat.zero_add,
      List.length_cons, Nat.pow_succ]
    have leading := Nat.mul_le_mul_left (10 ^ rest.length) digit
    omega

theorem natural?_lt {chars : List Char} {size : Nat} (read : natural? chars = some size) :
    size < 10 ^ chars.length := by
  rw [natural?, Option.ite_none_right_eq_some] at read
  obtain ⟨⟨-, decimal⟩, value⟩ := read
  obtain rfl := Option.some.inj value
  exact ofDigitChars_lt (List.all_eq_true.mp decimal)

/-- An integer that is given as text has no more digits than are allowed in one. -/
theorem natAbs_lt_of_integer? {given : String} {number : Int}
    (read : integer? given = some number) : number.natAbs < 10 ^ mostDigits := by
  simp only [integer?, Option.bind_eq_bind, Option.bind_eq_some_iff,
    Option.ite_none_right_eq_some] at read
  obtain ⟨chars, -, size, natural, fits, signed⟩ := read
  have small := natural?_lt natural
  have most := Nat.pow_le_pow_right (by decide : 0 < 10) fits
  split at signed <;> cases signed <;> omega

end Literal

/-- All settings of the run are texts, as those are that come from overrides. -/
def RunSettings.AllTexts (runSettings : RunSettings) : Prop :=
  ∀ key, ∀ raw ∈ runSettings.get? key, ∃ given, raw = .text given

theorem RunSettings.allTexts_mapValues (texts : KeyedList String String) :
    RunSettings.AllTexts (texts.mapValues .text) := by
  intro key raw member
  rw [KeyedList.get?_mapValues, Option.mem_def, Option.map_eq_some_iff] at member
  obtain ⟨given, -, same⟩ := member
  exact ⟨given, same.symm⟩

namespace RuleContext

variable {context : RuleContext} {key : String}

theorem exists_resolve_of_allTexts (texts : context.runSettings.AllTexts) (key : String)
    (default : Value) : ∃ value, context.resolve key default = .ok value := by
  refine exists_resolve_of_not_overflows fun overflow => ?_
  rintro ⟨raw, member, overflows⟩
  obtain ⟨given, rfl⟩ := texts key raw member
  exact Value.not_overflows_text default given overflow overflows

/-- An integer setting is the default or can be written with the digits allowed in a text. -/
theorem integer_of_allTexts (texts : context.runSettings.AllTexts) {default number : Int}
    (success : context.resolve key (.integer default) = .ok (.integer number)) :
    number = default ∨ number.natAbs < 10 ^ Literal.mostDigits := by
  have small : ∀ given, Value.Converts (.integer default) (.text given) (.integer number) →
      number.natAbs < 10 ^ Literal.mostDigits := by
    intro given converts
    cases converts with
    | wholeText read => exact Literal.natAbs_lt_of_integer? read
  rcases (context.resolve_eq_ok_iff _ _ _).mp success with
    ⟨given, -, converts⟩ | ⟨-, ⟨raw, member, converts⟩ | ⟨-, -, same⟩⟩
  · exact Or.inr (small given converts)
  · obtain ⟨given, rfl⟩ := texts key raw member
    exact Or.inr (small given converts)
  · exact Or.inl (Value.integer.inj same)

end RuleContext

namespace Visit

/-- The visit has no faults of its own, whatever settings it gets. -/
def Faultless {α : Type} : Visit α → Prop
  | done _ => True
  | fail _ => False
  | lookup _ _ next => ∀ value, (next value).Faultless
  | report _ _ _ next => next.Faultless
  | note _ next => next.Faultless

end Visit

namespace Rule

/-- No visit of the rule has faults of its own. -/
def Faultless (rule : Rule) : Prop := ∀ declaration, (rule.visit declaration).Faultless

variable {rule : Rule} {settings : Settings} {runSettings : RunSettings}

/-- The only fault that is not a visit's own is a setting out of range. -/
theorem exists_perform {α : Type} {context : RuleContext} (texts : context.runSettings.AllTexts)
    {visit : Visit α} (faultless : visit.Faultless) :
    ∃ answer, (rule.perform context visit).result = .ok answer := by
  induction visit with
  | done answer => exact ⟨answer, rfl⟩
  | fail fault => exact absurd faultless id
  | lookup key default next ih =>
    -- The only place where settings come in, and the only one where a visit could still fail.
    obtain ⟨value, resolved⟩ := context.exists_resolve_of_allTexts texts key default
    unfold perform
    rw [resolved]
    exact ih value (faultless value)
  | report span description correction next ih =>
    rw [perform_report rule context ⟨span, description, correction⟩ next,
      Journal.bind_of_ok (result_reported _ _)]
    exact ih faultless
  | note event next ih =>
    unfold perform
    rw [Journal.bind_of_ok rfl]
    exact ih faultless

theorem Faultless.succeeds (faultless : rule.Faultless) (texts : runSettings.AllTexts)
    (declaration : Declaration) : rule.Succeeds settings runSettings declaration :=
  exists_perform texts (faultless declaration)

theorem visitEach_of_succeeds {declarations : List Declaration}
    (succeed : ∀ declaration ∈ declarations, rule.Succeeds settings runSettings declaration) :
    (rule.visitEach settings runSettings declarations).result = .ok () := by
  induction declarations with
  | nil => rfl
  | cons declaration rest ih =>
    obtain ⟨answer, success⟩ := succeed declaration (by simp)
    rw [visitEach, Journal.bind_of_ok success]
    exact ih fun later member => succeed later (by simp [member])

theorem Faultless.exists_check (faultless : rule.Faultless) (texts : runSettings.AllTexts)
    (settings : Settings) (file : SourceFile) :
    ∃ issues, (rule.check runSettings settings file).result = .ok issues := by
  have walked : (rule.visitEach settings runSettings
      (rule.agendaAll settings runSettings file.declarations)).result = .ok () := by
    apply visitEach_of_succeeds
    intro declaration _
    exact faultless.succeeds texts declaration
  rw [check, walkAll_eq_visitEach, outcome, walked]
  exact ⟨_, rfl⟩

theorem faultless_statementCount : StatementCount.rule.Faultless := by
  intro declaration
  change (StatementCount.visit declaration).Faultless
  unfold StatementCount.visit
  by_cases callable : declaration.kind.isCallable = true
  · rw [if_pos callable]
    have reports : ∀ threshold : Int, Visit.Faultless (do
        if threshold < declaration.ncss then
          Visit.issue declaration.span (StatementCount.describe declaration.ncss threshold) none
        pure true) := by
      intro threshold
      by_cases long : threshold < declaration.ncss
      · rw [if_pos long]
        exact trivial
      · rw [if_neg long]
        exact trivial
    intro value
    cases value with
    | integer threshold => exact reports threshold
    | _ => exact reports StatementCount.defaultThreshold
  · rw [if_neg callable]
    exact trivial

end Rule

/-- The stage has a result from any cache. -/
def Stage.Returns (stage : Stage) : Prop :=
  ∀ cache, ∃ issues, (stage cache).2.result = .ok issues

theorem runStages_returns {stages : List Stage} (each : ∀ stage ∈ stages, stage.Returns) :
    Stage.Returns (runStages stages) := by
  induction stages with
  | nil => exact fun cache => ⟨[], rfl⟩
  | cons stage rest ih =>
    intro cache
    obtain ⟨issues, success⟩ := each stage (by simp) cache
    rcases run : stage cache with ⟨after, events, fault | found⟩
    · rw [run] at success
      cases success
    · obtain ⟨others, successRest⟩ := ih (fun later member => each later (by simp [member])) after
      refine ⟨found ++ others, ?_⟩
      rw [runStages, run]
      change (runStages rest after).2.result.map (found ++ ·) = _
      rw [successRest]
      rfl

/-- A run of faultless rules returns if its settings are texts. -/
theorem lintFiles_returns {config : Config} (faultless : ∀ rule ∈ config.rules, rule.Faultless)
    (texts : config.runSettings.AllTexts) (files : List SourceFile) :
    Stage.Returns (lintFiles config files) := by
  refine runStages_returns fun stage member => ?_
  obtain ⟨file, -, rfl⟩ := List.mem_map.mp member
  refine runStages_returns fun stage member => ?_
  obtain ⟨rule, enabled, rfl⟩ := List.mem_map.mp member
  exact fun cache => (faultless rule enabled).exists_check texts _ file

/-- With overrides and comments alone no run of the built-in rules fails. Where all settings of a
run are texts, the search for a setting has an answer of the type that it asks for, and an integer
among the answers is the default or short enough to be shown. -/
theorem text_settings_never_fail :
    (∀ items overrides, Overrides.parse items = .ok overrides →
      ∀ files, Stage.Returns (lintFiles (.standard (overrides.mapValues .text)) files)) ∧
    ∀ context : RuleContext, context.runSettings.AllTexts →
      ∀ key (default : Value), default.scalarType? ≠ none →
        ∃ value, context.resolve key default = .ok value ∧
          value.scalarType? = default.scalarType? ∧
          ∀ number, value = .integer number →
            value = default ∨ number.natAbs < 10 ^ Literal.mostDigits := by
  refine ⟨fun items overrides _ files => ?_, fun context texts key default asked => ?_⟩
  · refine lintFiles_returns ?_ (RunSettings.allTexts_mapValues overrides) files
    intro rule member
    rw [List.mem_singleton.mp member]
    exact Rule.faultless_statementCount
  · obtain ⟨value, success⟩ := context.exists_resolve_of_allTexts texts key default
    have typed := RuleContext.scalarType?_of_resolve success asked
    refine ⟨value, success, typed, ?_⟩
    rintro number rfl
    cases default with
    | integer given =>
      exact (RuleContext.integer_of_allTexts texts success).imp_left (congrArg Value.integer)
    | null => exact absurd rfl asked
    | list items => exact absurd rfl asked
    | record fields => exact absurd rfl asked
    | boolean given => cases typed
    | float given => cases typed
    | text given => cases typed

/-- A word where a number is asked for, and a number that no float can hold. -/
def unusableItems : List String := ["NCSS=many", " limit = -1e999 "]

def unusableOverrides : KeyedList String String := .ofList [("NCSS", "many"), ("limit", "-1e999")]

/-- The directive on line 2 is not closed, and the one on line 5 comes after stray brackets. -/
def malformedFile : SourceFile :=
  fileWithComments "a.c"
    [⟨2, "// declint:rule_configure(NCSS=9"⟩, ⟨5, "/* declint)( :rule_configure(NCSS=+2) */"⟩]

theorem text_settings_never_fail_unusable :
    Overrides.parse unusableItems = .ok unusableOverrides ∧
      (∃ issues, (lintFiles (.standard (unusableOverrides.mapValues .text))
          [malformedFile, malformedFile] .empty).2.result = .ok issues ∧
        issues.map (fun issue => (issue.span.start.line, issue.description)) =
          [(5, "Method of 3 NCSS exceeds limit of 2"),
            (5, "Method of 3 NCSS exceeds limit of 2")]) ∧
      ∃ value, RuleContext.resolve ⟨.empty, unusableOverrides.mapValues .text, none⟩ "limit"
          (.float (.ofInt 1)) = .ok value ∧
        value.scalarType? = some .float ∧ value = .float (.infinite true) := by
  have parsed : Overrides.parse unusableItems = .ok unusableOverrides := rfl
  obtain ⟨runs, searches⟩ := text_settings_never_fail
  obtain ⟨issues, returned⟩ := runs unusableItems unusableOverrides parsed
    [malformedFile, malformedFile] .empty
  obtain ⟨value, found, typed, -⟩ := searches
    ⟨.empty, unusableOverrides.mapValues .text, none⟩
    (RunSettings.allTexts_mapValues unusableOverrides) "limit" (.float (.ofInt 1))
    (by decide)
  refine ⟨parsed, ⟨issues, returned, ?_⟩, value, found, typed, ?_⟩
  · cases returned
    rfl
  · cases found
    rfl

end DeclarationLint
