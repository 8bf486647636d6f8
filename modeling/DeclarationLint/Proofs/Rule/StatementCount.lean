import DeclarationLint.Proofs.Rule.Resolution
import DeclarationLint.Proofs.Rule.Walk
import DeclarationLint.Proofs.Settings.Lines
import DeclarationLint.Rule.StatementCount

/-!
# What the statement count rule reports

Which declarations of a file are too long is said here from the file alone: from the tree of
its declarations, the statements in their bodies, and the directives in the comments of their
first lines. The rule reports exactly these, parents before members.
-/
namespace DeclarationLint.Rule.StatementCount

/-- The limit for a declaration that starts on a line. Values that are no integers do not
count. -/
def limitAt (runSettings : RunSettings) (comments : List Comment) (line : Int) : Int :=
  (((lineSetting comments line "NCSS").bind Literal.integer?).or
    ((runSettings.get? "NCSS").bind Value.wholeNumber?)).getD 30

/-- The declaration has a body to measure, the body is too long, and no comment on the first
line of the declaration silences the rule. -/
def IsTooLong (runSettings : RunSettings) (comments : List Comment) (declaration : Declaration) :
    Prop :=
  declaration.kind ∈ [DeclarationKind.function, .initializer, .deinitializer, .subscript] ∧
    limitAt runSettings comments declaration.line < declaration.statementCount ∧
    ¬ ∃ directive ∈ directivesOn comments declaration.line, directive.Silences "high_ncss"

instance (runSettings : RunSettings) (comments : List Comment) (declaration : Declaration) :
    Decidable (IsTooLong runSettings comments declaration) :=
  inferInstanceAs (Decidable (_ ∧ _ ∧ _))

/-- The issue about a declaration that is too long. -/
def lengthIssue (declaration : Declaration) (limit : Int) : Issue where
  rule := "high_ncss"
  description := s!"Method of {declaration.statementCount} NCSS exceeds limit of {limit}"
  category := .readability
  severity := .major
  span := declaration.span
  correction := none

/-- What there is to report about a declaration. -/
def lengthIssue? (runSettings : RunSettings) (comments : List Comment)
    (declaration : Declaration) : Option Issue :=
  if IsTooLong runSettings comments declaration then
    some (lengthIssue declaration (limitAt runSettings comments declaration.line))
  else none

theorem mem_callables_iff (kind : DeclarationKind) :
    kind ∈ [DeclarationKind.function, .initializer, .deinitializer, .subscript] ↔
      kind.isCallable = true := by
  cases kind <;> simp [DeclarationKind.isCallable]

theorem isTooLong_iff (runSettings : RunSettings) (comments : List Comment)
    (declaration : Declaration) :
    IsTooLong runSettings comments declaration ↔
      declaration.kind.isCallable = true ∧
        limitAt runSettings comments declaration.line < declaration.ncss ∧
        (Settings.ofComments comments).isSuppressed declaration.line rule.identifier ≠ true := by
  unfold IsTooLong
  rw [mem_callables_iff, Declaration.ncss_eq_statementCount, Ne, Settings.isSuppressed_ofComments_iff]
  rfl

theorem issue?_eq (settings : Settings) (declaration : Declaration) (limit : Int) :
    rule.issue? settings declaration.span (describe declaration.ncss limit) none =
      if settings.isSuppressed declaration.line rule.identifier = true then none
      else some (lengthIssue declaration limit) := by
  rw [lengthIssue, ← Declaration.ncss_eq_statementCount]
  rfl

/-- The visit of a declaration with a body to measure, once its limit is known. -/
theorem perform_visit {context : RuleContext} {declaration : Declaration} {limit : Int}
    (callable : declaration.kind.isCallable = true)
    (resolved : context.resolve thresholdKey (.integer defaultThreshold) =
      .ok (.integer limit)) :
    rule.perform context (visit declaration) =
      ⟨if limit < declaration.ncss then
          (rule.issue? context.settings declaration.span
            (describe declaration.ncss limit) none).toList.map Finding.issue
        else [], .ok true⟩ := by
  unfold visit
  rw [if_pos callable]
  simp only [Visit.integerSetting, bind, Visit.bind, perform, resolved]
  by_cases long : limit < declaration.ncss
  · rw [if_pos long, if_pos long]
    simp only [Visit.issue, Visit.bind, perform]
    cases rule.issue? context.settings declaration.span (describe declaration.ncss limit) none <;>
      rfl
  · rw [if_neg long, if_neg long]
    rfl

theorem perform_visit_of_error {context : RuleContext} {declaration : Declaration}
    {overflow : NumberOverflow} (callable : declaration.kind.isCallable = true)
    (resolved : context.resolve thresholdKey (.integer defaultThreshold) = .error overflow) :
    rule.perform context (visit declaration) = Journal.fail (.overflow overflow) := by
  unfold visit
  rw [if_pos callable]
  simp only [Visit.integerSetting, bind, Visit.bind, perform, resolved]

theorem perform_visit_of_not_callable {context : RuleContext} {declaration : Declaration}
    (other : declaration.kind.isCallable ≠ true) :
    rule.perform context (visit declaration) = pure true := by
  unfold visit
  rw [if_neg other]
  rfl

/-- The limit that settings give to a line. -/
def limitIn (settings : Settings) (runSettings : RunSettings) (line : Int) : Int :=
  ((((settings.configurationAt line).get? thresholdKey).bind Literal.integer?).or
    ((runSettings.get? thresholdKey).bind Value.wholeNumber?)).getD defaultThreshold

theorem limitIn_ofComments (comments : List Comment) (runSettings : RunSettings) (line : Int) :
    limitIn (.ofComments comments) runSettings line = limitAt runSettings comments line := by
  rw [limitIn, Settings.get?_configurationAt_ofComments]
  rfl

/-- All that a visit with an answer does: it lets the walk go on, and it reports the
declaration if its body is longer than the limit. -/
theorem visitOne_ok {settings : Settings} {runSettings : RunSettings}
    {declaration : Declaration} {answer : Bool}
    (success : (rule.visitOne settings runSettings declaration).result = .ok answer) :
    answer = true ∧
      (rule.visitOne settings runSettings declaration).entries.filterMap Finding.issue? =
        if declaration.kind.isCallable = true ∧
            limitIn settings runSettings declaration.line < declaration.ncss then
          (rule.issue? settings declaration.span (describe declaration.ncss
            (limitIn settings runSettings declaration.line)) none).toList
        else [] := by
  rw [visitOne_eq] at success ⊢
  change (rule.perform _ (visit declaration)).result = .ok answer at success
  change _ ∧ (rule.perform _ (visit declaration)).entries.filterMap Finding.issue? = _
  by_cases callable : declaration.kind.isCallable = true
  · cases resolved : RuleContext.resolve ⟨settings, runSettings, some declaration⟩ thresholdKey
        (.integer defaultThreshold) with
    | error overflow =>
      rw [perform_visit_of_error callable resolved] at success
      cases success
    | ok value =>
      have limit : value = .integer (limitIn settings runSettings declaration.line) :=
        RuleContext.resolve_integer_ok resolved
      rw [limit] at resolved
      rw [perform_visit callable resolved] at success ⊢
      cases success
      refine ⟨rfl, ?_⟩
      by_cases long : limitIn settings runSettings declaration.line < declaration.ncss
      · simp [callable, long, List.filterMap_map, Function.comp_def, Finding.issue?]
      · simp [long]
  · rw [perform_visit_of_not_callable callable] at success ⊢
    cases success
    simp [callable]

/-- No visit of the rule closes a declaration. -/
theorem descends_eq_true (settings : Settings) (runSettings : RunSettings)
    (declaration : Declaration) : rule.descends settings runSettings declaration = true :=
  descends_of_answers fun _ success => (visitOne_ok success).1

/-- A visit that succeeds reports what there is to report. -/
theorem issues_visitOne {comments : List Comment} {runSettings : RunSettings}
    {declaration : Declaration} {answer : Bool}
    (success : (rule.visitOne (.ofComments comments) runSettings declaration).result =
      .ok answer) :
    (rule.visitOne (.ofComments comments) runSettings declaration).entries.filterMap
        Finding.issue? =
      (lengthIssue? runSettings comments declaration).toList := by
  rw [(visitOne_ok success).2, limitIn_ofComments, issue?_eq, lengthIssue?]
  simp only [isTooLong_iff]
  by_cases long : declaration.kind.isCallable = true ∧
      limitAt runSettings comments declaration.line < declaration.ncss
  · by_cases silent : (Settings.ofComments comments).isSuppressed declaration.line
        rule.identifier = true
    · simp [long, silent]
    · simp [long, silent]
  · rw [if_neg long, if_neg fun tooLong => long ⟨tooLong.1, tooLong.2.1⟩]
    rfl

theorem lengthIssue?_eq_none_of_not_visited {declaration : Declaration}
    (passed : declaration.kind.isVisited ≠ true) (runSettings : RunSettings)
    (comments : List Comment) : lengthIssue? runSettings comments declaration = none := by
  refine if_neg fun tooLong => passed ?_
  have callable := ((isTooLong_iff _ _ _).mp tooLong).1
  revert callable
  cases declaration.kind <;> simp [DeclarationKind.isVisited, DeclarationKind.isCallable]

/-- A check with a result has found the declarations that are too long, parents before members. -/
theorem issues_of_check_ok {runSettings : RunSettings} {file : SourceFile} {issues : List Issue}
    (checked : (rule.check runSettings (.ofComments file.comments) file).result = .ok issues) :
    issues =
      (Declaration.preorderAll file.declarations).filterMap
        (lengthIssue? runSettings file.comments) := by
  obtain ⟨succeed, collected⟩ := check_ok checked
  have agenda : rule.agendaAll (.ofComments file.comments) runSettings file.declarations =
      (Declaration.preorderAll file.declarations).filter (·.kind.isVisited) :=
    agendaAll_eq_preorderAll (descends_eq_true _ runSettings) file.declarations
  rw [agenda] at succeed collected
  calc
    issues = ((Declaration.preorderAll file.declarations).filter (·.kind.isVisited)).flatMap
        fun declaration => (lengthIssue? runSettings file.comments declaration).toList := by
      rw [collected]
      refine List.flatMap_congr fun declaration member => ?_
      obtain ⟨answer, success⟩ := succeed declaration member
      exact issues_visitOne success
    _ = ((Declaration.preorderAll file.declarations).filter (·.kind.isVisited)).filterMap
        (lengthIssue? runSettings file.comments) :=
      (List.filterMap_eq_flatMap_toList _ _).symm
    _ = (Declaration.preorderAll file.declarations).filterMap
        (lengthIssue? runSettings file.comments) := by
      rw [List.filterMap_filter]
      congr 1
      funext declaration
      by_cases visited : declaration.kind.isVisited = true
      · rw [if_pos visited]
      · rw [if_neg visited, lengthIssue?_eq_none_of_not_visited visited]

/-- A run that ends with a result reports exactly the declarations that are too long, anywhere
in the file, parents before members. -/
theorem run_reports (runSettings : RunSettings) (file : SourceFile) (issues : List Issue)
    (returned : (rule.run runSettings .empty file).2.result = .ok issues) :
    issues =
      (Declaration.preorderAll file.declarations).filterMap
        (lengthIssue? runSettings file.comments) := by
  have checked : (rule.check runSettings (.ofComments file.comments) file).result = .ok issues :=
    returned
  exact issues_of_check_ok checked

/-- A type with two methods that are too long, of which the second is silenced. -/
def nestedFile : SourceFile where
  identifier := "a.c"
  declarations :=
    [⟨.typeDefinition, "T", .between "a.c" 1 1 9 2, none,
      [⟨.function, "f", .between "a.c" 2 1 4 2,
          some [⟨.jump, .empty, []⟩, ⟨.jump, .empty, []⟩], []⟩,
        ⟨.function, "g", .between "a.c" 5 1 8 2,
          some [⟨.jump, .empty, []⟩, ⟨.jump, .empty, []⟩], []⟩]⟩]
  comments :=
    [⟨2, "// declint:rule_configure(NCSS=1)"⟩, ⟨5, "// declint:rule_configure(NCSS=1)"⟩,
      ⟨5, "// declint:suppress(high_ncss)"⟩]

theorem run_reports_nested :
    ∃ issues, (rule.run .empty .empty nestedFile).2.result = .ok issues ∧
      issues.map Issue.description = ["Method of 2 NCSS exceeds limit of 1"] ∧
      issues = (Declaration.preorderAll nestedFile.declarations).filterMap
        (lengthIssue? .empty nestedFile.comments) := by
  have returned : (rule.run .empty .empty nestedFile).2.result =
      .ok [⟨"high_ncss", "Method of 2 NCSS exceeds limit of 1", .readability, .major,
        .between "a.c" 2 1 4 2, none⟩] := by rfl
  exact ⟨_, returned, rfl, run_reports .empty nestedFile _ returned⟩

end DeclarationLint.Rule.StatementCount
