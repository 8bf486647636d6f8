import DeclarationLint.Proofs.Rule.Walk
import DeclarationLint.Rule.Scripted

/-!
# Suppression is a filter

Silent lines have no say in what a rule does. A walk makes the same visits, gets the same
settings and ends in the same way without them; with them, the issues that start on silent lines
are left out of what it finds, and nothing else changes.
-/
namespace DeclarationLint

namespace Journal

variable {ω ε α β : Type}

/-- The same computation with some of its entries left out. -/
def filter (keep : ω → Bool) (journal : Journal ω ε α) : Journal ω ε α :=
  ⟨journal.entries.filter keep, journal.result⟩

theorem filter_bind (keep : ω → Bool) (first : Journal ω ε α) (next : α → Journal ω ε β) :
    (first >>= next).filter keep = first.filter keep >>= fun value => (next value).filter keep := by
  cases outcome : first.result with
  | error error =>
    have filtered : (first.filter keep).result = .error error := outcome
    rw [bind_of_error outcome, bind_of_error filtered]
    rfl
  | ok value =>
    have filtered : (first.filter keep).result = .ok value := outcome
    rw [bind_of_ok outcome, bind_of_ok filtered]
    simp [filter]

end Journal

namespace Settings

/-- The same settings, with no silent lines. -/
def unsuppressed (settings : Settings) : Settings := { settings with suppressions := .empty }

end Settings

namespace Visit

variable {α : Type}

/-- The keys that a visit asks for, each with the answer it gets. -/
def lookups (context : RuleContext) : Visit α → List (String × Except NumberOverflow Value)
  | done _ | fail _ => []
  | lookup key default next =>
    match context.resolve key default with
    | .error overflow => [(key, .error overflow)]
    | .ok value => (key, .ok value) :: (next value).lookups context
  | report _ _ _ next => next.lookups context
  | note _ next => next.lookups context

/-- What a visit passes on when it reports something. -/
structure Report where
  span : Span
  description : String
  correction : Option Correction

/-- Makes the given reports, in order. -/
def reports : List Report → Visit Unit
  | [] => done ()
  | ⟨span, description, correction⟩ :: rest => report span description correction (reports rest)

end Visit

namespace Rule

/-- The findings that silent lines leave in place. -/
def keeps (rule : Rule) (settings : Settings) : Finding → Bool
  | .issue issue => !settings.isSuppressed issue.span.start.line rule.identifier
  | _ => true

/-- The issue that a report makes where no line is silent. -/
def issueOf (rule : Rule) (report : Visit.Report) : Issue where
  rule := rule.identifier
  description := report.description
  category := rule.category
  severity := rule.severity
  span := report.span
  correction := report.correction

variable {rule : Rule} {settings : Settings} {runSettings : RunSettings}

/-- What a report writes down. -/
def reported (rule : Rule) (settings : Settings) (report : Visit.Report) :
    Journal Finding Fault Unit :=
  match rule.issue? settings report.span report.description report.correction with
  | none => pure ()
  | some issue => Journal.write (.issue issue)

theorem perform_report {α : Type} (rule : Rule) (context : RuleContext) (report : Visit.Report)
    (next : Visit α) :
    rule.perform context (.report report.span report.description report.correction next) =
      (do rule.reported context.settings report
          rule.perform context next) := by
  rw [perform, reported]
  cases rule.issue? context.settings report.span report.description report.correction <;> rfl

theorem reported_unsuppressed (settings : Settings) (report : Visit.Report) :
    rule.reported settings.unsuppressed report = Journal.write (.issue (rule.issueOf report)) :=
  rfl

theorem reported_eq_filter (settings : Settings) (report : Visit.Report) :
    rule.reported settings report =
      (rule.reported settings.unsuppressed report).filter (rule.keeps settings) := by
  rw [reported_unsuppressed]
  by_cases silent : settings.isSuppressed report.span.start.line rule.identifier = true
  · simp [reported, issue?, silent, Journal.filter, Journal.write, keeps, issueOf, pure]
  · simp [reported, issue?, silent, Journal.filter, Journal.write, keeps, issueOf]

theorem result_reported (settings : Settings) (report : Visit.Report) :
    (rule.reported settings report).result = .ok () := by
  rw [reported_eq_filter]
  rfl

theorem eq_issueOf_of_mem_reported {report : Visit.Report} {finding : Finding}
    (member : finding ∈ (rule.reported settings report).entries) :
    finding = .issue (rule.issueOf report) := by
  rw [reported_eq_filter, reported_unsuppressed] at member
  exact List.mem_singleton.mp (List.mem_filter.mp member).1

/-- What a visit writes down are events and issues of the rule. -/
theorem forall_mem_perform {α : Type} {holds : Finding → Prop} {context : RuleContext}
    (events : ∀ event, holds (.event event))
    (issues : ∀ report, holds (.issue (rule.issueOf report))) (visit : Visit α) :
    ∀ finding ∈ (rule.perform context visit).entries, holds finding := by
  induction visit with
  | done answer => exact fun _ member => by cases member
  | fail fault => exact fun _ member => by cases member
  | lookup key default next ih =>
    unfold perform
    cases context.resolve key default with
    | error overflow => exact fun _ member => by cases member
    | ok value => exact ih value
  | report span description correction next ih =>
    rw [perform_report rule context ⟨span, description, correction⟩ next,
      Journal.bind_of_ok (result_reported _ _)]
    intro finding member
    rcases List.mem_append.mp member with here | later
    · rw [eq_issueOf_of_mem_reported here]
      exact issues _
    · exact ih finding later
  | note event next ih =>
    unfold perform
    rw [Journal.bind_of_ok rfl]
    intro finding member
    rcases List.mem_append.mp member with noted | later
    · rw [List.mem_singleton.mp noted]
      exact events event
    · exact ih finding later

/-- A visit finds what it would find without silent lines, less the issues on them. -/
theorem perform_eq_filter {α : Type} (current : Option Declaration) (visit : Visit α) :
    rule.perform ⟨settings, runSettings, current⟩ visit =
      (rule.perform ⟨settings.unsuppressed, runSettings, current⟩ visit).filter
        (rule.keeps settings) := by
  induction visit with
  | done answer => rfl
  | fail fault => rfl
  | lookup key default next ih =>
    have same : RuleContext.resolve ⟨settings.unsuppressed, runSettings, current⟩ key default =
        RuleContext.resolve ⟨settings, runSettings, current⟩ key default := rfl
    unfold perform
    rw [same]
    cases RuleContext.resolve ⟨settings, runSettings, current⟩ key default with
    | error overflow => rfl
    | ok value => exact ih value
  | report span description correction next ih =>
    have quiet := perform_report rule ⟨settings, runSettings, current⟩
      ⟨span, description, correction⟩ next
    have loud := perform_report rule ⟨settings.unsuppressed, runSettings, current⟩
      ⟨span, description, correction⟩ next
    rw [quiet, loud, Journal.filter_bind, ← reported_eq_filter, ih]
  | note event next ih =>
    unfold perform
    rw [Journal.filter_bind, ih]
    rfl

theorem visitOne_eq_filter (declaration : Declaration) :
    rule.visitOne settings runSettings declaration =
      (rule.visitOne settings.unsuppressed runSettings declaration).filter
        (rule.keeps settings) := by
  rw [visitOne, visitOne, Journal.filter_bind, perform_eq_filter]
  rfl

mutual

theorem walk_eq_filter (declaration : Declaration) :
    rule.walk settings runSettings declaration =
      (rule.walk settings.unsuppressed runSettings declaration).filter (rule.keeps settings) := by
  obtain ⟨kind, name, span, body, members⟩ := declaration
  have inside := walkAll_eq_filter members
  have into : ∀ descend : Bool,
      (if descend then rule.walkAll settings runSettings members else pure ()) =
        (if descend then rule.walkAll settings.unsuppressed runSettings members
          else pure ()).filter (rule.keeps settings) := by
    intro descend
    cases descend with
    | true => exact inside
    | false => rfl
  rw [walk, walk]
  simp only [into]
  by_cases visited : kind.isVisited = true
  · rw [if_pos visited, if_pos visited, Journal.filter_bind, visitOne_eq_filter]
  · rw [if_neg visited, if_neg visited, Journal.filter_bind]
    rfl

theorem walkAll_eq_filter (declarations : List Declaration) :
    rule.walkAll settings runSettings declarations =
      (rule.walkAll settings.unsuppressed runSettings declarations).filter
        (rule.keeps settings) := by
  cases declarations with
  | nil => rfl
  | cons declaration rest =>
    rw [walkAll, walkAll, Journal.filter_bind, walk_eq_filter declaration,
      walkAll_eq_filter rest]

end

/-- The declarations that a check visits. -/
def visits (rule : Rule) (runSettings : RunSettings) (settings : Settings) (file : SourceFile) :
    List Declaration :=
  (rule.walkAll settings runSettings file.declarations).entries.filterMap Finding.visit?

/-- All that the visits of a check ask for, each key with the answer it gets. -/
def lookups (rule : Rule) (runSettings : RunSettings) (settings : Settings) (file : SourceFile) :
    List (String × Except NumberOverflow Value) :=
  (rule.visits runSettings settings file).flatMap fun declaration =>
    (rule.visit declaration).lookups ⟨settings, runSettings, some declaration⟩

theorem lookups_unsuppressed {α : Type} (current : Option Declaration) (visit : Visit α) :
    visit.lookups ⟨settings.unsuppressed, runSettings, current⟩ =
      visit.lookups ⟨settings, runSettings, current⟩ := by
  induction visit with
  | done answer => rfl
  | fail fault => rfl
  | lookup key default next ih =>
    have same : RuleContext.resolve ⟨settings.unsuppressed, runSettings, current⟩ key default =
        RuleContext.resolve ⟨settings, runSettings, current⟩ key default := rfl
    unfold Visit.lookups
    rw [same]
    cases RuleContext.resolve ⟨settings, runSettings, current⟩ key default with
    | error overflow => rfl
    | ok value => exact congrArg _ (ih value)
  | report span description correction next ih => exact ih
  | note event next ih => exact ih

/-- Only issues are left out. -/
theorem filterMap_filter_keeps {α : Type} {part : Finding → Option α}
    (noIssue : ∀ issue, part (.issue issue) = none) (findings : List Finding) :
    (findings.filter (rule.keeps settings)).filterMap part = findings.filterMap part := by
  rw [List.filterMap_filter]
  congr 1
  funext finding
  cases finding with
  | issue issue => simp [noIssue]
  | visit declaration => rfl
  | event event => rfl

theorem issues_filter_keeps (findings : List Finding) :
    (findings.filter (rule.keeps settings)).filterMap Finding.issue? =
      (findings.filterMap Finding.issue?).filter fun issue =>
        !settings.isSuppressed issue.span.start.line rule.identifier := by
  rw [List.filterMap_filter, List.filter_filterMap]
  congr 1
  funext finding
  cases finding with
  | visit declaration => rfl
  | event event => rfl
  | issue issue => simp [keeps, Finding.issue?, Option.filter]

theorem visits_unsuppressed (file : SourceFile) :
    rule.visits runSettings settings file = rule.visits runSettings settings.unsuppressed file := by
  rw [visits, walkAll_eq_filter]
  exact filterMap_filter_keeps (fun _ => rfl) _

theorem perform_reports (context : RuleContext) (reports : List Visit.Report) :
    rule.perform context (Visit.reports reports) =
      ⟨(reports.filter fun report =>
          !context.settings.isSuppressed report.span.start.line rule.identifier).map
        fun report => .issue (rule.issueOf report), .ok ()⟩ := by
  induction reports with
  | nil => rfl
  | cons report rest ih =>
    have written : rule.reported context.settings report =
        ⟨([report].filter fun report =>
            !context.settings.isSuppressed report.span.start.line rule.identifier).map
          fun report => .issue (rule.issueOf report), .ok ()⟩ := by
      by_cases silent : context.settings.isSuppressed report.span.start.line rule.identifier = true
      · simp [reported, issue?, silent, pure]
      · simp [reported, issue?, silent, Journal.write, issueOf]
    rw [Visit.reports, perform_report, written, Journal.bind_of_ok rfl, ih, ← List.map_append,
      ← List.filter_append]
    rfl

/-- The issues of a run are those of the same run without silent lines, less the ones that start
on a line silent for the rule, and all else is the same: the visits, the settings they get, the
events and the fault, if there is one. The reports of a single visit become issues likewise. -/
theorem run_filters_suppressed (rule : Rule) (runSettings : RunSettings) {cache : SettingsCache}
    {file : SourceFile} {settings : Settings}
    (known : (cache.settingsFor file).1.settings = settings) :
    (rule.run runSettings cache file).2.result =
        (rule.check runSettings settings.unsuppressed file).result.map
          (·.filter fun issue =>
            !settings.isSuppressed issue.span.start.line rule.identifier) ∧
      (rule.run runSettings cache file).2.entries =
        (rule.check runSettings settings.unsuppressed file).entries ∧
      rule.visits runSettings settings file =
        rule.visits runSettings settings.unsuppressed file ∧
      rule.lookups runSettings settings file =
        rule.lookups runSettings settings.unsuppressed file ∧
      ∀ (context : RuleContext) (reports : List Visit.Report),
        rule.perform context (Visit.reports reports) =
          ⟨(reports.filter fun report =>
              !context.settings.isSuppressed report.span.start.line rule.identifier).map
            fun report => .issue (rule.issueOf report), .ok ()⟩ := by
  have checked : (rule.run runSettings cache file).2 = rule.check runSettings settings file := by
    rw [← known]
    rfl
  have walked : rule.walkAll settings runSettings file.declarations =
      (rule.walkAll settings.unsuppressed runSettings file.declarations).filter
        (rule.keeps settings) := walkAll_eq_filter file.declarations
  rw [checked, check, check, outcome, outcome, walked]
  refine ⟨?_, filterMap_filter_keeps (fun _ => rfl) _, visits_unsuppressed file, ?_,
    perform_reports⟩
  · change Except.map _ (Journal.result _) = _
    rw [Journal.filter, issues_filter_keeps]
    cases (rule.walkAll settings.unsuppressed runSettings file.declarations).result <;> rfl
  · rw [lookups, lookups, visits_unsuppressed]
    exact List.flatMap_congr fun declaration _ => (lookups_unsuppressed _ _).symm

/-- Two functions, of which the second stands on a line that is silent for `echo`. -/
def halfSilentFile : SourceFile where
  identifier := "a.c"
  declarations :=
    [⟨.function, "f", .between "a.c" 2 1 4 2, none, []⟩,
      ⟨.function, "g", .between "a.c" 5 1 8 2, none, []⟩]
  comments := [⟨5, "// declint:suppress(echo) declint:rule_configure(depth=3)"⟩]

/-- Reports every function, and asks for a setting at each. -/
def echo : Rule :=
  RuleScript.rule
    ⟨"echo", .minor, .naming, ["function"], [], [], some ("depth", .integer 1), none, false⟩

theorem run_filters_suppressed_echo :
    (SettingsCache.empty.settingsFor halfSilentFile).1.settings = .ofFile halfSilentFile ∧
      (echo.check .empty (Settings.ofFile halfSilentFile).unsuppressed halfSilentFile).result.map
          (·.map Issue.description) = .ok ["saw f", "saw g"] ∧
      (echo.run .empty .empty halfSilentFile).2.result.map (·.map Issue.description) =
        .ok ["saw f"] ∧
      (echo.run .empty .empty halfSilentFile).2.result =
        (echo.check .empty (Settings.ofFile halfSilentFile).unsuppressed halfSilentFile).result.map
          (·.filter fun issue =>
            !(Settings.ofFile halfSilentFile).isSuppressed issue.span.start.line "echo") ∧
      echo.lookups .empty (.ofFile halfSilentFile) halfSilentFile =
        echo.lookups .empty (Settings.ofFile halfSilentFile).unsuppressed halfSilentFile := by
  have known : (SettingsCache.empty.settingsFor halfSilentFile).1.settings =
      .ofFile halfSilentFile := rfl
  obtain ⟨issues, -, -, lookups, -⟩ := run_filters_suppressed echo .empty known
  exact ⟨known, rfl, rfl, issues, lookups⟩

end Rule
end DeclarationLint
