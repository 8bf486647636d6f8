import DeclarationLint.Proofs.Rule.Suppression
import DeclarationLint.Proofs.Settings.OnLine
import DeclarationLint.Rule.StatementCount

/-!
# Rules that stay in place

A rule is local if it reports nothing but at the declaration that it visits, and if no setting
decides whether it goes on into the members. What a local rule does at a declaration depends on
the settings of a single line, the one on which the declaration starts
(`Local.visitOne_eq_of_onLine_eq`). Settings that differ on one line thus lead it to the same
declarations and to the same issues, except for those that start on this line.
-/
namespace DeclarationLint

namespace Journal

theorem filter_congr {ω ε α : Type} {keep other : ω → Bool} {journal : Journal ω ε α}
    (same : ∀ entry ∈ journal.entries, keep entry = other entry) :
    journal.filter keep = journal.filter other := by
  rw [filter, filter, List.filter_congr same]

end Journal

/-- The issues that do not start on a line. -/
def elsewhere (line : Int) (issues : List Issue) : List Issue :=
  issues.filter (·.span.start.line ≠ line)

namespace Settings

variable {settings other : Settings} {line : Int}

theorem configurationAt_eq_of_onLine_eq (same : settings.onLine line = other.onLine line) :
    settings.configurationAt line = other.configurationAt line :=
  congrArg (fun held => held.configuration.getD .empty) same

theorem isSuppressed_eq_of_onLine_eq (same : settings.onLine line = other.onLine line)
    (rule : String) : settings.isSuppressed line rule = other.isSuppressed line rule := by
  have silent : settings.suppressions.get? line = other.suppressions.get? line :=
    congrArg OnLine.suppression same
  rw [isSuppressed, isSuppressed, silent]

end Settings

namespace Visit

/-- The visit reports nothing but at the given place, and has no other than the given answer. -/
def StaysAt {α : Type} (place : Span) (answer : α) : Visit α → Prop
  | done given => given = answer
  | fail _ => True
  | lookup _ _ next => ∀ value, (next value).StaysAt place answer
  | report span _ _ next => span = place ∧ next.StaysAt place answer
  | note _ next => next.StaysAt place answer

end Visit

namespace Rule

/-- The rule reports nothing but at the declaration being visited, and no setting of a line
decides whether it goes on into the members. -/
structure Local (rule : Rule) : Prop where
  place : ∀ settings runSettings declaration issue,
    Finding.issue issue ∈ (rule.visitOne settings runSettings declaration).entries →
      issue.span = declaration.span
  descent : ∀ settings other runSettings declaration answer otherAnswer,
    (rule.visitOne settings runSettings declaration).result = .ok answer →
      (rule.visitOne other runSettings declaration).result = .ok otherAnswer →
        answer = otherAnswer

variable {rule : Rule} {settings other : Settings} {runSettings : RunSettings}

theorem span_of_mem_reported {report : Visit.Report} {issue : Issue}
    (member : Finding.issue issue ∈ (rule.reported settings report).entries) :
    issue.span = report.span := by
  obtain rfl := Finding.issue.inj (eq_issueOf_of_mem_reported member)
  rfl

/-- What stays in place is carried out in place. -/
theorem perform_of_staysAt {α : Type} {context : RuleContext} {place : Span} {answer : α}
    {visit : Visit α} (stays : visit.StaysAt place answer) :
    (∀ issue, Finding.issue issue ∈ (rule.perform context visit).entries → issue.span = place) ∧
      ∀ given, (rule.perform context visit).result = .ok given → given = answer := by
  induction visit with
  | done given => exact ⟨by simp [perform], fun _ success => Except.ok.inj success ▸ stays⟩
  | fail fault => exact ⟨by simp [perform, Journal.fail], fun _ success => by cases success⟩
  | lookup key default next ih =>
    unfold perform
    cases context.resolve key default with
    | error overflow => exact ⟨by simp [Journal.fail], fun _ success => by cases success⟩
    | ok value => exact ih value (stays value)
  | report span description correction next ih =>
    obtain ⟨here, stays⟩ := stays
    obtain ⟨places, answers⟩ := ih stays
    have performed := perform_report rule context ⟨span, description, correction⟩ next
    rw [Journal.bind_of_ok (result_reported _ _)] at performed
    rw [performed]
    refine ⟨fun issue member => ?_, answers⟩
    rcases List.mem_append.mp member with first | later
    · exact (span_of_mem_reported first).trans here
    · exact places issue later
  | note event next ih =>
    obtain ⟨places, answers⟩ := ih stays
    unfold perform
    rw [Journal.bind_of_ok rfl]
    refine ⟨fun issue member => ?_, answers⟩
    rcases List.mem_append.mp member with first | later
    · cases List.mem_singleton.mp first
    · exact places issue later

theorem local_of_staysAt
    (stays : ∀ declaration, ∃ answer, (rule.visit declaration).StaysAt declaration.span answer) :
    rule.Local where
  place settings runSettings declaration issue member := by
    obtain ⟨answer, stays⟩ := stays declaration
    rw [visitOne_eq] at member
    rcases List.mem_cons.mp member with visited | found
    · cases visited
    · exact (perform_of_staysAt stays).1 issue found
  descent settings other runSettings declaration answer otherAnswer success otherSuccess := by
    obtain ⟨only, stays⟩ := stays declaration
    rw [(perform_of_staysAt stays).2 answer success,
      (perform_of_staysAt stays).2 otherAnswer otherSuccess]

theorem local_statementCount : StatementCount.rule.Local := by
  refine local_of_staysAt fun declaration => ⟨true, ?_⟩
  change (StatementCount.visit declaration).StaysAt declaration.span true
  unfold StatementCount.visit
  by_cases callable : declaration.kind.isCallable = true
  · rw [if_pos callable]
    have reports : ∀ threshold : Int, Visit.StaysAt declaration.span true
        (do
          if threshold < declaration.ncss then
            Visit.issue declaration.span
              (StatementCount.describe declaration.ncss threshold) none
          pure true) := by
      intro threshold
      by_cases long : threshold < declaration.ncss
      · rw [if_pos long]
        exact ⟨rfl, rfl⟩
      · rw [if_neg long]
        exact rfl
    intro value
    cases value with
    | integer threshold => exact reports threshold
    | _ => exact reports StatementCount.defaultThreshold
  · rw [if_neg callable]
    exact rfl

theorem local_script (script : RuleScript) : script.rule.Local := by
  refine local_of_staysAt fun declaration => ⟨declaration.name ∉ script.closed, ?_⟩
  change (script.visit declaration).StaysAt declaration.span _
  unfold RuleScript.visit
  by_cases faulty : declaration.name ∈ script.faulty
  · rw [if_pos faulty]
    exact trivial
  · rw [if_neg faulty]
    have reports : ∀ value : Option Value,
        Visit.StaysAt declaration.span (decide (declaration.name ∉ script.closed)) (do
          Visit.noted ⟨script.identifier, declaration.kind, declaration.name, value⟩
          if declaration.kind.word ∈ script.reported then
            script.report declaration
          pure (decide (declaration.name ∉ script.closed))) := by
      intro value
      by_cases reported : declaration.kind.word ∈ script.reported
      · rw [if_pos reported]
        unfold RuleScript.report
        cases script.correction <;> exact ⟨rfl, rfl⟩
      · rw [if_neg reported]
        exact rfl
    cases script.setting with
    | none => exact reports none
    | some setting => exact fun value => reports (some value)

theorem perform_unsuppressed_congr {α : Type} {declaration : Declaration}
    (same : settings.configurationAt declaration.line = other.configurationAt declaration.line)
    (visit : Visit α) :
    rule.perform ⟨settings.unsuppressed, runSettings, some declaration⟩ visit =
      rule.perform ⟨other.unsuppressed, runSettings, some declaration⟩ visit := by
  have resolved : ∀ key default,
      RuleContext.resolve ⟨settings.unsuppressed, runSettings, some declaration⟩ key default =
        RuleContext.resolve ⟨other.unsuppressed, runSettings, some declaration⟩ key default := by
    intro key default
    have line : RuleContext.lineSettings ⟨settings.unsuppressed, runSettings, some declaration⟩ =
        RuleContext.lineSettings ⟨other.unsuppressed, runSettings, some declaration⟩ := same
    rw [RuleContext.resolve, RuleContext.sources, line]
    rfl
  induction visit with
  | done answer => rfl
  | fail fault => rfl
  | lookup key default next ih =>
    unfold perform
    rw [resolved]
    cases RuleContext.resolve ⟨other.unsuppressed, runSettings, some declaration⟩ key default with
    | error overflow => rfl
    | ok value => exact ih value
  | report span description correction next ih =>
    unfold perform
    rw [ih]
    rfl
  | note event next ih =>
    unfold perform
    rw [ih]

/-- A local rule looks at the settings of the line on which a declaration starts, and at no
others. -/
theorem Local.visitOne_eq_of_onLine_eq (isLocal : rule.Local) {declaration : Declaration}
    (same : settings.onLine declaration.line = other.onLine declaration.line) :
    rule.visitOne settings runSettings declaration =
      rule.visitOne other runSettings declaration := by
  have loud : rule.visitOne settings.unsuppressed runSettings declaration =
      rule.visitOne other.unsuppressed runSettings declaration := by
    rw [visitOne, visitOne,
      perform_unsuppressed_congr (Settings.configurationAt_eq_of_onLine_eq same)]
  have keeps : ∀ finding ∈ (rule.visitOne other.unsuppressed runSettings declaration).entries,
      rule.keeps settings finding = rule.keeps other finding := by
    intro finding member
    cases finding with
    | visit declaration => rfl
    | event event => rfl
    | issue issue =>
      have place := isLocal.place _ _ _ issue member
      have silent := Settings.isSuppressed_eq_of_onLine_eq same rule.identifier
      rw [keeps, keeps, place]
      exact congrArg (!·) silent
  calc
    rule.visitOne settings runSettings declaration =
        (rule.visitOne settings.unsuppressed runSettings declaration).filter
          (rule.keeps settings) := visitOne_eq_filter declaration
    _ = (rule.visitOne other.unsuppressed runSettings declaration).filter
          (rule.keeps other) := by rw [loud, Journal.filter_congr keeps]
    _ = rule.visitOne other runSettings declaration := (visitOne_eq_filter declaration).symm

/-- The visit of a declaration gives an answer. -/
def Succeeds (rule : Rule) (settings : Settings) (runSettings : RunSettings)
    (declaration : Declaration) : Prop :=
  ∃ answer, (rule.visitOne settings runSettings declaration).result = .ok answer

theorem Local.descends_eq (isLocal : rule.Local) {declaration : Declaration}
    (success : declaration.kind.isVisited = true →
      rule.Succeeds settings runSettings declaration)
    (otherSuccess : declaration.kind.isVisited = true →
      rule.Succeeds other runSettings declaration) :
    rule.descends settings runSettings declaration =
      rule.descends other runSettings declaration := by
  unfold descends
  by_cases visited : declaration.kind.isVisited = true
  · obtain ⟨answer, success⟩ := success visited
    obtain ⟨otherAnswer, otherSuccess⟩ := otherSuccess visited
    rw [if_pos visited, if_pos visited, success, otherSuccess]
    exact isLocal.descent _ _ _ _ _ _ success otherSuccess
  · rw [if_neg visited, if_neg visited]

mutual

/-- Where no visit fails, settings do not change which declarations a local rule visits. -/
theorem Local.agenda_eq (isLocal : rule.Local) (declaration : Declaration)
    (success : ∀ visited ∈ rule.agenda settings runSettings declaration,
      rule.Succeeds settings runSettings visited)
    (otherSuccess : ∀ visited ∈ rule.agenda other runSettings declaration,
      rule.Succeeds other runSettings visited) :
    rule.agenda settings runSettings declaration = rule.agenda other runSettings declaration := by
  obtain ⟨kind, name, span, body, members⟩ := declaration
  rw [agenda] at success otherSuccess ⊢
  rw [agenda]
  have descent : rule.descends settings runSettings ⟨kind, name, span, body, members⟩ =
      rule.descends other runSettings ⟨kind, name, span, body, members⟩ :=
    isLocal.descends_eq
      (fun visited => success _ (List.mem_append_left _ (by rw [if_pos visited]; simp)))
      (fun visited => otherSuccess _ (List.mem_append_left _ (by rw [if_pos visited]; simp)))
  rw [descent] at success ⊢
  congr 1
  by_cases descends : rule.descends other runSettings ⟨kind, name, span, body, members⟩ = true
  · rw [if_pos descends] at success otherSuccess ⊢
    rw [if_pos descends]
    exact isLocal.agendaAll_eq members
      (fun visited member => success visited (List.mem_append_right _ member))
      (fun visited member => otherSuccess visited (List.mem_append_right _ member))
  · rw [if_neg descends, if_neg descends]

theorem Local.agendaAll_eq (isLocal : rule.Local) (declarations : List Declaration)
    (success : ∀ visited ∈ rule.agendaAll settings runSettings declarations,
      rule.Succeeds settings runSettings visited)
    (otherSuccess : ∀ visited ∈ rule.agendaAll other runSettings declarations,
      rule.Succeeds other runSettings visited) :
    rule.agendaAll settings runSettings declarations =
      rule.agendaAll other runSettings declarations := by
  cases declarations with
  | nil => rfl
  | cons declaration rest =>
    rw [agendaAll] at success otherSuccess ⊢
    rw [agendaAll, isLocal.agenda_eq declaration
        (fun visited member => success visited (List.mem_append_left _ member))
        (fun visited member => otherSuccess visited (List.mem_append_left _ member)),
      isLocal.agendaAll_eq rest
        (fun visited member => success visited (List.mem_append_right _ member))
        (fun visited member => otherSuccess visited (List.mem_append_right _ member))]

end

/-- No visit comes from within a visit. -/
theorem visits_perform {α : Type} (context : RuleContext) (visit : Visit α) :
    (rule.perform context visit).entries.filterMap Finding.visit? = [] := by
  rw [List.filterMap_eq_nil_iff]
  exact forall_mem_perform (fun _ => rfl) (fun _ => rfl) visit

theorem visits_visitOne (declaration : Declaration) :
    (rule.visitOne settings runSettings declaration).entries.filterMap Finding.visit? =
      [declaration] := by
  rw [visitOne_eq]
  exact congrArg (declaration :: ·) (visits_perform _ _)

/-- A check with a result visits its whole agenda. -/
theorem visits_eq_agendaAll {file : SourceFile} {issues : List Issue}
    (success : (rule.check runSettings settings file).result = .ok issues) :
    rule.visits runSettings settings file =
      rule.agendaAll settings runSettings file.declarations := by
  obtain ⟨walked, -⟩ := visitEach_of_check_ok success
  rw [visits, walkAll_eq_visitEach, (visitEach_ok walked).2, List.filterMap_flatMap]
  simp [visits_visitOne]

variable {first second : SourceFile} {line : Int} {issues others : List Issue}

theorem Local.elsewhere_visitOne (isLocal : rule.Local) {declaration : Declaration}
    (here : declaration.line = line) (settings : Settings) :
    elsewhere line ((rule.visitOne settings runSettings declaration).entries.filterMap
      Finding.issue?) = [] := by
  rw [elsewhere, List.filter_eq_nil_iff]
  intro issue member
  obtain ⟨finding, found, isIssue⟩ := List.mem_filterMap.mp member
  cases finding with
  | visit | event => cases isIssue
  | issue written =>
    obtain rfl := Option.some.inj isIssue
    have place := isLocal.place _ _ _ _ found
    have start : written.span.start.line = line := by
      rw [place]
      exact here
    simp [start]

theorem Local.check_elsewhere (isLocal : rule.Local)
    (declarations : first.declarations = second.declarations)
    (same : ∀ place ≠ line, settings.onLine place = other.onLine place)
    (success : (rule.check runSettings settings first).result = .ok issues)
    (otherSuccess : (rule.check runSettings other second).result = .ok others) :
    rule.visits runSettings settings first = rule.visits runSettings other second ∧
      elsewhere line issues = elsewhere line others := by
  rw [visits_eq_agendaAll success, visits_eq_agendaAll otherSuccess]
  obtain ⟨succeed, collected⟩ := check_ok success
  obtain ⟨otherSucceed, otherCollected⟩ := check_ok otherSuccess
  rw [← declarations] at otherSucceed otherCollected ⊢
  have agenda := isLocal.agendaAll_eq first.declarations succeed otherSucceed
  refine ⟨agenda, ?_⟩
  rw [collected, otherCollected, agenda, elsewhere, elsewhere, List.filter_flatMap,
    List.filter_flatMap]
  refine List.flatMap_congr fun declaration _ => ?_
  by_cases here : declaration.line = line
  · exact (isLocal.elsewhere_visitOne here settings).trans
      (isLocal.elsewhere_visitOne here other).symm
  · rw [isLocal.visitOne_eq_of_onLine_eq (same declaration.line here)]

end Rule
end DeclarationLint
