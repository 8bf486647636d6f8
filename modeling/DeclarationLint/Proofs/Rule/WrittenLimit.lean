import DeclarationLint.Proofs.Directive.Sequence
import DeclarationLint.Proofs.Number.DecimalText
import DeclarationLint.Proofs.Rule.Outcome
import DeclarationLint.Proofs.Rule.Route
import DeclarationLint.Proofs.Rule.StatementCount

/-!
# Limits written in comments

A limit that the only directive of a line asks for is the limit in force there, whatever the run
asks for: its decimal text goes through the scanner, is cut at commas and at the equals sign, and
is read as the integer that was written, which is also the one that the message names. Integers
that are too long to be read count for nothing. The comment is then as good as none, and the limit
is that of the run or the default.
-/
namespace DeclarationLint

open Literal

/-- A setting is looked for in the comments of the line first, and in the settings of the run
next. -/
theorem RuleContext.resolve_ofComments (comments : List Comment) (runSettings : RunSettings)
    (declaration : Declaration) (key : String) (default : Value) :
    RuleContext.resolve ⟨.ofComments comments, runSettings, some declaration⟩ key default =
      SettingSources.firstConvertible default
        (((lineSetting comments declaration.line key).map Value.text).toList ++
          (runSettings.get? key).toList) := by
  rw [RuleContext.resolve, SettingSources.resolve, RuleContext.candidates_sources,
    ← Settings.get?_configurationAt_ofComments]
  rfl

namespace Rule.StatementCount

/-- The directive that asks for a limit. -/
def limitDirective (limit : Int) : Directive :=
  ⟨Directive.ruleConfigure, some ("NCSS=" ++ toString limit)⟩

/-- The comment asks for a limit right behind its first anchor. Behind the anchor it may have
spaces anywhere, and any text after the directive. -/
def AsksFor (text : String) (limit : Int) : Prop :=
  ∃ front spaced rest, Text.FirstOccurrence Directive.anchor text.toList front spaced ∧
    Directive.withoutSpaces spaced =
      (":rule_configure(NCSS=" ++ toString limit ++ ")").toList ++ rest

theorem writable_limitDirective (limit : Int) : (limitDirective limit).Writable := by
  have keyword : Directive.CleanWord Directive.ruleConfigure.toList :=
    ⟨⟨by decide, by decide⟩, by decide, by decide⟩
  have noSpace : ' ' ∉ (toString limit).toList := notMem_toString rfl (by decide) limit
  have noClose : ')' ∉ (toString limit).toList := notMem_toString rfl (by decide) limit
  refine ⟨keyword, ?_, by simp [limitDirective]⟩
  intro argument same
  obtain rfl := Option.some.inj same
  constructor
  · simpa using noSpace
  · simpa using noClose

/-- Such a comment has the directive. -/
theorem AsksFor.mem_scan {text : String} {limit : Int} (asks : AsksFor text limit) :
    limitDirective limit ∈ Directive.scan text := by
  obtain ⟨front, spaced, rest, found, reads⟩ := asks
  have rendered : (":rule_configure(NCSS=" ++ toString limit ++ ")").toList =
      ':' :: (limitDirective limit).render.toList := by
    simp [limitDirective, Directive.render, Directive.ruleConfigure]
  rw [rendered] at reads
  rw [Directive.scan_of_render found reads (writable_limitDirective limit)
    (by simp [limitDirective])]
  exact List.mem_cons_self

theorem tokens_limitDirective (limit : Int) :
    (limitDirective limit).tokens = ["NCSS=" ++ toString limit] := by
  have noComma : ',' ∉ ("NCSS=" ++ toString limit).toList := by
    have digits : ',' ∉ (toString limit).toList := notMem_toString rfl (by decide) limit
    simpa using digits
  have keyword : (limitDirective limit).keyword = Directive.ruleConfigure := rfl
  rw [Directive.tokens, if_pos keyword, limitDirective, Option.toList_some,
    List.flatMap_singleton, Text.pieces, List.splitOn_eq_singleton noComma, List.map_singleton,
    String.ofList_toList]

theorem splitsOnce_limit (limit : Int) :
    Text.SplitsOnce '=' ("NCSS=" ++ toString limit) "NCSS" (toString limit) where
  split := by simp
  left := by decide
  right := notMem_toString rfl (by decide) limit

section

variable {comments : List Comment} {runSettings : RunSettings} {declaration : Declaration}
  {limit : Int}

/-- The line gives the rule the decimal text of the limit. -/
theorem lineSetting_of_only (only : directivesOn comments declaration.line =
    [limitDirective limit]) :
    lineSetting comments declaration.line "NCSS" = some (toString limit) := by
  rw [lineSetting_eq_some_iff]
  refine ⟨[], "NCSS=" ++ toString limit, [], ?_, splitsOnce_limit limit, by simp⟩
  rw [only, List.flatMap_singleton, tokens_limitDirective]
  rfl

/-- What the rule finds under its key where the line asks for a limit: this limit if it can be
read, and what it would find without the comments if not. -/
theorem resolve_of_only (only : directivesOn comments declaration.line = [limitDirective limit]) :
    RuleContext.resolve ⟨.ofComments comments, runSettings, some declaration⟩ thresholdKey
        (.integer defaultThreshold) =
      if digitCount limit ≤ mostDigits then .ok (.integer limit)
      else RuleContext.resolve ⟨.empty, runSettings, some declaration⟩ thresholdKey
        (.integer defaultThreshold) := by
  have written : lineSetting comments declaration.line thresholdKey = some (toString limit) :=
    lineSetting_of_only only
  have converted : Value.convertLike? (.integer defaultThreshold) (.text (toString limit)) =
      .ok ((integer? (toString limit)).map Value.integer) := rfl
  rw [RuleContext.resolve_ofComments, written, Option.map_some, Option.toList_some,
    List.singleton_append, SettingSources.firstConvertible, converted, integer?_toString]
  by_cases short : digitCount limit ≤ mostDigits
  · rw [if_pos short, if_pos short]
    rfl
  · rw [if_neg short, if_neg short]
    rfl

theorem isSuppressed_of_only (only : directivesOn comments declaration.line =
    [limitDirective limit]) :
    (Settings.ofComments comments).isSuppressed declaration.line rule.identifier = false := by
  rw [Bool.eq_false_iff, Ne, Settings.isSuppressed_ofComments_iff, only]
  rintro ⟨directive, member, keyword, -⟩
  obtain rfl := List.mem_singleton.mp member
  have other : Directive.ruleConfigure ≠ Directive.suppress := by decide
  exact other keyword

/-- A line without directives gives no setting. -/
theorem resolve_of_none (noDirective : directivesOn comments declaration.line = []) :
    RuleContext.resolve ⟨.ofComments comments, runSettings, some declaration⟩ thresholdKey
        (.integer defaultThreshold) =
      RuleContext.resolve ⟨.empty, runSettings, some declaration⟩ thresholdKey
        (.integer defaultThreshold) := by
  rw [RuleContext.resolve_ofComments, lineSetting, noDirective]
  rfl

theorem isSuppressed_of_none (noDirective : directivesOn comments declaration.line = []) :
    (Settings.ofComments comments).isSuppressed declaration.line rule.identifier = false := by
  rw [Bool.eq_false_iff, Ne, Settings.isSuppressed_ofComments_iff, noDirective]
  simp

end

section

variable {settings other : Settings} {runSettings : RunSettings} {declaration : Declaration}

theorem visitOne_of_perform {performed : Journal Finding Fault Bool}
    (same : rule.perform ⟨settings, runSettings, some declaration⟩ (visit declaration) =
      performed) :
    rule.visitOne settings runSettings declaration =
      ⟨.visit declaration :: performed.entries, performed.result⟩ := by
  rw [← same]
  rfl

/-- The visit of a declaration with a body to measure, once its limit is known and its line is not
silent. -/
theorem visitOne_of_resolve {limit : Int} (callable : declaration.kind.isCallable = true)
    (resolved : RuleContext.resolve ⟨settings, runSettings, some declaration⟩ thresholdKey
      (.integer defaultThreshold) = .ok (.integer limit))
    (heard : settings.isSuppressed declaration.line rule.identifier = false) :
    rule.visitOne settings runSettings declaration =
      ⟨.visit declaration ::
        if limit < declaration.statementCount then [.issue (lengthIssue declaration limit)] else [],
        .ok true⟩ := by
  have performed := perform_visit callable resolved
  rw [issue?_eq, heard, if_neg Bool.false_ne_true, Declaration.ncss_eq_statementCount] at performed
  exact visitOne_of_perform performed

/-- The rule looks at nothing in the settings but its own key and whether the line is silent. -/
theorem visitOne_congr
    (resolved : RuleContext.resolve ⟨settings, runSettings, some declaration⟩ thresholdKey
        (.integer defaultThreshold) =
      RuleContext.resolve ⟨other, runSettings, some declaration⟩ thresholdKey
        (.integer defaultThreshold))
    (silent : settings.isSuppressed declaration.line rule.identifier =
      other.isSuppressed declaration.line rule.identifier) :
    rule.visitOne settings runSettings declaration =
      rule.visitOne other runSettings declaration := by
  have same : rule.perform ⟨settings, runSettings, some declaration⟩ (visit declaration) =
      rule.perform ⟨other, runSettings, some declaration⟩ (visit declaration) := by
    by_cases callable : declaration.kind.isCallable = true
    · cases outcome : RuleContext.resolve ⟨other, runSettings, some declaration⟩ thresholdKey
          (.integer defaultThreshold) with
      | error overflow =>
        rw [perform_visit_of_error callable (resolved.trans outcome),
          perform_visit_of_error callable outcome]
      | ok value =>
        have limit := RuleContext.resolve_integer_ok outcome
        rw [limit] at outcome
        rw [perform_visit callable (resolved.trans outcome), perform_visit callable outcome,
          issue?_eq, issue?_eq, silent]
    · rw [perform_visit_of_not_callable callable, perform_visit_of_not_callable callable]
  rw [visitOne_of_perform same]
  rfl

/-- Where all visits are the same, checks are. -/
theorem check_congr (same : ∀ declaration, rule.visitOne settings runSettings declaration =
    rule.visitOne other runSettings declaration) (file : SourceFile) :
    rule.check runSettings settings file = rule.check runSettings other file := by
  have agenda : rule.agendaAll settings runSettings file.declarations =
      rule.agendaAll other runSettings file.declarations := by
    rw [agendaAll_eq_preorderAll (descends_eq_true settings runSettings),
      agendaAll_eq_preorderAll (descends_eq_true other runSettings)]
  rw [check, check, walkAll_eq_visitEach, walkAll_eq_visitEach, agenda,
    visitEach_congr fun declaration _ => same declaration]

end

section

variable {comments : List Comment} {runSettings : RunSettings} {declaration : Declaration}
  {limit : Int}

theorem limitAt_of_only (only : directivesOn comments declaration.line = [limitDirective limit])
    (short : digitCount limit ≤ mostDigits) :
    limitAt runSettings comments declaration.line = limit := by
  rw [limitAt, lineSetting_of_only only, Option.bind_some, integer?_toString, if_pos short]
  rfl

theorem lengthIssue?_of_only
    (only : directivesOn comments declaration.line = [limitDirective limit])
    (short : digitCount limit ≤ mostDigits) :
    lengthIssue? runSettings comments declaration =
      if declaration.kind.isCallable = true ∧ limit < declaration.statementCount then
        some (lengthIssue declaration limit)
      else none := by
  simp only [lengthIssue?, isTooLong_iff, limitAt_of_only only short, isSuppressed_of_only only,
    Declaration.ncss_eq_statementCount]
  simp

/-- A declaration on the line is reported if and only if it exceeds the limit, and whatever the
run asks for the visit succeeds. -/
theorem visitOne_of_only (only : directivesOn comments declaration.line = [limitDirective limit])
    (short : digitCount limit ≤ mostDigits) (callable : declaration.kind.isCallable = true) :
    rule.visitOne (.ofComments comments) runSettings declaration =
      ⟨.visit declaration ::
        if limit < declaration.statementCount then [.issue (lengthIssue declaration limit)] else [],
        .ok true⟩ := by
  refine visitOne_of_resolve callable ?_ (isSuppressed_of_only only)
  rw [resolve_of_only only, if_pos short]

/-- No visit on the line fails. -/
theorem succeeds_of_only (only : directivesOn comments declaration.line = [limitDirective limit])
    (short : digitCount limit ≤ mostDigits) :
    (rule.visitOne (.ofComments comments) runSettings declaration).result = .ok true := by
  by_cases callable : declaration.kind.isCallable = true
  · rw [visitOne_of_only only short callable]
  · have performed : rule.perform ⟨.ofComments comments, runSettings, some declaration⟩
        (visit declaration) = pure true := perform_visit_of_not_callable callable
    rw [visitOne_of_perform performed]
    rfl

/-- A limit that cannot be read is as good as none. -/
theorem visitOne_of_only_long {others : List Comment}
    (only : directivesOn comments declaration.line = [limitDirective limit])
    (noDirective : directivesOn others declaration.line = []) (long : mostDigits < digitCount limit) :
    rule.visitOne (.ofComments comments) runSettings declaration =
      rule.visitOne (.ofComments others) runSettings declaration := by
  apply visitOne_congr
  · rw [resolve_of_only only, if_neg (by omega), resolve_of_none noDirective]
  · rw [isSuppressed_of_only only, isSuppressed_of_none noDirective]

theorem visitOne_of_directivesOn_eq {others : List Comment}
    (same : directivesOn comments declaration.line = directivesOn others declaration.line) :
    rule.visitOne (.ofComments comments) runSettings declaration =
      rule.visitOne (.ofComments others) runSettings declaration := by
  apply visitOne_congr
  · rw [RuleContext.resolve_ofComments, RuleContext.resolve_ofComments, lineSetting, lineSetting,
      same]
  · rw [Bool.eq_iff_iff, Settings.isSuppressed_ofComments_iff,
      Settings.isSuppressed_ofComments_iff, same]

end

/-- A comment asks for a limit, and its line has no other directive. -/
structure AsksAlone (before : List Comment) (carrier : Comment) (after : List Comment)
    (limit : Int) : Prop where
  asks : limitDirective limit ∈ Directive.scan carrier.text
  alone : (directivesOn (before ++ carrier :: after) carrier.line).length = 1

section

variable {before after : List Comment} {carrier : Comment} {limit : Int}

theorem directivesOn_eq_of_ne {line : Int} (other : line ≠ carrier.line) :
    directivesOn (before ++ carrier :: after) line = directivesOn (before ++ after) line := by
  rw [directivesOn_append, directivesOn_cons, if_neg (Ne.symm other), directivesOn_append,
    List.nil_append]

theorem AsksAlone.directivesOn_eq (written : AsksAlone before carrier after limit) :
    directivesOn (before ++ carrier :: after) carrier.line = [limitDirective limit] ∧
      directivesOn (before ++ after) carrier.line = [] := by
  obtain ⟨asks, alone⟩ := written
  obtain ⟨earlier, later, scanned⟩ := List.append_of_mem asks
  rw [directivesOn_append, directivesOn_cons, if_pos rfl, scanned] at alone ⊢
  rw [directivesOn_append]
  simp only [List.length_append, List.length_cons] at alone
  have noneBefore : directivesOn before carrier.line = [] :=
    List.eq_nil_of_length_eq_zero (by omega)
  have noneAfter : directivesOn after carrier.line = [] :=
    List.eq_nil_of_length_eq_zero (by omega)
  have noEarlier : earlier = [] := List.eq_nil_of_length_eq_zero (by omega)
  have noLater : later = [] := List.eq_nil_of_length_eq_zero (by omega)
  simp [noneBefore, noneAfter, noEarlier, noLater]

/-- Without a comment that asks for a limit which cannot be read every visit is the same. -/
theorem AsksAlone.visitOne_eq_without (written : AsksAlone before carrier after limit)
    (long : mostDigits < digitCount limit) (runSettings : RunSettings)
    (declaration : Declaration) :
    rule.visitOne (.ofComments (before ++ carrier :: after)) runSettings declaration =
      rule.visitOne (.ofComments (before ++ after)) runSettings declaration := by
  obtain ⟨only, noDirective⟩ := written.directivesOn_eq
  by_cases here : declaration.line = carrier.line
  · rw [← here] at only noDirective
    exact visitOne_of_only_long only noDirective long
  · exact visitOne_of_directivesOn_eq (directivesOn_eq_of_ne here)

/-- The issues on the line of the comment are those of the declarations there that exceed the
limit. -/
theorem AsksAlone.issues_on_line (written : AsksAlone before carrier after limit)
    (short : digitCount limit ≤ mostDigits) (runSettings : RunSettings)
    (declarations : List Declaration) :
    (declarations.filterMap (lengthIssue? runSettings (before ++ carrier :: after))).filter
        (·.span.start.line = carrier.line) =
      (declarations.filter fun declaration => declaration.kind.isCallable = true ∧
        declaration.line = carrier.line ∧ limit < declaration.statementCount).map
          (lengthIssue · limit) := by
  obtain ⟨only, -⟩ := written.directivesOn_eq
  rw [List.filter_filterMap, ← List.filterMap_eq_map, List.filterMap_filter]
  congr 1
  funext declaration
  by_cases here : declaration.line = carrier.line
  · rw [← here] at only
    rw [lengthIssue?_of_only only short]
    have place : (lengthIssue declaration limit).span.start.line = carrier.line := here
    by_cases long : declaration.kind.isCallable = true ∧ limit < declaration.statementCount
    · simp [long, here, place]
    · have within : ¬ (declaration.kind.isCallable = true ∧ declaration.line = carrier.line ∧
          limit < declaration.statementCount) := fun all => long ⟨all.1, all.2.2⟩
      simp [long, within]
  · have place : ∀ bound, (lengthIssue declaration bound).span.start.line ≠ carrier.line :=
      fun _ => here
    unfold lengthIssue?
    split
    · simp [here, place]
    · simp [here]

end

/-- A limit decides on a line, in each visit and in the run as a whole. -/
structure InForce (runSettings : RunSettings) (file : SourceFile) (line limit : Int) : Prop where
  /-- The visit of a declaration on the line succeeds, and reports the declaration if and only if
  it has more statements than the limit, which the message names. -/
  visit : ∀ declaration : Declaration, declaration.kind.isCallable = true →
    declaration.line = line →
      rule.visitOne (.ofFile file) runSettings declaration =
        ⟨.visit declaration ::
          if limit < declaration.statementCount then [.issue (lengthIssue declaration limit)]
          else [], .ok true⟩
  /-- On the line the run reports the declarations that have more statements than the limit. -/
  issues : ∀ issues, (rule.run runSettings .empty file).2.result = .ok issues →
    issues.filter (·.span.start.line = line) =
      ((Declaration.preorderAll file.declarations).filter fun declaration =>
        declaration.kind.isCallable = true ∧ declaration.line = line ∧
          limit < declaration.statementCount).map (lengthIssue · limit)
  /-- The run fails at other lines only. -/
  failure : ∀ fault, (rule.run runSettings .empty file).2.result = .error fault →
    ∃ failing ∈ Declaration.preorderAll file.declarations, failing.line ≠ line ∧
      (rule.visitOne (.ofFile file) runSettings failing).result = .error fault

theorem AsksAlone.inForce {file : SourceFile} {before after : List Comment} {carrier : Comment}
    {limit : Int} (comments : file.comments = before ++ carrier :: after)
    (written : AsksAlone before carrier after limit) (short : digitCount limit ≤ mostDigits)
    (runSettings : RunSettings) : InForce runSettings file carrier.line limit := by
  have only := written.directivesOn_eq.1
  rw [← comments] at only
  constructor
  · intro declaration callable here
    rw [← here] at only
    exact visitOne_of_only only short callable
  · intro issues returned
    have checked : (rule.check runSettings (.ofComments file.comments) file).result = .ok issues :=
      returned
    rw [issues_of_check_ok checked, comments]
    exact written.issues_on_line short runSettings _
  · intro fault failed
    have checked : (rule.check runSettings (.ofComments file.comments) file).result =
      .error fault := failed
    obtain ⟨failing, member, reason⟩ := exists_visitOne_error_of_check checked
    rw [agendaAll_eq_preorderAll (descends_eq_true _ runSettings)] at member
    refine ⟨failing, (List.mem_filter.mp member).1, fun here => ?_, reason⟩
    -- No visit on the line fails, not even of what has no body to measure.
    rw [← here] at only
    rw [succeeds_of_only only short] at reason
    cases reason

/-- A comment with nothing in it but a directive that asks for a limit. -/
theorem asksAlone_commentOf (line limit : Int) :
    AsksAlone [] ⟨line, Directive.commentOf [limitDirective limit]⟩ [] limit := by
  have scanned : Directive.scan (Directive.commentOf [limitDirective limit]) =
      Directive.foundIn [limitDirective limit] :=
    Directive.scan_commentOf (by simpa using writable_limitDirective limit)
  have single : Directive.foundIn [limitDirective limit] = [limitDirective limit] := rfl
  constructor
  · rw [scanned, single]
    exact List.mem_singleton_self _
  · rw [List.nil_append, directivesOn_cons, if_pos rfl, scanned, single]
    rfl

/-- Two functions on one line. -/
def twoOnALine (comments : List Comment) : SourceFile where
  identifier := "a.c"
  declarations :=
    [⟨.function, "f", .between "a.c" 5 1 5 9, some [⟨.jump, .empty, []⟩], []⟩,
      ⟨.initializer, "g", .between "a.c" 5 11 6 2, none, []⟩]
  comments := comments

/-- A comment that asks for less than no statements. -/
def lessThanNone : Comment := ⟨5, "/* declint : rule_conf igure(NC SS = -1) */"⟩

/-- A comment that asks for a limit with 4301 digits. -/
def tooManyDigits : Comment := ⟨5, Directive.commentOf [limitDirective (10 ^ 4300)]⟩

end Rule.StatementCount
end DeclarationLint
