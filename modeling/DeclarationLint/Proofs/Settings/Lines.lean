import DeclarationLint.Proofs.Settings.OnLine

/-!
# What the comments of a line say

The settings of a file, told line by line from nothing but the directives in the comments of
the line: which rules those silence, and which settings they give. Comments of other lines
have no part in it.
-/
namespace DeclarationLint

/-- The value that the comments of a line give to a key: the last token for it counts. -/
def lineSetting (comments : List Comment) (line : Int) (key : String) : Option String :=
  KeyedList.lookup key
    (((directivesOn comments line).flatMap Directive.tokens).filterMap Settings.pair?).reverse

/-- The last token among those with one equals sign and the key before it is followed by no
other such token. -/
theorem lineSetting_eq_some_iff (comments : List Comment) (line : Int) (key value : String) :
    lineSetting comments line key = some value ↔
      ∃ before token after,
        (directivesOn comments line).flatMap Directive.tokens = before ++ token :: after ∧
          Text.SplitsOnce '=' token key value ∧
          ∀ later ∈ after, ∀ other, ¬ Text.SplitsOnce '=' later key other := by
  rw [lineSetting, KeyedList.lookup_filterMap_reverse_eq_some_iff]
  simp only [ne_eq, Settings.pair?_eq_some_iff]

namespace Settings

theorem get?_configurationAt_ofComments (comments : List Comment) (line : Int) (key : String) :
    ((ofComments comments).configurationAt line).get? key = lineSetting comments line key := by
  have folded := OnLine.get?_configuration_foldl_add .none (directivesOn comments line) key
  rw [← onLine_ofComments] at folded
  refine folded.trans ?_
  simp [OnLine.none, lineSetting]

theorem isSuppressed_iff (settings : Settings) (line : Int) (rule : String) :
    settings.isSuppressed line rule = true ↔
      ∃ suppression ∈ (settings.onLine line).suppression, suppression.covers rule = true := by
  unfold isSuppressed onLine
  cases settings.suppressions.get? line <;> simp

theorem isSuppressed_ofComments_iff (comments : List Comment) (line : Int) (rule : String) :
    (ofComments comments).isSuppressed line rule = true ↔
      ∃ directive ∈ directivesOn comments line, directive.Silences rule := by
  rw [isSuppressed_iff]
  exact (OnLine.accrues_covers rule).onLine_ofComments_iff comments line

theorem mem_suppressions_ofComments_iff (comments : List Comment) (line : Int) :
    line ∈ (ofComments comments).suppressions.keys ↔
      ∃ directive ∈ directivesOn comments line, directive.keyword = Directive.suppress := by
  rw [KeyedList.mem_keys_iff]
  exact OnLine.accrues_suppression.onLine_ofComments_iff comments line

theorem mem_configurations_ofComments_iff (comments : List Comment) (line : Int) :
    line ∈ (ofComments comments).configurations.keys ↔
      ∃ directive ∈ directivesOn comments line,
        directive.keyword = Directive.ruleConfigure := by
  rw [KeyedList.mem_keys_iff]
  exact OnLine.accrues_configuration.onLine_ofComments_iff comments line

theorem proper_ofComments (comments : List Comment) {line : Int} {suppression : Suppression}
    (found : (ofComments comments).suppressions.get? line = some suppression) :
    suppression.Proper := by
  have start : ∀ old ∈ OnLine.none.suppression, old.Proper := by simp [OnLine.none]
  have proper := OnLine.proper_foldl_add (directivesOn comments line) start
  rw [← onLine_ofComments] at proper
  exact proper suppression found

theorem everyRule_ofComments_iff (comments : List Comment) {line : Int}
    {suppression : Suppression}
    (found : (ofComments comments).suppressions.get? line = some suppression) :
    suppression.identifiers = [] ↔
      ∃ directive ∈ directivesOn comments line, directive.SilencesAll := by
  have every := OnLine.accrues_everyRule.onLine_ofComments_iff comments line
  change (ofComments comments).suppressions.get? line = some .everyRule ↔ _ at every
  rw [← every, found, Option.some.injEq]
  -- An empty list would read the same as every rule, but no list on record is empty.
  constructor
  · exact proper_ofComments comments found
  · rintro rfl
    rfl

/-- Settings say about every line what the directives on it say. -/
structure Reflects (settings : Settings) (directives : Int → List Directive) : Prop where
  suppressed : ∀ line rule, settings.isSuppressed line rule = true ↔
    ∃ directive ∈ directives line, directive.Silences rule
  suppressionLine : ∀ line, line ∈ settings.suppressions.keys ↔
    ∃ directive ∈ directives line, directive.keyword = Directive.suppress
  everyRule : ∀ line, ∀ suppression ∈ settings.suppressions.get? line,
    (suppression.identifiers = [] ↔ ∃ directive ∈ directives line, directive.SilencesAll)
  configurationLine : ∀ line, line ∈ settings.configurations.keys ↔
    ∃ directive ∈ directives line, directive.keyword = Directive.ruleConfigure
  configured : ∀ line key value, (settings.configurationAt line).get? key = some value ↔
    ∃ before token after,
      (directives line).flatMap Directive.tokens = before ++ token :: after ∧
        Text.SplitsOnce '=' token key value ∧
        ∀ later ∈ after, ∀ other, ¬ Text.SplitsOnce '=' later key other

/-- Two lists have the same comments on each line, in the same order. -/
def SameOnEachLine (first second : List Comment) : Prop :=
  ∀ line, first.filter (·.line = line) = second.filter (·.line = line)

/-- The settings of a file say about each line what the directives in the comments of that
line say, so comments of different lines may come in any order. -/
theorem ofComments_reflects (comments : List Comment) :
    (ofComments comments).Reflects (directivesOn comments) ∧
      ∀ reordered, SameOnEachLine reordered comments → ∀ line,
        (ofComments reordered).suppressions.get? line =
            (ofComments comments).suppressions.get? line ∧
          (ofComments reordered).configurations.get? line =
            (ofComments comments).configurations.get? line := by
  refine ⟨⟨isSuppressed_ofComments_iff comments, mem_suppressions_ofComments_iff comments,
    fun _ _ found => everyRule_ofComments_iff comments found,
    mem_configurations_ofComments_iff comments, ?_⟩, ?_⟩
  · intro line key value
    rw [get?_configurationAt_ofComments, lineSetting_eq_some_iff]
  · intro reordered same line
    have directives : directivesOn reordered line = directivesOn comments line := by
      rw [directivesOn, same line, directivesOn]
    have lines : (ofComments reordered).onLine line = (ofComments comments).onLine line := by
      rw [onLine_ofComments, onLine_ofComments, directives]
    exact ⟨congrArg OnLine.suppression lines, congrArg OnLine.configuration lines⟩

def linesApart : List Comment :=
  [⟨8, "// declint:rule_configure(NCSS=3)"⟩, ⟨7, "/* declint:suppress(a) */"⟩,
    ⟨7, "// declint:suppress"⟩]

def linesMixed : List Comment :=
  [⟨7, "/* declint:suppress(a) */"⟩, ⟨8, "// declint:rule_configure(NCSS=3)"⟩,
    ⟨7, "// declint:suppress"⟩]

theorem ofComments_reflects_mixed :
    SameOnEachLine linesApart linesMixed ∧
      (ofComments linesApart).suppressions.get? 7 = (ofComments linesMixed).suppressions.get? 7 ∧
      ∃ directive ∈ directivesOn linesMixed 7, directive.SilencesAll := by
  have same : SameOnEachLine linesApart linesMixed := by
    intro line
    by_cases seventh : line = 7
    · rw [seventh]
      decide
    · simp [linesApart, linesMixed, List.filter_cons, Ne.symm seventh]
  have found : Suppression.everyRule ∈ (ofComments linesMixed).suppressions.get? 7 := by decide
  have reflects := ofComments_reflects linesMixed
  exact ⟨same, (reflects.2 _ same 7).1, (reflects.1.everyRule 7 _ found).mp rfl⟩

end Settings
end DeclarationLint
