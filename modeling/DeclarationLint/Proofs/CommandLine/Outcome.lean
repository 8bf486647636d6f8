import DeclarationLint.CommandLine.Workers
import DeclarationLint.Proofs.Config.Selection
import DeclarationLint.Proofs.FileSystem.Targets
import DeclarationLint.Proofs.Lint.Texts
import DeclarationLint.Proofs.Lint.Workers

/-!
# How the analysis of files ends

An analysis with settings and rules that are accepted ends in one of four ways. If a target is
refused, there is no report, and no code of its own to exit with. If a file among those that can be
read is malformed, nothing is reported but the defect of the first one. Otherwise there is one
report of all issues, a warning for each file that could be parsed only in part, and a code that
tells whether there were issues. The number of workers has no part in it.
-/
namespace DeclarationLint.CommandLine

variable {disk : Disk} {env : Environment} {request : AnalyzeRequest} {config : Config}

/-- However the turns of the workers fall, the analysis ends like this, as it does on one worker
alone. -/
structure EndsAs (env : Environment) (request : AnalyzeRequest)
    (result : Except Failure Finished) : Prop where
  alone : (analyze env request).result = result
  together (other : Except Failure Finished) : Analyzes env request other ↔ other = result
  settles (config : Config) (paths : List Path) : 1 < request.workers →
    (prepare env.disk request).result = .ok (config, paths) →
    ∃ loaded, Pool.Settles request.workers (.start [] (loadingJobs env.disk env.parser paths))
        loaded ∧
      ∀ files, loaded = .ok files → ∃ linted, Pool.Settles request.workers
        (.start .empty (lintingJobs config (files.map ParsedFile.source))) linted

theorem result_analyze (env : Environment) (request : AnalyzeRequest) :
    (analyze env request).result = (prepare env.disk request).result >>= fun prepared =>
      conclude env request.format
        (lintPaths prepared.1 env.disk env.parser prepared.2 .empty).linted.result := by
  rw [analyze, Journal.result_bind]

theorem endsAs_of_refusal {failure : Failure}
    (refusal : (prepare env.disk request).result = .error failure) :
    EndsAs env request (.error failure) where
  alone := by
    rw [result_analyze, refusal]
    rfl
  together other := by
    constructor
    · intro analyzes
      cases analyzes with
      | refused again => rw [← Except.error.inj (again.symm.trans refusal)]
      | linted prepared => cases prepared.symm.trans refusal
    · rintro rfl
      exact .refused refusal
  settles config paths _ prepared := by cases prepared.symm.trans refusal

theorem endsAs_of_prepared {paths : List Path}
    (prepared : (prepare env.disk request).result = .ok (config, paths))
    (consistent : ∀ files, (ParsedFile.loadAll env.disk env.parser paths).result = .ok files →
      SameComments (files.map ParsedFile.source)) :
    EndsAs env request (conclude env request.format
      (lintPaths config env.disk env.parser paths .empty).linted.result) where
  alone := by
    rw [result_analyze, prepared]
    rfl
  together other := by
    constructor
    · intro analyzes
      cases analyzes with
      | refused refusal => cases refusal.symm.trans prepared
      | linted again ran =>
        obtain ⟨rfl, rfl⟩ := Prod.mk.inj (Except.ok.inj (again.symm.trans prepared))
        rw [(lintsTo_iff consistent).mp ran]
    · rintro rfl
      exact .linted prepared ((lintsTo_iff consistent).mpr rfl)
  settles other others several again := by
    obtain ⟨rfl, rfl⟩ := Prod.mk.inj (Except.ok.inj (again.symm.trans prepared))
    refine ⟨_, settles_loading env.disk env.parser others (by omega) [], fun files loaded => ?_⟩
    exact ⟨_, settles_linting (by omega) (consistent files loaded)
      (SettingsCache.sound_empty _) other⟩

/-- The rules of a request come with the program, and its settings are texts. -/
theorem lintFiles_returns_of_selected {overrides : KeyedList String String} {rules : List Rule}
    (selected : (Config.standard (overrides.mapValues .text)).enabledRules request.rules =
      .ok rules)
    (made : Config.make rules (overrides.mapValues .text) = .ok config)
    (files : List SourceFile) : Stage.Returns (lintFiles config files) := by
  obtain ⟨rfl, settings⟩ := Config.make_eq_ok_iff.mp made
  apply lintFiles_returns
  · intro rule member
    have builtin : rule ∈ Config.builtinRules := by
      by_cases all : request.rules = []
      · rw [Config.enabledRules, if_pos all] at selected
        rw [← Except.ok.inj selected] at member
        exact member
      · exact ((Config.enabledRules_eq_ok_iff all).mp selected).2 member
    rw [List.mem_singleton.mp builtin]
    exact Rule.faultless_statementCount
  · rw [settings]
    exact RunSettings.allTexts_mapValues overrides

/-- A request with settings that are accepted narrows the rules that come with the program. -/
theorem configFor_eq_ok_iff {overrides : KeyedList String String}
    (accepted : Overrides.parse request.overrides = .ok overrides) :
    configFor request = .ok config ↔
      (Config.standard (overrides.mapValues .text)).narrow request.rules = .ok config := by
  rw [Config.narrow_eq_ok_iff]
  unfold configFor
  rw [accepted]
  cases selected : (Config.standard (overrides.mapValues .text)).enabledRules request.rules with
  | error error => simp [bind, Except.bind, selected]
  | ok rules =>
    simp only [bind, Except.bind, selected, Except.ok.injEq, exists_eq_left']
    cases Config.make rules (Config.standard (overrides.mapValues .text)).runSettings with
    | error error => simp [Except.mapError]
    | ok made => simp [Except.mapError]

/-- With a configuration at hand, the targets decide. -/
theorem result_prepare (disk : Disk) (configured : configFor request = .ok config) :
    (prepare disk request).result =
      ((Discovery.collectTexts (.standard request.includeHeaders) disk request.targets).mapError
        Failure.discovery).map fun places => (config, places.map Place.toPath) := by
  rw [prepare, configured, Discovery.collectTexts, Journal.result_bind]
  simp only [Journal.ofExcept, Journal.result_bind, collectFor]
  cases (Discovery.collect (.standard request.includeHeaders) disk
    (request.targets.map Path.parse)).result <;> rfl

theorem result_prepare_of_error {error : DiscoveryError}
    (configured : configFor request = .ok config)
    (failed : Discovery.collectTexts (.standard request.includeHeaders) disk request.targets =
      .error error) : (prepare disk request).result = .error (.discovery error) := by
  rw [result_prepare disk configured, failed]
  rfl

/-- What is reported of files once they are parsed, told from their texts. -/
theorem reportResult_of_parsed (env : Environment) (format : OutputFormat)
    {files : List (String × List UInt8)} {parsed : List ParsedFile}
    (success : files.mapM (ParsedFile.parse env.parser) = .ok parsed) (issues : List Issue) :
    reportResult env format (LintResult.ofFiles parsed issues) =
      ⟨if issues = [] then 0 else 1,
        (env.reporterFor format).render issues files.length ++ "\n",
        String.join ((files.filter fun file => (env.parser file.2).hasError).map
          fun file => syntaxWarning file.1)⟩ := by
  obtain ⟨-, length, -, -, broken⟩ := ParsedFile.mapM_parse_ok success
  have warnings : (files.filter fun file => (env.parser file.2).hasError).map
        (fun file => syntaxWarning file.1) =
      ((parsed.filter ParsedFile.hasParseErrors).map (·.source.identifier)).map
        syntaxWarning := by
    rw [broken, List.map_map]
    rfl
  rw [warnings, ← length]
  rfl

/-- Two files and a device. -/
def smallDisk : Disk where
  tree := .directory .all
    [("a.c", .file true [1]), ("bad.c", .file true [2]),
      ("dev", .directory .all [("null", .special true [])])]
  directory := []

/-- A file whose only node is a function definition with the given parts. -/
def treeWith (hasError : Bool) (parts : List Node) : SyntaxTree :=
  ⟨hasError, ⟨Node.functionType, true, none, ⟨0, 0⟩, ⟨2, 1⟩, 0, 1, parts⟩⟩

def namePart : Node := ⟨"identifier", true, some Node.declaratorRole, ⟨0, 0⟩, ⟨0, 1⟩, 0, 1, []⟩

def returnNode : Node := ⟨"return_statement", true, none, ⟨1, 0⟩, ⟨1, 9⟩, 0, 1, []⟩

def bodyPart : Node :=
  ⟨"compound_statement", true, some Node.bodyRole, ⟨0, 6⟩, ⟨2, 1⟩, 0, 1, [returnNode, returnNode]⟩

/-- The first file can be parsed only in part, and the second has a function without a body. -/
def smallParser : Parser
  | [1] => treeWith true [namePart, bodyPart]
  | _ => treeWith false [namePart]

def smallEnvironment : Environment := ⟨smallDisk, smallParser, 80⟩

theorem wellFormed_smallDisk : smallDisk.WellFormed where
  named := by
    simp only [smallDisk, FileTree.WellNamed, FileTree.WellNamedAmong]
    decide
  distinct := by simp [smallDisk, FileTree.DistinctNames, FileTree.DistinctNamesAmong]
  directory := ⟨_, rfl⟩

theorem expands_smallDisk :
    Discovery.Expands (.standard false) smallDisk (.parse "a.c") [["a.c"]] ∧
      Discovery.Expands (.standard false) smallDisk (.parse "/a.c") [["a.c"]] ∧
      Discovery.Expands (.standard false) smallDisk (.parse "bad.c") [["bad.c"]] := by
  have named := wellFormed_smallDisk.named
  have file : ∀ text place readable content, (Path.parse text).defect? = none →
      (Path.parse text).render.utf8ByteSize ≤ Disk.longestPath →
      smallDisk.base (.parse text) = [] → (Path.parse text).names = place → place ≠ [] →
      smallDisk.tree.at? place = some (.file readable content) →
      smallDisk.tree.isOpen place = true →
      Discovery.Expands (.standard false) smallDisk (.parse text) [place] := by
    intro text place readable content usable short base names further there searchable
    subst names
    have starts : smallDisk.tree.at? (smallDisk.base (.parse text)) = some smallDisk.tree := by
      rw [base]
      rfl
    have resolved := Disk.resolve_of_at? named starts there (by simp)
    rw [base, List.nil_append] at resolved
    rw [← resolved]
    exact .file ⟨readable, content, Disk.locate_of_at? usable short named starts there further
      (by simp) searchable⟩
  exact ⟨file "a.c" ["a.c"] true [1] rfl (by decide) rfl rfl (by simp) rfl rfl,
    file "/a.c" ["a.c"] true [1] rfl (by decide) rfl rfl (by simp) rfl rfl,
    file "bad.c" ["bad.c"] true [2] rfl (by decide) rfl rfl (by simp) rfl rfl⟩

theorem locate_device : smallDisk.locate (.parse "/dev/null") = .ok (.special true []) :=
  Disk.locate_of_at? rfl (by decide) wellFormed_smallDisk.named rfl rfl (by decide) (by simp) rfl

theorem refuses_device :
    Discovery.Refuses (.standard false) smallDisk (.parse "/dev/null")
      (.missingTarget "/dev/null") := by
  refine .missing ⟨?_, ?_⟩ ?_
  · rintro ⟨readable, content, other⟩
    cases locate_device.symm.trans other
  · rintro ⟨rights, entries, other⟩
    cases locate_device.symm.trans other
  · intro error failed
    cases locate_device.symm.trans failed

theorem readable_smallDisk :
    smallDisk.readable [["a.c"]] = [("/a.c", [1])] ∧
      smallDisk.readable [["a.c"], ["bad.c"]] = [("/a.c", [1]), ("/bad.c", [2])] := by
  have read : ∀ name content, (Place.toPath [name]).defect? = none →
      (Place.toPath [name]).render.utf8ByteSize ≤ Disk.longestPath →
      smallDisk.tree.at? [name] = some (.file true content) →
      smallDisk.tree.isOpen [name] = true →
      smallDisk.read (Place.toPath [name]) = .ok content := by
    intro name content usable short there searchable
    have located : smallDisk.locate (Place.toPath [name]) = .ok (.file true content) :=
      Disk.locate_of_at? usable short wellFormed_smallDisk.named rfl there (by simp [Place.toPath])
        (by simp) searchable
    rw [Disk.read, located]
    rfl
  have first := read "a.c" [1] rfl (by decide) rfl rfl
  have second := read "bad.c" [2] rfl (by decide) rfl rfl
  simp only [Disk.readable_cons_of_ok first, Disk.readable_cons_of_ok second]
  exact ⟨rfl, rfl⟩

/-- What is to be said about the first file if one statement is the limit. -/
def smallIssue : Issue :=
  ⟨"high_ncss", "Method of 2 NCSS exceeds limit of 1", .readability, .major,
    .between "/a.c" 1 1 3 2, none⟩

/-- Two workers for one file that is named twice. -/
def repeatedRequest : AnalyzeRequest := ⟨["a.c", "/a.c"], .text, ["NCSS=1"], [], false, 2⟩

def malformedRequest : AnalyzeRequest := ⟨["/a.c", "bad.c"], .console, [], [], false, 1⟩

def deviceRequest (workers : Nat) : AnalyzeRequest :=
  ⟨["a.c", "/dev/null"], .text, [], ["high_ncss"], false, workers⟩

theorem collected_repeated :
    Discovery.collectTexts (.standard false) smallDisk ["a.c", "/a.c"] = .ok [["a.c"]] := by
  obtain ⟨first, again, -⟩ := expands_smallDisk
  exact Discovery.collectTexts_eq_ok_iff.mpr ⟨_, .cons first (.cons again .nil), rfl⟩

theorem collected_malformed :
    Discovery.collectTexts (.standard false) smallDisk ["/a.c", "bad.c"] =
      .ok [["a.c"], ["bad.c"]] := by
  obtain ⟨-, first, second⟩ := expands_smallDisk
  exact Discovery.collectTexts_eq_ok_iff.mpr ⟨_, .cons first (.cons second .nil), rfl⟩

theorem collected_device :
    Discovery.collectTexts (.standard false) smallDisk ["a.c", "/dev/null"] =
      .error (.missingTarget "/dev/null") := by
  refine Discovery.collectTexts_eq_error_iff.mpr ⟨"/dev/null", ?_, refuses_device⟩
  refine ⟨["a.c"], [], rfl, ?_, _, refuses_device⟩
  rintro target member ⟨error, refuses⟩
  obtain rfl := List.mem_singleton.mp member
  cases expands_smallDisk.1.result_expand.symm.trans refuses.result_expand

end DeclarationLint.CommandLine
