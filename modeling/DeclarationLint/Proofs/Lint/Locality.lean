import DeclarationLint.Proofs.Lint.History
import DeclarationLint.Proofs.Rule.Local
import Mathlib.Data.List.Nodup

/-!
# Directives act on their line

What the comments of a line say matters to the declarations that start on this line, in this file,
and to nothing else. Two runs over files that differ in the comments of one line find the same
issues everywhere else, as long as their rules are local, which the built-in rule is.
-/
namespace DeclarationLint

/-- The same file, but for the comments of one line. -/
structure DifferOnLine (line : Int) (file changed : SourceFile) : Prop where
  identifier : file.identifier = changed.identifier
  declarations : file.declarations = changed.declarations
  comments : file.comments.filter (·.line ≠ line) = changed.comments.filter (·.line ≠ line)

theorem directivesOn_filter_ne {line place : Int} (different : place ≠ line)
    (comments : List Comment) :
    directivesOn (comments.filter (·.line ≠ line)) place = directivesOn comments place := by
  rw [directivesOn, directivesOn, List.filter_filter]
  congr 1
  refine List.filter_congr fun comment _ => ?_
  by_cases here : comment.line = place
  · simp [here, different]
  · simp [here]

variable {line : Int} {file changed : SourceFile}

theorem DifferOnLine.onLine_eq (differ : DifferOnLine line file changed) (place : Int)
    (different : place ≠ line) :
    (Settings.ofFile file).onLine place = (Settings.ofFile changed).onLine place := by
  rw [Settings.ofFile, Settings.ofFile, Settings.onLine_ofComments, Settings.onLine_ofComments,
    ← directivesOn_filter_ne different, differ.comments, directivesOn_filter_ne different]

theorem sameComments_of_nodup {files : List SourceFile}
    (distinct : (files.map SourceFile.identifier).Nodup) : SameComments files :=
  fun _ firstMember _ secondMember same =>
    congrArg SourceFile.comments (List.inj_on_of_nodup_map distinct firstMember secondMember same)

theorem lintFiles_empty {files : List SourceFile}
    (distinct : (files.map SourceFile.identifier).Nodup) (config : Config) :
    (lintFiles config files .empty).2 = lintFilesAfresh config files :=
  (lintFiles_yields (sameComments_of_nodup distinct) (fun _ member => member) config .empty
    (SettingsCache.sound_empty files)).1

theorem lintFile_empty (config : Config) (file : SourceFile) :
    (lintFile config file .empty).2 = lintFileAfresh config file := by
  have alone : SameComments [file] := sameComments_of_nodup (List.nodup_singleton _)
  exact (lintFile_yields alone (by simp) config .empty (SettingsCache.sound_empty [file])).1

/-- In the block of issues of the file itself only the issues of that line may differ. -/
theorem DifferOnLine.lint_elsewhere (differ : DifferOnLine line file changed) {config : Config}
    (rules : ∀ rule ∈ config.rules, rule.Local) {block changedBlock : List Issue}
    (returned : (lintFileAfresh config file).result = .ok block)
    (changedReturned : (lintFileAfresh config changed).result = .ok changedBlock) :
    elsewhere line block = elsewhere line changedBlock ∧
      ∀ rule ∈ config.rules,
        rule.visits config.runSettings (.ofFile file) file =
          rule.visits config.runSettings (.ofFile changed) changed := by
  obtain ⟨found, each, rfl⟩ := exists_blocks returned
  obtain ⟨changedFound, changedEach, rfl⟩ := exists_blocks changedReturned
  have agree : ∀ rule ∈ config.rules,
      rule.visits config.runSettings (.ofFile file) file =
          rule.visits config.runSettings (.ofFile changed) changed ∧
        elsewhere line (found rule) = elsewhere line (changedFound rule) :=
    fun rule member => (rules rule member).check_elsewhere differ.declarations
      differ.onLine_eq (each rule member) (changedEach rule member)
  refine ⟨?_, fun rule member => (agree rule member).1⟩
  rw [elsewhere, elsewhere, List.filter_flatMap, List.filter_flatMap]
  exact List.flatMap_congr fun rule member => (agree rule member).2

/-- Runs over files that differ in one place have the same blocks of issues but for this place. -/
theorem exists_blocks_around {config : Config} {before after : List SourceFile}
    {issues others : List Issue}
    (returned : (lintFilesAfresh config (before ++ file :: after)).result = .ok issues)
    (changedReturned :
      (lintFilesAfresh config (before ++ changed :: after)).result = .ok others) :
    ∃ front block changedBlock back,
      (lintFilesAfresh config before).result = .ok front ∧
      (lintFileAfresh config file).result = .ok block ∧
      (lintFileAfresh config changed).result = .ok changedBlock ∧
      (lintFilesAfresh config after).result = .ok back ∧
      issues = front ++ block ++ back ∧
      others = front ++ changedBlock ++ back := by
  obtain ⟨block, each, rfl⟩ := exists_blocks returned
  obtain ⟨changedBlock, changedEach, rfl⟩ := exists_blocks changedReturned
  have front : ∀ other ∈ before, changedBlock other = block other := fun other member =>
    Except.ok.inj ((changedEach other (by simp [member])).symm.trans
      (each other (by simp [member])))
  have back : ∀ other ∈ after, changedBlock other = block other := fun other member =>
    Except.ok.inj ((changedEach other (by simp [member])).symm.trans
      (each other (by simp [member])))
  refine ⟨before.flatMap block, block file, changedBlock changed, after.flatMap block, ?_,
    each file (by simp), changedEach changed (by simp), ?_, by simp, ?_⟩
  · exact collect_map_ok fun other member => each other (by simp [member])
  · exact collect_map_ok fun other member => each other (by simp [member])
  · rw [List.flatMap_append, List.flatMap_cons, ← List.append_assoc, List.flatMap_congr front,
      List.flatMap_congr back]

/-- If files differ in the comments of one line only, so do the issues: all issues of the other
files are the same, and so are those of the file itself that start on other lines. The same
declarations are visited, and whatever the visit of a declaration on another line comes to stays
the same. -/
theorem directives_act_on_their_line (config : Config) {before after : List SourceFile}
    {issues others : List Issue}
    (rules : ∀ rule ∈ config.rules, rule = Rule.StatementCount.rule ∨ rule.Local)
    (distinct : ((before ++ file :: after).map SourceFile.identifier).Nodup)
    (differ : DifferOnLine line file changed)
    (returned : (lintFiles config (before ++ file :: after) .empty).2.result = .ok issues)
    (changedReturned :
      (lintFiles config (before ++ changed :: after) .empty).2.result = .ok others) :
    ∃ front block changedBlock back,
      (lintFiles config before .empty).2.result = .ok front ∧
      (lintFile config file .empty).2.result = .ok block ∧
      (lintFile config changed .empty).2.result = .ok changedBlock ∧
      (lintFiles config after .empty).2.result = .ok back ∧
      issues = front ++ block ++ back ∧
      others = front ++ changedBlock ++ back ∧
      elsewhere line block = elsewhere line changedBlock ∧
      ∀ rule ∈ config.rules,
        rule.visits config.runSettings (.ofFile file) file =
            rule.visits config.runSettings (.ofFile changed) changed ∧
          ∀ declaration, declaration.line ≠ line →
            rule.visitOne (.ofFile file) config.runSettings declaration =
              rule.visitOne (.ofFile changed) config.runSettings declaration := by
  have isLocal : ∀ rule ∈ config.rules, rule.Local := fun rule member =>
    (rules rule member).elim (fun builtIn => builtIn ▸ Rule.local_statementCount) id
  have changedDistinct : ((before ++ changed :: after).map SourceFile.identifier).Nodup := by
    rw [List.map_append, List.map_cons, ← differ.identifier]
    rwa [List.map_append, List.map_cons] at distinct
  have distinctBefore : (before.map SourceFile.identifier).Nodup :=
    distinct.sublist ((List.sublist_append_left _ _).map _)
  have distinctAfter : (after.map SourceFile.identifier).Nodup :=
    distinct.sublist (((List.sublist_cons_self file after).trans
      (List.sublist_append_right _ _)).map _)
  rw [lintFiles_empty distinct] at returned
  rw [lintFiles_empty changedDistinct] at changedReturned
  rw [lintFiles_empty distinctBefore, lintFiles_empty distinctAfter, lintFile_empty,
    lintFile_empty]
  obtain ⟨front, block, changedBlock, back, frontReturned, fileReturned, changedFileReturned,
    backReturned, issuesSplit, othersSplit⟩ := exists_blocks_around returned changedReturned
  obtain ⟨agree, visits⟩ := differ.lint_elsewhere isLocal fileReturned changedFileReturned
  exact ⟨front, block, changedBlock, back, frontReturned, fileReturned, changedFileReturned,
    backReturned, issuesSplit, othersSplit, agree, fun rule member =>
      ⟨visits rule member, fun declaration off =>
        (isLocal rule member).visitOne_eq_of_onLine_eq (differ.onLine_eq _ off)⟩⟩

/-- Two functions of three statements, on the lines 2 and 5. -/
def fileWithComments (identifier : String) (comments : List Comment) : SourceFile where
  identifier := identifier
  declarations :=
    [⟨.function, "f", .between identifier 2 1 4 2,
        some [⟨.jump, .empty, []⟩, ⟨.jump, .empty, []⟩, ⟨.jump, .empty, []⟩], []⟩,
      ⟨.function, "g", .between identifier 5 1 8 2,
        some [⟨.jump, .empty, []⟩, ⟨.jump, .empty, []⟩, ⟨.jump, .empty, []⟩], []⟩]
  comments := comments

def measuredAndNamed : Config :=
  ⟨[Rule.StatementCount.rule, functionRule "loud" []], .ofList [("NCSS", .integer 2)], by decide⟩

def silencedOnFive : SourceFile :=
  fileWithComments "b.c" [⟨2, "// declint:suppress(loud)"⟩, ⟨5, "// declint:suppress"⟩]

def configuredOnFive : SourceFile :=
  fileWithComments "b.c"
    [⟨5, "// declint:rule_configure(NCSS=7)"⟩, ⟨2, "// declint:suppress(loud)"⟩]

theorem directives_act_on_their_line_five :
    DifferOnLine 5 silencedOnFive configuredOnFive ∧ ∃ issues others,
      (lintFiles measuredAndNamed
          ([fileWithComments "a.c" []] ++ silencedOnFive :: []) .empty).2.result = .ok issues ∧
      (lintFiles measuredAndNamed
          ([fileWithComments "a.c" []] ++ configuredOnFive :: []) .empty).2.result = .ok others ∧
      issues.map (fun issue => (issue.rule, issue.span.start.file, issue.span.start.line)) =
        [("high_ncss", "a.c", 2), ("high_ncss", "a.c", 5), ("loud", "a.c", 2),
          ("loud", "a.c", 5), ("high_ncss", "b.c", 2)] ∧
      others.map (fun issue => (issue.rule, issue.span.start.file, issue.span.start.line)) =
        [("high_ncss", "a.c", 2), ("high_ncss", "a.c", 5), ("loud", "a.c", 2),
          ("loud", "a.c", 5), ("high_ncss", "b.c", 2), ("loud", "b.c", 5)] ∧
      ∃ block changedBlock,
        (lintFile measuredAndNamed silencedOnFive .empty).2.result = .ok block ∧
        (lintFile measuredAndNamed configuredOnFive .empty).2.result = .ok changedBlock ∧
        elsewhere 5 block = elsewhere 5 changedBlock := by
  have rules : ∀ rule ∈ measuredAndNamed.rules,
      rule = Rule.StatementCount.rule ∨ rule.Local := by
    intro rule member
    rcases List.mem_cons.mp member with builtIn | scripted
    · exact Or.inl builtIn
    · rw [List.mem_singleton.mp scripted]
      exact Or.inr (Rule.local_script _)
  have differ : DifferOnLine 5 silencedOnFive configuredOnFive := ⟨rfl, rfl, by decide⟩
  have distinct : (([fileWithComments "a.c" []] ++ silencedOnFive :: []).map
      SourceFile.identifier).Nodup := by decide
  refine ⟨differ, _, _, rfl, rfl, rfl, rfl, ?_⟩
  obtain ⟨-, block, changedBlock, -, -, returned, changedReturned, -, -, -, agree, -⟩ :=
    directives_act_on_their_line measuredAndNamed rules distinct differ rfl rfl
  exact ⟨block, changedBlock, returned, changedReturned, agree⟩

end DeclarationLint
