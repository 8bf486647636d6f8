import DeclarationLint.LintPaths
import DeclarationLint.Proofs.FileSystem.Places
import DeclarationLint.Proofs.SyntaxTree.Defects

/-!
# Loading files

Files that cannot be read are passed over, and no text is so bad that it cannot be parsed. What can
fail is to make a source file of a tree, and it does so exactly if one of the outermost function
definitions lacks a part. Of several files the first with such a tree decides how loading ends, and
in this file the first such definition.
-/
namespace DeclarationLint

/-- Whether a path is a text that can be one is settled before anything is looked for. -/
theorem FileTree.lookUp_ne_unusable (tree : FileTree) (follows : Bool) (links : Nat) (here : Place)
    (names : List String) (defect : PathDefect) :
    tree.lookUp follows links here names ≠ .error (.unusable defect) := by
  fun_induction FileTree.lookUp tree follows links here names with
  | case4 | case5 | case9 | case10 => assumption
  | case6 => split <;> simp
  | _ => simp

namespace Disk

/-- The places that can be read, each as its path and the content found there. -/
def readable (disk : Disk) (places : List Place) : List (String × List UInt8) :=
  places.filterMap fun place =>
    (disk.read place.toPath).toOption.map fun content => (place.toPath.render, content)

variable {disk : Disk} {place : Place} {places : List Place}

theorem readable_cons_of_ok {content : List UInt8} (read : disk.read place.toPath = .ok content)
    (rest : List Place) :
    disk.readable (place :: rest) = (place.toPath.render, content) :: disk.readable rest := by
  rw [readable, List.filterMap_cons, read]
  rfl

theorem readable_cons_of_error {error : AccessError}
    (unread : disk.read place.toPath = .error error) (rest : List Place) : disk.readable (place :: rest) = disk.readable rest := by
  rw [readable, List.filterMap_cons, unread]
  rfl

/-- The paths of readable files are those of their places, in order. -/
theorem map_fst_readable_sublist (disk : Disk) (places : List Place) :
    ((disk.readable places).map Prod.fst).Sublist
      (places.map fun place => place.toPath.render) := by
  induction places with
  | nil => exact List.Sublist.slnil
  | cons place rest ih =>
    cases outcome : disk.read place.toPath with
    | error error =>
      rw [readable_cons_of_error outcome]
      exact ih.cons _
    | ok content =>
      rw [readable_cons_of_ok outcome]
      exact ih.cons_cons _

theorem read_ne_unusable (ordinary : ∀ name ∈ place, OrdinaryName name) (defect : PathDefect) :
    disk.read place.toPath ≠ .error (.unusable defect) := by
  have located : disk.locate place.toPath ≠ .error (.unusable defect) := by
    rw [locate, lookUp, Place.defect?_toPath ordinary]
    simp only
    split
    · simp
    · exact FileTree.lookUp_ne_unusable _ _ _ _ _ _
  intro unread
  unfold read at unread
  split at unread
  · split at unread <;> cases unread
  · split at unread <;> cases unread
  · split at unread <;> cases unread
  · cases unread
  · rename_i error failed
    obtain rfl := Except.error.inj unread
    exact located failed

end Disk

namespace ParsedFile

variable {disk : Disk} {parser : Parser} {place : Place}

/-- A file is parsed, and the tree is made into a source file. -/
def parse (parser : Parser) (file : String × List UInt8) : Except Fault ParsedFile :=
  (((parser file.2).toSourceFile file.1 file.2).mapError Fault.malformedTree).map
    fun source => ⟨source, (parser file.2).hasError⟩

theorem result_load_of_ok {content : List UInt8} (read : disk.read place.toPath = .ok content) :
    (load disk parser place.toPath).result =
      (parse parser (place.toPath.render, content)).map some := by
  unfold load parse
  rw [read]
  simp only [Journal.result_bind]
  cases ((parser content).toSourceFile place.toPath.render content) <;> rfl

theorem result_load_of_error (ordinary : ∀ name ∈ place, OrdinaryName name) {error : AccessError}
    (unread : disk.read place.toPath = .error error) :
    (load disk parser place.toPath).result = .ok none := by
  unfold load
  rw [unread]
  cases error with
  | unusable defect => exact absurd unread (Disk.read_ne_unusable ordinary defect)
  | _ => rfl

variable (disk parser) in
/-- To load all files is to parse those that can be read. -/
theorem result_loadAll {places : List Place}
    (ordinary : ∀ place ∈ places, ∀ name ∈ place, OrdinaryName name) :
    (loadAll disk parser (places.map Place.toPath)).result =
      (disk.readable places).mapM (parse parser) := by
  unfold loadAll
  rw [Journal.result_bind, Journal.result_mapM]
  simp only [Journal.result_pure]
  induction places with
  | nil => rfl
  | cons place rest ih =>
    have others := ih fun later member => ordinary later (by simp [member])
    let result := fun path => (load disk parser path).result
    change (List.mapM result (rest.map Place.toPath) >>= _) = _ at others
    change (List.mapM result (place.toPath :: rest.map Place.toPath) >>= _) = _
    cases outcome : disk.read place.toPath with
    | error error =>
      have passed : result place.toPath = .ok none :=
        result_load_of_error (ordinary place (by simp)) outcome
      rw [Disk.readable_cons_of_error outcome, ← others, mapM_cons_of_ok passed]
      cases List.mapM result (rest.map Place.toPath) <;> rfl
    | ok content =>
      have loaded : result place.toPath =
          (parse parser (place.toPath.render, content)).map some := result_load_of_ok outcome
      rw [Disk.readable_cons_of_ok outcome]
      cases parsed : parse parser (place.toPath.render, content) with
      | error fault =>
        rw [parsed] at loaded
        rw [mapM_cons_of_error loaded, mapM_cons_of_error parsed]
        rfl
      | ok file =>
        rw [parsed] at loaded
        rw [mapM_cons_of_ok loaded, mapM_cons_of_ok parsed, ← others]
        cases List.mapM result (rest.map Place.toPath) <;> rfl

variable {file : String × List UInt8}

theorem parse_eq_error_iff {fault : Fault} :
    parse parser file = .error fault ↔
      ∃ node, IsFirst Node.Incomplete (parser file.2).root.outermostFunctions node ∧
        fault = .malformedTree node.defect := by
  have failed : parse parser file = .error fault ↔
      ∃ defect, (parser file.2).toSourceFile file.1 file.2 = .error defect ∧
        fault = .malformedTree defect := by
    unfold parse
    cases (parser file.2).toSourceFile file.1 file.2 <;>
      simp [Except.map, Except.mapError, eq_comm]
  rw [failed]
  simp only [SyntaxTree.toSourceFile_eq_error_iff]
  constructor
  · intro blamed
    obtain ⟨defect, ⟨node, first, rfl⟩, same⟩ := blamed
    exact ⟨node, first, same⟩
  · intro blamed
    obtain ⟨node, first, same⟩ := blamed
    exact ⟨node.defect, ⟨node, first, rfl⟩, same⟩

theorem exists_parse_error_iff :
    (∃ fault, parse parser file = .error fault) ↔ (parser file.2).Malformed := by
  simp only [parse_eq_error_iff]
  constructor
  · intro failed
    obtain ⟨fault, node, first, -⟩ := failed
    exact exists_isFirst_iff.mp ⟨node, first⟩
  · intro malformed
    obtain ⟨node, first⟩ := exists_isFirst_iff.mpr malformed
    exact ⟨_, node, first, rfl⟩

theorem parse_ok {parsed : ParsedFile} (success : parse parser file = .ok parsed) :
    parsed.source.identifier = file.1 ∧ parsed.hasParseErrors = (parser file.2).hasError ∧
      (parser file.2).toSourceFile file.1 file.2 = .ok parsed.source := by
  unfold parse at success
  cases made : (parser file.2).toSourceFile file.1 file.2 with
  | error defect =>
    rw [made] at success
    cases success
  | ok source =>
    rw [made] at success
    obtain rfl := Except.ok.inj success
    exact ⟨SyntaxTree.identifier_of_toSourceFile made, rfl, rfl⟩

/-- Loading ends with the first malformed file, and in it with the first incomplete function. -/
theorem mapM_parse_eq_error_iff {files : List (String × List UInt8)} {fault : Fault} :
    files.mapM (parse parser) = .error fault ↔
      ∃ file node, IsFirst (fun file => (parser file.2).Malformed) files file ∧
        IsFirst Node.Incomplete (parser file.2).root.outermostFunctions node ∧
        fault = .malformedTree node.defect := by
  have malformed : (fun file : String × List UInt8 => ∃ fault, parse parser file = .error fault) =
      fun file => (parser file.2).Malformed :=
    funext fun _ => propext exists_parse_error_iff
  rw [mapM_eq_error_iff, malformed]
  simp only [parse_eq_error_iff]
  constructor
  · intro failed
    obtain ⟨file, first, node, firstNode, same⟩ := failed
    exact ⟨file, node, first, firstNode, same⟩
  · intro failed
    obtain ⟨file, node, first, firstNode, same⟩ := failed
    exact ⟨file, first, node, firstNode, same⟩

/-- If all files are parsed, none is malformed, and what is parsed keeps the order of the files,
their paths and the marks of their trees. -/
theorem mapM_parse_ok {files : List (String × List UInt8)} {parsed : List ParsedFile}
    (success : files.mapM (parse parser) = .ok parsed) :
    (∀ file ∈ files, ¬ (parser file.2).Malformed) ∧ parsed.length = files.length ∧
      files.mapM (fun file => (parser file.2).toSourceFile file.1 file.2) =
        .ok (parsed.map source) ∧
      (parsed.map source).map SourceFile.identifier = files.map Prod.fst ∧
      (parsed.filter hasParseErrors).map (fun file => file.source.identifier) =
        (files.filter fun file => (parser file.2).hasError).map Prod.fst := by
  rw [mapM_eq_ok_iff] at success
  induction success with
  | nil => exact ⟨by simp, rfl, rfl, rfl, rfl⟩
  | @cons file first files others made _ ih =>
    obtain ⟨identifier, marked, source⟩ := parse_ok made
    obtain ⟨whole, length, sources, identifiers, broken⟩ := ih
    refine ⟨?_, by simp [length], ?_, by simp [identifier, ← identifiers], ?_⟩
    · intro other member malformed
      cases List.mem_cons.mp member with
      | inl same =>
        subst same
        obtain ⟨fault, failed⟩ := exists_parse_error_iff.mpr malformed
        rw [made] at failed
        cases failed
      | inr later => exact whole other later malformed
    · rw [mapM_cons_of_ok (f := fun file : String × List UInt8 =>
        (parser file.2).toSourceFile file.1 file.2) source, sources]
      rfl
    · rw [List.filter_cons, List.filter_cons, marked]
      split
      · rw [List.map_cons, List.map_cons, broken, identifier]
      · exact broken

/-- Files that are loaded from different places have different identifiers. -/
theorem nodup_of_loadAll {disk : Disk} {places : List Place} {parsed : List ParsedFile}
    (ordinary : ∀ place ∈ places, ∀ name ∈ place, OrdinaryName name)
    (distinct : ((disk.readable places).map Prod.fst).Nodup)
    (loaded : (loadAll disk parser (places.map Place.toPath)).result = .ok parsed) :
    ((parsed.map source).map SourceFile.identifier).Nodup := by
  rw [result_loadAll disk parser ordinary] at loaded
  obtain ⟨-, -, -, identifiers, -⟩ := mapM_parse_ok loaded
  rw [identifiers]
  exact distinct

end ParsedFile

section Paths

variable {config : Config} {disk : Disk} {parser : Parser} {paths : List Path}
  {cache : SettingsCache}

theorem lintPaths_of_error {fault : Fault}
    (failed : (ParsedFile.loadAll disk parser paths).result = .error fault) :
    (lintPaths config disk parser paths cache).linted.result = .error fault := by
  unfold lintPaths
  simp only [failed]
  rfl

theorem lintPaths_of_ok {files : List ParsedFile}
    (loaded : (ParsedFile.loadAll disk parser paths).result = .ok files) :
    (lintPaths config disk parser paths cache).linted.result =
      (lintFiles config (files.map ParsedFile.source) cache).2.result.map
        (LintResult.ofFiles files) := by
  unfold lintPaths
  simp only [loaded]

end Paths
end DeclarationLint
