import DeclarationLint.Proofs.FileSystem.Collection

/-!
# Collecting from targets

A target that is refused ends a collection, and the first such target decides how. From other
targets all that they stand for is collected, each file where it first occurs. Targets that stand
for nothing new may be added at the end, and the order of targets decides the order of files but
not which files there are.
-/
namespace DeclarationLint

/-- Errors that say that something is missing. -/
def DiscoveryError.IsMissing : DiscoveryError → Prop
  | missingRoot _ => True
  | missingTarget _ => True
  | _ => False

namespace Discovery

variable {options : Options} {disk : Disk} {files : List Place} {targets : List String}

/-- How collecting from targets that are given as texts ends. -/
def collectTexts (options : Options) (disk : Disk) (targets : List String) :
    Except DiscoveryError (List Place) :=
  (collect options disk (targets.map Path.parse)).result

def IsRefused (options : Options) (disk : Disk) (target : String) : Prop :=
  ∃ error, Refuses options disk (.parse target) error

theorem collectTexts_eq (options : Options) (disk : Disk) (targets : List String) :
    collectTexts options disk targets =
      (targets.mapM fun target => (expand options disk (.parse target)).result).map
        fun found => found.flatten.eraseDups := by
  rw [collectTexts, result_collect_eq, List.mapM_map]
  rfl

/-- Collecting fails as the first target does that is refused. -/
theorem collectTexts_eq_error_iff {error : DiscoveryError} :
    collectTexts options disk targets = .error error ↔
      ∃ target, IsFirst (IsRefused options disk) targets target ∧
        Refuses options disk (.parse target) error := by
  have outcome : collectTexts options disk targets = .error error ↔
      targets.mapM (fun target => (expand options disk (.parse target)).result) =
        .error error := by
    rw [collectTexts_eq]
    cases targets.mapM (fun target => (expand options disk (.parse target)).result) <;>
      simp [Except.map]
  simp only [outcome, mapM_eq_error_iff, result_expand_eq_error_iff]
  rfl

theorem collectTexts_eq_ok_iff :
    collectTexts options disk targets = .ok files ↔
      ∃ expansions, List.Forall₂ (fun target => Expands options disk (.parse target))
        targets expansions ∧ files = expansions.flatten.eraseDups := by
  have each : ∀ expansions,
      targets.mapM (fun target => (expand options disk (.parse target)).result) =
        .ok expansions ↔
      List.Forall₂ (fun target => Expands options disk (.parse target)) targets expansions := by
    intro expansions
    simp only [mapM_eq_ok_iff, result_expand_eq_ok_iff]
  rw [collectTexts_eq]
  cases outcome : targets.mapM (fun target => (expand options disk (.parse target)).result) with
  | error error => simp [Except.map, ← each, outcome]
  | ok found => simp [Except.map, ← each, outcome, eq_comm]

theorem nodup_of_collectTexts (success : collectTexts options disk targets = .ok files) :
    files.Nodup := by
  obtain ⟨expansions, -, rfl⟩ := collectTexts_eq_ok_iff.mp success
  exact nodup_eraseDups _

theorem exists_collectTexts (present : ∀ target ∈ targets, ¬ IsRefused options disk target) :
    ∃ files, collectTexts options disk targets = .ok files := by
  cases outcome : collectTexts options disk targets with
  | ok files => exact ⟨files, rfl⟩
  | error error =>
    obtain ⟨target, first, -⟩ := collectTexts_eq_error_iff.mp outcome
    exact absurd first.property (present target first.mem)

theorem present_of_collectTexts (success : collectTexts options disk targets = .ok files) :
    ∀ target ∈ targets, ¬ IsRefused options disk target := by
  intro target member refused
  obtain ⟨first, isFirst⟩ := exists_isFirst_iff.mpr ⟨target, member, refused⟩
  obtain ⟨error, refuses⟩ := isFirst.property
  have failure : collectTexts options disk targets = .error error :=
    collectTexts_eq_error_iff.mpr ⟨first, isFirst, refuses⟩
  cases success.symm.trans failure

theorem mem_flatten_iff {expansions : List (List Place)} {place : Place}
    (expanded : List.Forall₂ (fun target => Expands options disk (.parse target))
      targets expansions) :
    place ∈ expansions.flatten ↔
      ∃ target ∈ targets, ∃ expansion, Expands options disk (.parse target) expansion ∧
        place ∈ expansion := by
  induction expanded with
  | nil => simp
  | @cons target expansion rest others first _ ih =>
    have only : (∃ other, Expands options disk (.parse target) other ∧ place ∈ other) ↔
        place ∈ expansion := by
      constructor
      · rintro ⟨other, again, member⟩
        have same := again.result_expand.symm.trans first.result_expand
        exact Except.ok.inj same ▸ member
      · intro member
        exact ⟨expansion, first, member⟩
    rw [List.flatten_cons, List.mem_append, ih, List.exists_mem_cons_iff, only]

/-- A file is collected exactly if some target stands for it. -/
theorem mem_iff_of_collectTexts (success : collectTexts options disk targets = .ok files)
    (place : Place) :
    place ∈ files ↔
      ∃ target ∈ targets, ∃ expansion, Expands options disk (.parse target) expansion ∧
        place ∈ expansion := by
  obtain ⟨expansions, expanded, rfl⟩ := collectTexts_eq_ok_iff.mp success
  rw [List.mem_eraseDups, mem_flatten_iff expanded]

theorem ordinary_of_collectTexts (wellFormed : disk.WellFormed)
    (success : collectTexts options disk targets = .ok files) :
    ∀ place ∈ files, ∀ name ∈ place, OrdinaryName name := by
  intro place member
  obtain ⟨target, -, expansion, expands, inside⟩ :=
    (mem_iff_of_collectTexts success place).mp member
  exact ordinary_of_expands wellFormed expands place inside

/-- A target that stands for nothing new makes no difference at the end. -/
theorem collectTexts_concat (success : collectTexts options disk targets = .ok files)
    {extra : String} {expansion : List Place}
    (expands : Expands options disk (.parse extra) expansion) (covered : expansion ⊆ files) :
    collectTexts options disk (targets ++ [extra]) = .ok files := by
  obtain ⟨expansions, expanded, rfl⟩ := collectTexts_eq_ok_iff.mp success
  have all : List.Forall₂ (fun target => Expands options disk (.parse target))
      (targets ++ [extra]) (expansions ++ [expansion]) :=
    List.rel_append expanded (.cons expands .nil)
  refine collectTexts_eq_ok_iff.mpr ⟨_, all, ?_⟩
  rw [List.flatten_append, List.flatten_singleton, eraseDups_append_of_subset]
  intro place member
  exact List.mem_eraseDups.mp (covered member)

/-- The same targets in another order stand for the same files. -/
theorem collectTexts_perm (success : collectTexts options disk targets = .ok files)
    {others : List String} (same : others.Perm targets) :
    ∃ reordered, collectTexts options disk others = .ok reordered ∧ reordered.Perm files := by
  obtain ⟨reordered, again⟩ : ∃ reordered, collectTexts options disk others = .ok reordered := by
    apply exists_collectTexts
    intro target member
    exact present_of_collectTexts success target (same.mem_iff.mp member)
  refine ⟨reordered, again, (List.perm_ext_iff_of_nodup (nodup_of_collectTexts again)
    (nodup_of_collectTexts success)).mpr ?_⟩
  intro place
  simp only [mem_iff_of_collectTexts again, mem_iff_of_collectTexts success, same.mem_iff]

/-- The search of a directory comes to a directory below it, or starts there, and enters it. -/
structure IsEntered (options : Options) (directory : FileTree) (way : List String) : Prop where
  there : ∃ rights entries, directory.at? way = some (.directory rights entries)
  listed (parent rest : List String) : way = parent ++ rest → rest ≠ [] →
    ∃ rights entries, directory.at? parent = some (.directory rights entries) ∧ rights.list = true
  entered : ∀ name ∈ way, name ∉ options.ignored

theorem IsEntered.isExamined {directory : FileTree} {way : List String}
    (enters : IsEntered options directory way) (further : way ≠ []) :
    IsExamined options directory way where
  present := by
    obtain ⟨rights, entries, there⟩ := enters.there
    exact ⟨_, there⟩
  below := further
  listed := enters.listed
  entered parent rest split _ name last := by
    apply enters.entered
    rw [split]
    exact List.mem_append_left _ (List.mem_of_getLast? last)

/-- Targets that stand for nothing new: one that is given already, a file that is collected
already, and a directory that the search of an earlier target enters. -/
inductive Covered (options : Options) (disk : Disk) (targets : List String) (files : List Place)
    (extra : String) : Prop where
  | repeated (again : extra ∈ targets)
  | collected (isFile : disk.IsFile (.parse extra))
      (there : disk.resolve (.parse extra) ∈ files)
  | entered {top : String} {directory : FileTree} {way : List String} (earlier : top ∈ targets)
      (above : disk.IsDirectory (.parse top)) (isDirectory : disk.IsDirectory (.parse extra))
      (located : disk.locate (disk.resolve (.parse top)).toPath = .ok directory)
      (below : disk.resolve (.parse extra) = disk.resolve (.parse top) ++ way)
      (enters : IsEntered options directory way)

section Entered

variable {top extra : Path} {rights : Rights} {entries : List (String × FileTree)}
  {way : List String}

/-- What a search enters can be located, and what a search would look at there is looked at
anyway. -/
theorem IsEntered.exists_inner (wellFormed : disk.WellFormed)
    (found : (find options disk top).result = .ok files)
    (located : disk.locate (disk.resolve top).toPath = .ok (.directory rights entries))
    (enters : IsEntered options (.directory rights entries) way) :
    ∃ inner others,
      disk.locate (Place.toPath (disk.resolve top ++ way)) = .ok (.directory inner others) ∧
      ∀ lower last entry, ComesTo options (.directory inner others) lower last entry →
        ComesTo options (.directory rights entries) (way ++ lower) last entry := by
  obtain ⟨inner, others, there⟩ := enters.there
  by_cases further : way = []
  · subst further
    obtain ⟨rfl, rfl⟩ := FileTree.directory.inj (Option.some.inj there)
    exact ⟨rights, entries, by rwa [List.append_nil], fun _ _ _ comes => comes⟩
  · obtain ⟨stop, stands⟩ := Disk.exists_at?_of_locate located
    have distinct := wellFormed.distinct.at? stands
    obtain ⟨last, entry, comes⟩ := (enters.isExamined further).comesTo
    obtain rfl := Option.some.inj ((comes.at?_eq distinct).symm.trans there)
    have free := (finds_of_find wellFormed found located).2
    refine ⟨inner, others, ?_, fun _ _ _ deeper => comes.append enters.entered deeper⟩
    exact lookUp_of_free located (wellFormed.named.at? stands).2 distinct comes free
      (.inr (by simp))

/-- A directory that a search enters can be searched itself, and nothing new is found there. -/
theorem IsEntered.exists_find (wellFormed : disk.WellFormed)
    (found : (find options disk top).result = .ok files)
    (located : disk.locate (disk.resolve top).toPath = .ok (.directory rights entries))
    (usable : extra.defect? = none) (below : disk.resolve extra = disk.resolve top ++ way)
    (enters : IsEntered options (.directory rights entries) way) :
    ∃ others, (find options disk extra).result = .ok others ∧ others ⊆ files := by
  obtain ⟨finds, free⟩ := finds_of_find wellFormed found located
  obtain ⟨stop, stands⟩ := Disk.exists_at?_of_locate located
  have distinct := wellFormed.distinct.at? stands
  obtain ⟨inner, entries', locatedBelow, outer⟩ := enters.exists_inner wellFormed found located
  obtain ⟨stopBelow, standsBelow⟩ := Disk.exists_at?_of_locate locatedBelow
  have distinctBelow := wellFormed.distinct.at? standsBelow
  rw [← below] at locatedBelow
  rcases findListed_accounts options .stored usable locatedBelow distinctBelow with
    ⟨others, success, findsBelow, -⟩ | ⟨lower, last, entry, error, comes, barred, -⟩
  · refine ⟨others, success, fun place member => ?_⟩
    obtain ⟨lower, rfl, source⟩ := (findsBelow.exact place).mp member
    obtain ⟨last, entry, comes⟩ := source.toIsExamined.comesTo
    have sighted := (comes.isSourceBelow_iff distinctBelow (disk.resolve extra)).mpr source
    rw [below, List.append_assoc] at sighted ⊢
    exact (finds.exact _).mpr ⟨way ++ lower, rfl,
      ((outer lower last entry comes).isSourceBelow_iff distinct _).mp sighted⟩
  · have clear := free _ _ _ (outer lower last entry comes)
    rw [below, List.append_assoc, clear] at barred
    cases barred

end Entered

theorem Covered.exists_expands (wellFormed : disk.WellFormed) {extra : String}
    (covered : Covered options disk targets files extra)
    (success : collectTexts options disk targets = .ok files) :
    ∃ expansion, Expands options disk (.parse extra) expansion ∧ expansion ⊆ files := by
  have inside : ∀ target ∈ targets, ∀ expansion, Expands options disk (.parse target) expansion →
      expansion ⊆ files := by
    intro target given expansion expands place member
    exact (mem_iff_of_collectTexts success place).mpr ⟨target, given, expansion, expands, member⟩
  cases covered with
  | repeated again =>
    rcases expands_or_refuses options disk (.parse extra) with ⟨expansion, expands⟩ | refused
    · exact ⟨expansion, expands, inside extra again expansion expands⟩
    · exact absurd refused (present_of_collectTexts success extra again)
  | collected isFile there => exact ⟨_, .file isFile, by simpa using there⟩
  | @entered top directory way earlier above isDirectory located below enters =>
    rcases expands_or_refuses options disk (.parse top) with ⟨expansion, expands⟩ | refused
    · cases expands with
      | file isFile =>
        obtain ⟨_, _, file⟩ := isFile
        obtain ⟨_, _, other⟩ := above
        cases file.symm.trans other
      | directory _ found =>
        obtain ⟨-, rights, entries, again⟩ := exists_directory_of_find found
        obtain rfl := Except.ok.inj (again.symm.trans located)
        obtain ⟨_, _, extraLocated⟩ := id isDirectory
        obtain ⟨others, search, fewer⟩ := enters.exists_find wellFormed found located
          (Disk.lookUp_eq_ok extraLocated).1 below
        exact ⟨others, .directory isDirectory search,
          List.Subset.trans fewer (inside top earlier _ (.directory above found))⟩
    · exact absurd refused (present_of_collectTexts success top earlier)

/-- Targets are refused exactly if one of them is, in the way the first such target is. From other
targets all that they stand for is collected, each file once and where it first occurs. Covered
targets make no difference at the end, and the same targets in another order give the same
files. -/
theorem collect_outcome (options : Options) {disk : Disk} (wellFormed : disk.WellFormed)
    (targets : List String) :
    (∀ error, collectTexts options disk targets = .error error ↔
      ∃ target, IsFirst (IsRefused options disk) targets target ∧
        Refuses options disk (.parse target) error) ∧
    ((∀ target ∈ targets, ¬ IsRefused options disk target) →
      ∃ expansions files,
        List.Forall₂ (fun target => Expands options disk (.parse target)) targets expansions ∧
        collectTexts options disk targets = .ok files ∧
        FirstOccurrences expansions.flatten files) ∧
    ∀ files, collectTexts options disk targets = .ok files →
      (∀ extra expansion, Expands options disk (.parse extra) expansion → expansion ⊆ files →
        collectTexts options disk (targets ++ [extra]) = .ok files) ∧
      (∀ extra, Covered options disk targets files extra →
        collectTexts options disk (targets ++ [extra]) = .ok files) ∧
      ∀ others, others.Perm targets →
        ∃ reordered, collectTexts options disk others = .ok reordered ∧ reordered.Perm files := by
  refine ⟨fun error => collectTexts_eq_error_iff, ?_, ?_⟩
  · intro present
    obtain ⟨files, success⟩ := exists_collectTexts present
    obtain ⟨expansions, expanded, rfl⟩ := collectTexts_eq_ok_iff.mp success
    exact ⟨expansions, _, expanded, success, firstOccurrences_eraseDups _⟩
  · intro files success
    refine ⟨?_, ?_, fun others same => collectTexts_perm success same⟩
    · intro extra expansion expands covered
      exact collectTexts_concat success expands covered
    · intro extra covered
      obtain ⟨expansion, expands, inside⟩ := covered.exists_expands wellFormed success
      exact collectTexts_concat success expands inside

/-- The directory to which the link among the small entries leads. -/
def linkedEntries : List (String × FileTree) :=
  [("out", .directory .all [("x.c", .file true [])]), ("x.c", .file true [])]

theorem at?_smallProject : smallProject.tree.at? ["build"] = some (.directory .all smallEntries) :=
  rfl

theorem link_smallProject :
    smallProject.IsDirectory (.parse "again") ∧
      smallProject.resolve (.parse "again") = ["build", "a"] := by
  constructor
  · have located : smallProject.locate (.parse "again") =
        .ok (.directory .all linkedEntries) := by
      rw [Disk.locate, Disk.lookUp_of_short rfl (by decide)]
      change smallProject.tree.lookUp true (39 + 1) ["build"] ["again"] = _
      rw [FileTree.lookUp_link at?_smallProject (by decide) (by decide) (by decide) rfl
        (by simp)]
      change smallProject.tree.lookUp true 39 ["build"] ["a"] = _
      exact FileTree.lookUp_below at?_smallProject rfl (by decide) (.inr (by simp))
    exact ⟨_, _, located⟩
  · have linked : smallProject.lookAt (Path.current.child "again") = .ok (.link "a") := by
      rw [Disk.lookAt, Disk.lookUp_of_short rfl (by decide)]
      exact FileTree.lookUp_last at?_smallProject (by decide) (by decide) (by decide) rfl
    have stands : (FileTree.directory .all smallEntries).at? (Path.current.names ++ ["a"]) =
        some (.directory .all linkedEntries) := rfl
    have inside : smallProject.follow 0 .current ["a"] = ⟨"", ["a"]⟩ :=
      Disk.follow_of_at? at?_smallProject stands (by decide) (by simp)
    have followed : smallProject.follow 1 .current ["again"] = ⟨"", ["a"]⟩ := by
      rw [Disk.follow_link (by decide) linked]
      change smallProject.follow 1 (smallProject.follow 0 .current ["a"]) [] = _
      rw [inside, Disk.follow]
    change smallProject.placeOf (smallProject.follow 1 .current ["again"]) = _
    rw [followed]
    rfl

theorem collect_outcome_small :
    ∃ files, collectTexts (.standard false) smallProject ["a/x.c", "."] = .ok files ∧
      files = [["build", "a", "x.c"], ["build", "a-b", "x.c"]] ∧
      collectTexts (.standard false) smallProject ["a/x.c", ".", "again"] = .ok files ∧
      ∃ reordered, collectTexts (.standard false) smallProject [".", "a/x.c"] = .ok reordered ∧
        reordered.Perm files := by
  have stands : (FileTree.directory .all smallEntries).at? (Path.parse "a/x.c").names =
      some (.file true []) := rfl
  have isFile : smallProject.IsFile (.parse "a/x.c") :=
    ⟨true, [], Disk.locate_of_at? rfl (by decide) wellFormed_smallProject.named at?_smallProject
      stands (by decide) (by simp) rfl⟩
  have file : smallProject.resolve (.parse "a/x.c") = ["build", "a", "x.c"] :=
    Disk.resolve_of_at? wellFormed_smallProject.named at?_smallProject stands (by simp)
  have isDirectory : smallProject.IsDirectory (.parse ".") := by
    refine ⟨.all, smallEntries, ?_⟩
    rw [Disk.locate, Disk.lookUp_of_short rfl (by decide)]
    change smallProject.tree.lookUp true 40 ["build"] ["."] = _
    rw [FileTree.lookUp_stay at?_smallProject (by decide), FileTree.lookUp, at?_smallProject]
  have located : smallProject.locate (smallProject.resolve (.parse ".")).toPath =
      .ok (.directory .all smallEntries) := by
    rw [resolve_smallProject, locate_smallProject]
  have found : (find (.standard false) smallProject (.parse ".")).result =
      .ok [["build", "a", "x.c"], ["build", "a-b", "x.c"]] := by
    rcases findListed_accounts (.standard false) .stored rfl located
      wellFormed_smallProject.distinct.2.1 with
      ⟨files, success, finds, -⟩ | ⟨lower, rights, entry, error, comes, barred, -⟩
    · rw [resolve_smallProject] at finds
      exact finds.unique finds_smallProject ▸ success
    · rw [resolve_smallProject, free_smallProject comes] at barred
      cases barred
  have success : collectTexts (.standard false) smallProject ["a/x.c", "."] =
      .ok [["build", "a", "x.c"], ["build", "a-b", "x.c"]] := by
    refine collectTexts_eq_ok_iff.mpr
      ⟨_, .cons (.file isFile) (.cons (.directory isDirectory found) .nil), ?_⟩
    rw [file]
    decide
  obtain ⟨-, covered, reordered⟩ :=
    (collect_outcome (.standard false) wellFormed_smallProject ["a/x.c", "."]).2.2 _ success
  refine ⟨_, success, rfl, covered "again" ?_, reordered [".", "a/x.c"] (.swap _ _ _)⟩
  obtain ⟨linked, link⟩ := link_smallProject
  have below : smallProject.resolve (.parse "again") =
      smallProject.resolve (.parse ".") ++ ["a"] := by
    rw [resolve_smallProject, link]
    rfl
  refine .entered (by simp) isDirectory linked located below ⟨⟨.all, linkedEntries, rfl⟩, ?_, ?_⟩
  · intro parent rest split more
    cases parent with
    | nil => exact ⟨.all, smallEntries, rfl, rfl⟩
    | cons first parent => simp_all
  · decide

/-- Nothing can be looked for under a name that is too long to be that of an entry. -/
theorem locate_of_long_name {rights : Rights} {entries : List (String × FileTree)} {name : String}
    (ordinary : OrdinaryName name) (long : FileTree.longestName < name.utf8ByteSize)
    (here : disk.tree.at? disk.directory = some (.directory rights entries))
    (searchable : ¬ rights.search = false) (absent : entries.lookup name = none) :
    disk.locate (.parse name) = .error .nameTooLong := by
  have usable : (Place.toPath [name]).defect? = none :=
    Place.defect?_toPath (by simpa using ordinary)
  have nothing : disk.tree.at? (disk.directory ++ [name]) = none := by
    simp [FileTree.at?_append, here, FileTree.at?, absent]
  have looked : disk.tree.lookUp true FileTree.mostLinks disk.directory [name] =
      .error .nameTooLong := by
    rw [FileTree.lookUp.eq_def]
    simp only [here, if_neg searchable, if_neg ordinary.ne_dots, if_neg ordinary.ne_dot, nothing,
      if_pos long]
  change Path.defect? ⟨"", [name]⟩ = none at usable
  rw [Place.parse_of_ordinary ordinary, Disk.locate]
  by_cases short : (Path.mk "" [name]).render.utf8ByteSize ≤ Disk.longestPath
  · rw [Disk.lookUp_of_short usable short]
    exact looked
  · exact Disk.lookUp_of_long usable (by omega)

theorem ordinary_repeatedLetter {length : Nat} (long : 2 < length) :
    OrdinaryName (repeatedLetter length) := by
  have letters : ∀ letter ∈ (repeatedLetter length).toList, letter = 'a' := by
    intro letter member
    rw [repeatedLetter, String.toList_ofList] at member
    exact List.eq_of_mem_replicate member
  have other : ∀ name : String, name.length ≤ 2 → repeatedLetter length ≠ name := by
    rintro name short rfl
    rw [repeatedLetter, String.length_ofList, List.length_replicate] at short
    omega
  refine ⟨other "" (by decide), other "." (by decide), other ".." (by decide), ?_, ?_⟩
  · intro slash
    exact absurd (letters _ slash) (by decide)
  · intro nul
    exact absurd (letters _ nul) (by decide)

def emptyDisk : Disk := ⟨.emptyDirectory, []⟩

def longName : String := repeatedLetter 300

theorem locate_longName : emptyDisk.locate (.parse longName) = .error .nameTooLong := by
  have size : longName.utf8ByteSize = 300 := utf8ByteSize_repeatedLetter 300
  exact locate_of_long_name (ordinary_repeatedLetter (by decide)) (by rw [size]; decide) rfl
    (by decide) rfl

/-- Where there is nothing at all, a name of three hundred letters is that of neither a file nor a
directory, and still it is not said to be missing. -/
theorem collect_long_name :
    ¬ ((∃ error, collectTexts (.standard false) emptyDisk [longName] = .error error ∧
        error.IsMissing) ↔
      ∃ target ∈ [longName], emptyDisk.IsNeither (.parse target)) := by
  intro claimed
  have neither : emptyDisk.IsNeither (.parse longName) := by
    constructor
    · rintro ⟨readable, content, located⟩
      cases locate_longName.symm.trans located
    · rintro ⟨rights, entries, located⟩
      cases locate_longName.symm.trans located
  obtain ⟨error, refused, missing⟩ :=
    claimed.mpr ⟨longName, List.mem_singleton_self _, neither⟩
  obtain ⟨target, first, refuses⟩ := collectTexts_eq_error_iff.mp refused
  obtain rfl := List.mem_singleton.mp first.mem
  have again : (expand (.standard false) emptyDisk (.parse longName)).result =
      .error (.inaccessible (Path.parse longName).render .nameTooLong) :=
    (Refuses.inaccessible locate_longName rfl).result_expand
  obtain rfl := Except.error.inj (refuses.result_expand.symm.trans again)
  exact missing

end Discovery
end DeclarationLint
