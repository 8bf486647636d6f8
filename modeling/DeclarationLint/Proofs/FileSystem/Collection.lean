import DeclarationLint.Proofs.FileSystem.Sources
import DeclarationLint.Proofs.FirstOccurrences

/-!
# What targets stand for

A file stands for itself, and a directory for what a search of it finds. Any other target is
refused, and so is a directory whose search fails. To collect files is to put together what the
targets stand for and to drop the repetitions.
-/
namespace DeclarationLint

namespace Disk

def IsFile (disk : Disk) (path : Path) : Prop :=
  ∃ readable content, disk.locate path = .ok (.file readable content)

def IsDirectory (disk : Disk) (path : Path) : Prop :=
  ∃ rights entries, disk.locate path = .ok (.directory rights entries)

/-- Neither a file nor a directory, which something may be that is not there at all. -/
def IsNeither (disk : Disk) (path : Path) : Prop := ¬ disk.IsFile path ∧ ¬ disk.IsDirectory path

end Disk

namespace Discovery

variable {options : Options} {disk : Disk} {target : Path} {files : List Place}

/-- What a target stands for. -/
inductive Expands (options : Options) (disk : Disk) (target : Path) : List Place → Prop where
  | file (isFile : disk.IsFile target) : Expands options disk target [disk.resolve target]
  | directory {files : List Place} (isDirectory : disk.IsDirectory target)
      (found : (find options disk target).result = .ok files) : Expands options disk target files

/-- How a target is refused: as missing, if what it leads to is neither a file nor a directory; with
the error of the lookup, if that leaves open what is there; and with the error of the search. -/
inductive Refuses (options : Options) (disk : Disk) (target : Path) : DiscoveryError → Prop where
  | missing (neither : disk.IsNeither target)
      (settled : ∀ error, disk.locate target = .error error → error.leavesOpen = false) :
      Refuses options disk target (.missingTarget target.render)
  | inaccessible {error : AccessError} (failed : disk.locate target = .error error)
      (leavesOpen : error.leavesOpen = true) :
      Refuses options disk target (.inaccessible target.render error)
  | search {error : DiscoveryError} (isDirectory : disk.IsDirectory target)
      (failed : (find options disk target).result = .error error) :
      Refuses options disk target error

theorem Expands.exists_locate (expands : Expands options disk target files) :
    ∃ found, disk.locate target = .ok found := by
  cases expands with
  | file isFile =>
    obtain ⟨readable, content, located⟩ := isFile
    exact ⟨_, located⟩
  | directory isDirectory _ =>
    obtain ⟨rights, entries, located⟩ := isDirectory
    exact ⟨_, located⟩

theorem result_expand_of_directory (isDirectory : disk.IsDirectory target) :
    (expand options disk target).result = (find options disk target).result := by
  obtain ⟨rights, entries, located⟩ := isDirectory
  rw [expand, located]
  simp only [Journal.result_bind]
  cases (find options disk target).result with
  | error error => rfl
  | ok found =>
    change (if found = [] then _ else _ : Journal Notice DiscoveryError _).result = _
    split <;> rfl

theorem result_expand_of_file (isFile : disk.IsFile target) :
    (expand options disk target).result = .ok [disk.resolve target] := by
  obtain ⟨readable, content, located⟩ := isFile
  rw [expand, located]
  rfl

theorem Expands.result_expand (expands : Expands options disk target files) :
    (expand options disk target).result = .ok files := by
  cases expands with
  | file isFile => exact result_expand_of_file isFile
  | directory isDirectory found => rw [result_expand_of_directory isDirectory, found]

theorem Refuses.result_expand {error : DiscoveryError}
    (refuses : Refuses options disk target error) :
    (expand options disk target).result = .error error := by
  cases refuses with
  | search isDirectory failed => rw [result_expand_of_directory isDirectory, failed]
  | inaccessible failed leavesOpen =>
    rw [expand, failed]
    simp only [leavesOpen, if_true]
    rfl
  | missing neither settled =>
    rw [expand]
    split
    · exact absurd ⟨_, _, ‹_›⟩ neither.2
    · exact absurd ⟨_, _, ‹_›⟩ neither.1
    · rfl
    · rw [settled _ ‹_›]
      rfl

/-- A target stands for files or is refused. -/
theorem expands_or_refuses (options : Options) (disk : Disk) (target : Path) :
    (∃ files, Expands options disk target files) ∨ ∃ error, Refuses options disk target error := by
  by_cases isFile : disk.IsFile target
  · exact .inl ⟨_, .file isFile⟩
  · by_cases isDirectory : disk.IsDirectory target
    · cases outcome : (find options disk target).result with
      | ok files => exact .inl ⟨files, .directory isDirectory outcome⟩
      | error error => exact .inr ⟨error, .search isDirectory outcome⟩
    · by_cases settled : ∀ error, disk.locate target = .error error → error.leavesOpen = false
      · exact .inr ⟨_, .missing ⟨isFile, isDirectory⟩ settled⟩
      · push Not at settled
        obtain ⟨error, failed, leavesOpen⟩ := settled
        exact .inr ⟨_, .inaccessible failed (by simpa using leavesOpen)⟩

theorem result_expand_eq_ok_iff :
    (expand options disk target).result = .ok files ↔ Expands options disk target files := by
  constructor
  · intro success
    rcases expands_or_refuses options disk target with ⟨others, expands⟩ | ⟨error, refuses⟩
    · exact Except.ok.inj (expands.result_expand.symm.trans success) ▸ expands
    · cases refuses.result_expand.symm.trans success
  · exact Expands.result_expand

theorem result_expand_eq_error_iff {error : DiscoveryError} :
    (expand options disk target).result = .error error ↔ Refuses options disk target error := by
  constructor
  · intro failure
    rcases expands_or_refuses options disk target with ⟨files, expands⟩ | ⟨other, refuses⟩
    · cases expands.result_expand.symm.trans failure
    · exact Except.error.inj (refuses.result_expand.symm.trans failure) ▸ refuses
  · exact Refuses.result_expand

theorem exists_directory_of_find {root : Path}
    (found : (find options disk root).result = .ok files) :
    root.defect? = none ∧ ∃ rights entries,
      disk.locate (disk.resolve root).toPath = .ok (.directory rights entries) := by
  rw [find, findListed] at found
  split at found
  · cases found
  · rename_i usable
    simp only at found
    split at found
    · exact ⟨usable, _, _, ‹_›⟩
    · cases found
    · cases found

/-- A search that succeeds finds the sources below the directory, and before nothing that it looks
at there is a barrier. -/
theorem finds_of_find (wellFormed : disk.WellFormed) {root : Path} {rights : Rights}
    {entries : List (String × FileTree)}
    (found : (find options disk root).result = .ok files)
    (located : disk.locate (disk.resolve root).toPath = .ok (.directory rights entries)) :
    Finds options (.directory rights entries) (disk.resolve root) files ∧
      ∀ lower rights' entry, ComesTo options (.directory rights entries) lower rights' entry →
        barrier? rights' (disk.resolve root ++ lower) = none := by
  obtain ⟨usable, -⟩ := exists_directory_of_find found
  obtain ⟨stop, stands⟩ := Disk.exists_at?_of_locate located
  rcases findListed_accounts options .stored usable located (wellFormed.distinct.at? stands) with
    ⟨others, success, finds, free⟩ | ⟨_, _, _, _, -, -, failure⟩
  · obtain rfl := Except.ok.inj (success.symm.trans found)
    exact ⟨finds, free⟩
  · cases failure.symm.trans found

/-- A target stands for files with ordinary names. -/
theorem ordinary_of_expands (wellFormed : disk.WellFormed) {text : String}
    (expands : Expands options disk (.parse text) files) :
    ∀ place ∈ files, ∀ name ∈ place, OrdinaryName name := by
  intro place member
  cases expands with
  | file isFile =>
    obtain ⟨readable, content, located⟩ := isFile
    rw [List.mem_singleton.mp member]
    exact Disk.ordinary_resolve wellFormed (Disk.lookUp_eq_ok located).1
  | directory isDirectory found =>
    obtain ⟨usable, rights, entries, located⟩ := exists_directory_of_find found
    obtain ⟨stop, stands⟩ := Disk.exists_at?_of_locate located
    obtain ⟨lower, rfl, below⟩ :=
      ((finds_of_find wellFormed found located).1.exact place).mp member
    obtain ⟨entry, there⟩ := below.present
    intro name inside
    rcases List.mem_append.mp inside with above | under
    · exact Disk.ordinary_resolve wellFormed usable name above
    · exact ((wellFormed.named.at? stands).2.at? there).1 name under

theorem addNew_eraseDups (seen found : List Place) :
    addNew seen.eraseDups found = (seen ++ found).eraseDups := by
  unfold addNew
  induction found generalizing seen with
  | nil => rw [List.foldl_nil, List.append_nil]
  | cons place rest ih =>
    have first : (if place ∈ seen.eraseDups then seen.eraseDups
        else seen.eraseDups ++ [place]) = (seen ++ [place]).eraseDups := by
      rw [List.eraseDups_append]
      by_cases there : place ∈ seen <;> simp [List.removeAll, List.eraseDups_cons, there]
    rw [List.foldl_cons, first, ih, List.append_assoc, List.singleton_append]

/-- To collect files is to put together what the targets stand for and to drop the repetitions. -/
theorem result_foldlM_gather (seen : List Place) (targets : List Path) :
    (targets.foldlM (gather options disk) seen.eraseDups).result =
      (targets.mapM fun target => (expand options disk target).result).map
        fun found => (seen ++ found.flatten).eraseDups := by
  induction targets generalizing seen with
  | nil =>
    change Except.ok seen.eraseDups = Except.ok (seen ++ List.flatten []).eraseDups
    rw [List.flatten_nil, List.append_nil]
  | cons target rest ih =>
    let each : Path → Except DiscoveryError (List Place) :=
      fun target => (expand options disk target).result
    change _ = ((target :: rest).mapM each).map _
    rw [List.foldlM_cons, Journal.result_bind, gather, Journal.result_bind]
    cases outcome : (expand options disk target).result with
    | error error =>
      rw [mapM_cons_of_error (show each target = .error error from outcome)]
      rfl
    | ok found =>
      rw [mapM_cons_of_ok (show each target = .ok found from outcome)]
      change (rest.foldlM (gather options disk) (addNew seen.eraseDups found)).result = _
      rw [addNew_eraseDups, ih]
      change (rest.mapM each).map _ = _
      cases rest.mapM each with
      | error error => rfl
      | ok others =>
        change Except.ok (seen ++ found ++ others.flatten).eraseDups =
          Except.ok (seen ++ List.flatten (found :: others)).eraseDups
        rw [List.flatten_cons, List.append_assoc]

theorem result_collect_eq (targets : List Path) :
    (collect options disk targets).result =
      (targets.mapM fun target => (expand options disk target).result).map
        fun found => found.flatten.eraseDups :=
  result_foldlM_gather [] targets

end Discovery

/-- Different places with ordinary names have different paths. -/
theorem Place.nodup_render {places : List Place} (nodup : places.Nodup)
    (ordinary : ∀ place ∈ places, ∀ name ∈ place, OrdinaryName name) :
    (places.map fun place => place.toPath.render).Nodup := by
  apply List.Nodup.map_on ?_ nodup
  intro first member second otherMember same
  exact render_toPath_injective (ordinary first member) (ordinary second otherMember) same

end DeclarationLint
