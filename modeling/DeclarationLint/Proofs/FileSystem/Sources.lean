import DeclarationLint.Proofs.FileSystem.Search
import DeclarationLint.Proofs.FirstFailure
import Mathlib.Algebra.GroupWithZero.Nat

/-!
# What a search finds

A search looks at what stands below a directory, as long as all directories on the way can be listed
and none of them but the first has a name that is not entered. It looks at nothing twice. It ends
with the C files among what it looks at, in order, unless there is something that the file system
does not let it look at: then it fails, although only a listing that fails is meant to be passed
over.
-/
namespace DeclarationLint

/-- To prove something of a tree, it may be taken for granted of the entries of a directory. -/
@[elab_as_elim]
theorem FileTree.induction_on_entries {motive : FileTree → Prop}
    (file : ∀ readable content, motive (.file readable content))
    (special : ∀ readable content, motive (.special readable content))
    (link : ∀ target, motive (.link target))
    (directory : ∀ rights entries, (∀ entry ∈ entries, motive entry.2) →
      motive (.directory rights entries)) :
    ∀ tree, motive tree
  | .file readable content => file readable content
  | .special readable content => special readable content
  | .link target => link target
  | .directory rights entries => directory rights entries fun entry _member =>
    induction_on_entries file special link directory entry.2
termination_by tree => sizeOf tree
decreasing_by
  have smaller := List.sizeOf_lt_of_mem _member
  have inner : sizeOf entry.2 < sizeOf entry := by
    obtain ⟨name, tree⟩ := entry
    simp
  simp
  omega

namespace Discovery

variable {options : Options}

/-- The way from a tree down to an entry that a search looks at, with the rights to the directory
in which the entry stands. -/
inductive ComesTo (options : Options) : FileTree → List String → Rights → FileTree → Prop where
  | entry {rights : Rights} {entries : List (String × FileTree)} {name : String} {tree : FileTree}
      (listed : rights.list = true) (member : (name, tree) ∈ entries) :
      ComesTo options (.directory rights entries) [name] rights tree
  | deeper {rights last : Rights} {entries : List (String × FileTree)} {name : String}
      {lower : List String} {inner tree : FileTree} (listed : rights.list = true)
      (member : (name, inner) ∈ entries) (entered : name ∉ options.ignored)
      (rest : ComesTo options inner lower last tree) :
      ComesTo options (.directory rights entries) (name :: lower) last tree

theorem exists_comesTo (tree : FileTree) : ∀ {here : Place} {seen : Sighting},
    seen ∈ sightingsBelow options here tree →
      ∃ lower, seen.place = here ++ lower ∧ ComesTo options tree lower seen.rights seen.tree := by
  induction tree using FileTree.induction_on_entries with
  | file | special | link =>
    intro here seen member
    simp [sightingsBelow] at member
  | directory rights entries ih =>
    intro here seen member
    rw [sightingsBelow] at member
    split at member
    · rename_i listed
      obtain ⟨⟨name, tree⟩, inEntries, rfl | behind⟩ := (mem_sightingsAmong_iff options).mp member
      · exact ⟨[name], rfl, .entry listed inEntries⟩
      · rw [sightingsBehind] at behind
        split at behind
        · cases behind
        · rename_i entered
          obtain ⟨lower, place, comes⟩ := ih _ inEntries behind
          exact ⟨name :: lower, by rw [place, List.append_assoc]; rfl,
            .deeper listed inEntries entered comes⟩
    · cases member

theorem ComesTo.mem_sightingsBelow {tree last : FileTree} {lower : List String} {rights : Rights}
    (comes : ComesTo options tree lower rights last) (here : Place) :
    ⟨here ++ lower, rights, last⟩ ∈ sightingsBelow options here tree := by
  induction comes generalizing here with
  | @entry rights entries name tree listed member =>
    rw [sightingsBelow, if_pos listed, mem_sightingsAmong_iff]
    exact ⟨_, member, .inl rfl⟩
  | @deeper rights last entries name lower inner tree listed member entered rest ih =>
    rw [sightingsBelow, if_pos listed, mem_sightingsAmong_iff]
    refine ⟨_, member, .inr ?_⟩
    rw [sightingsBehind, if_neg entered]
    simpa using ih (here ++ [name])

theorem ComesTo.ne_nil {tree last : FileTree} {lower : List String} {rights : Rights}
    (comes : ComesTo options tree lower rights last) : lower ≠ [] := by
  cases comes <;> exact List.cons_ne_nil _ _

/-- What a search comes to below a directory that it enters it comes to from further up. -/
theorem ComesTo.append {tree inner last : FileTree} {way lower : List String}
    {rights deepest : Rights} (comes : ComesTo options tree way rights inner)
    (entered : ∀ name ∈ way, name ∉ options.ignored)
    (rest : ComesTo options inner lower deepest last) :
    ComesTo options tree (way ++ lower) deepest last := by
  induction comes with
  | @entry rights entries name tree listed member =>
    exact .deeper listed member (entered name (List.mem_singleton_self _)) rest
  | @deeper rights last entries name lower inner tree listed member enters comes ih =>
    exact .deeper listed member enters
      (ih (fun name member => entered name (List.mem_cons_of_mem _ member)) rest)

theorem exists_name_of_mem {here : Place} {rights : Rights} {entries : List (String × FileTree)}
    {seen : Sighting} (member : seen ∈ sightingsAmong options here rights entries) :
    ∃ name ∈ entries.map Prod.fst, ∃ rest, seen.place = here ++ name :: rest := by
  obtain ⟨⟨name, tree⟩, inEntries, rfl | behind⟩ := (mem_sightingsAmong_iff options).mp member
  · exact ⟨name, List.mem_map_of_mem inEntries, [], rfl⟩
  · rw [sightingsBehind] at behind
    split at behind
    · cases behind
    · obtain ⟨lower, place, -⟩ := exists_comesTo tree behind
      exact ⟨name, List.mem_map_of_mem inEntries, lower, by rw [place, List.append_assoc]; rfl⟩

/-- A search looks at no place twice. -/
theorem nodup_sightingsBelow (tree : FileTree) : ∀ {here : Place}, tree.DistinctNames →
    ((sightingsBelow options here tree).map Sighting.place).Nodup := by
  induction tree using FileTree.induction_on_entries with
  | file | special | link => simp [sightingsBelow]
  | directory rights entries ih =>
    intro here distinct
    rw [sightingsBelow]
    split
    case isFalse => simp
    change FileTree.DistinctNamesAmong entries at distinct
    induction entries with
    | nil => simp [sightingsAmong]
    | cons entry rest among =>
      obtain ⟨name, tree⟩ := entry
      obtain ⟨fresh, below, others⟩ := distinct
      have behind : ∀ seen ∈ sightingsBehind options here (name, tree),
          ∃ lower, lower ≠ [] ∧ seen.place = here ++ name :: lower := by
        intro seen member
        rw [sightingsBehind] at member
        split at member
        · cases member
        · obtain ⟨lower, place, comes⟩ := exists_comesTo tree member
          exact ⟨lower, comes.ne_nil, by rw [place, List.append_assoc]; rfl⟩
      have apart : ∀ seen ∈ sightingsAmong options here rights rest, ∀ lower,
          seen.place ≠ here ++ name :: lower := by
        intro seen member lower same
        obtain ⟨other, known, more, place⟩ := exists_name_of_mem member
        rw [place] at same
        obtain ⟨rfl, -⟩ := List.cons.inj (List.append_cancel_left same)
        exact fresh known
      have inside : ((sightingsBehind options here (name, tree)).map Sighting.place).Nodup := by
        rw [sightingsBehind]
        split
        · simp
        · exact ih (name, tree) (List.mem_cons_self ..) below
      have more := among (fun entry member => ih entry (List.mem_cons_of_mem _ member)) others
      rw [sightingsAmong_cons, List.map_cons, List.map_append, List.nodup_cons,
        List.nodup_append]
      refine ⟨?_, inside, more, ?_⟩
      · intro member
        rcases List.mem_append.mp member with deeper | later
        · obtain ⟨seen, member, place⟩ := List.mem_map.mp deeper
          obtain ⟨lower, nonempty, same⟩ := behind seen member
          rw [place] at same
          exact nonempty (List.cons.inj (List.append_cancel_left same)).2.symm
        · obtain ⟨seen, member, place⟩ := List.mem_map.mp later
          exact apart seen member [] place
      · rintro place deeper other later rfl
        obtain ⟨seen, member, rfl⟩ := List.mem_map.mp deeper
        obtain ⟨lower, -, place⟩ := behind seen member
        obtain ⟨another, known, same⟩ := List.mem_map.mp later
        exact apart another known lower (same.trans place)

/-- What a search of a directory looks at below it. All directories on the way can be listed, and
none but the first, which may have any name, has one that is not entered. -/
structure IsExamined (options : Options) (directory : FileTree) (lower : List String) : Prop where
  present : ∃ tree, directory.at? lower = some tree
  below : lower ≠ []
  listed (parent rest : List String) : lower = parent ++ rest → rest ≠ [] →
    ∃ rights entries, directory.at? parent = some (.directory rights entries) ∧ rights.list = true
  entered (parent rest : List String) : lower = parent ++ rest → rest ≠ [] →
    ∀ name ∈ parent.getLast?, name ∉ options.ignored

/-- What a search of a directory is for: the C files among what it looks at. As nothing stands below
a link, no directory on the way is one. -/
structure IsSourceBelow (options : Options) (directory : FileTree) (lower : List String) : Prop
    extends IsExamined options directory lower where
  file : ∃ readable content, directory.at? lower = some (.file readable content)
  source : (Place.toPath lower).isSource options.headers = true

section Places

variable {directory entry : FileTree} {lower : List String} {rights : Rights}

theorem ComesTo.at?_eq (comes : ComesTo options directory lower rights entry)
    (distinct : directory.DistinctNames) : directory.at? lower = some entry := by
  induction comes with
  | entry listed member =>
    simp [FileTree.at?, (FileTree.DistinctNamesAmong.of_mem distinct member).1]
  | deeper listed member entered rest ih =>
    obtain ⟨found, below⟩ := FileTree.DistinctNamesAmong.of_mem distinct member
    simp [FileTree.at?, found, ih below]

theorem ComesTo.directory_above (comes : ComesTo options directory lower rights entry)
    (distinct : directory.DistinctNames) {parent rest : List String} (way : lower = parent ++ rest)
    (more : rest ≠ []) :
    (∃ rights entries, directory.at? parent = some (.directory rights entries) ∧
        rights.list = true) ∧
      ∀ name ∈ parent.getLast?, name ∉ options.ignored := by
  induction comes generalizing parent with
  | @entry rights entries name tree listed member =>
    cases parent with
    | nil => exact ⟨⟨rights, entries, rfl, listed⟩, by simp⟩
    | cons => simp_all
  | @deeper rights last entries name lower inner tree listed member entered comes ih =>
    cases parent with
    | nil => exact ⟨⟨rights, entries, rfl, listed⟩, by simp⟩
    | cons first parent =>
      obtain ⟨same, onwards⟩ := List.cons.inj way
      subst same
      obtain ⟨found, below⟩ := FileTree.DistinctNamesAmong.of_mem distinct member
      obtain ⟨⟨rights, others, stands, listed⟩, names⟩ := ih below onwards
      refine ⟨⟨rights, others, by simp [FileTree.at?, found, stands], listed⟩, ?_⟩
      cases parent with
      | nil => simpa using entered
      | cons second parent => rwa [List.getLast?_cons_cons]

theorem ComesTo.isExamined (comes : ComesTo options directory lower rights entry)
    (distinct : directory.DistinctNames) : IsExamined options directory lower where
  present := ⟨entry, comes.at?_eq distinct⟩
  below := comes.ne_nil
  listed _ _ way more := (comes.directory_above distinct way more).1
  entered _ _ way more := (comes.directory_above distinct way more).2

theorem IsExamined.comesTo (examined : IsExamined options directory lower) :
    ∃ rights entry, ComesTo options directory lower rights entry := by
  induction lower generalizing directory with
  | nil => exact absurd rfl examined.below
  | cons name rest ih =>
    obtain ⟨rights, entries, stands, listed⟩ :=
      examined.listed [] (name :: rest) rfl (List.cons_ne_nil _ _)
    obtain rfl := Option.some.inj stands
    obtain ⟨tree, there⟩ := examined.present
    obtain ⟨_, _, next, same, found, there⟩ := FileTree.exists_entry_of_at? there
    obtain ⟨rfl, rfl⟩ := FileTree.directory.inj same
    by_cases last : rest = []
    · subst last
      exact ⟨rights, next, .entry listed (mem_of_lookup found)⟩
    · have inner : IsExamined options next rest := by
        refine ⟨⟨tree, there⟩, last, ?_, ?_⟩
        · intro parent more split nonempty
          have above := examined.listed (name :: parent) more (by rw [split]; rfl) nonempty
          simpa [FileTree.at?, found] using above
        · intro parent more split nonempty other ending
          refine examined.entered (name :: parent) more (by rw [split]; rfl) nonempty other ?_
          cases parent with
          | nil => cases ending
          | cons second parent => rwa [List.getLast?_cons_cons]
      obtain ⟨deepest, entry, comes⟩ := ih inner
      have entered := examined.entered [name] rest rfl last name rfl
      exact ⟨deepest, entry, .deeper listed (mem_of_lookup found) entered comes⟩

/-- A directory that may not be searched is in the way of its entries. -/
theorem ComesTo.isOpen_eq_false (comes : ComesTo options directory lower rights entry)
    (distinct : directory.DistinctNames) (closed : rights.search = false) :
    directory.isOpen lower = false := by
  induction comes with
  | entry listed member => simp [FileTree.isOpen, closed]
  | deeper listed member entered rest ih =>
    obtain ⟨found, below⟩ := FileTree.DistinctNamesAmong.of_mem distinct member
    simp [FileTree.isOpen, found, ih below closed]

/-- If the directories of all entries that a search looks at may be searched, so may all directories
on the way to one of them. -/
theorem ComesTo.isOpen (comes : ComesTo options directory lower rights entry)
    (distinct : directory.DistinctNames)
    (free : ∀ lower rights entry, ComesTo options directory lower rights entry →
      rights.search = true) : directory.isOpen lower = true := by
  induction comes with
  | @entry rights entries name tree listed member =>
    have found := (FileTree.DistinctNamesAmong.of_mem distinct member).1
    have searchable := free [name] rights tree (.entry listed member)
    simp [FileTree.isOpen, found, searchable]
  | @deeper rights last entries name lower inner tree listed member entered rest ih =>
    obtain ⟨found, below⟩ := FileTree.DistinctNamesAmong.of_mem distinct member
    have searchable := free [name] rights inner (.entry listed member)
    have others := ih below fun lower rights entry comes =>
      free (name :: lower) rights entry (.deeper listed member entered comes)
    simp [FileTree.isOpen, found, searchable, others]

end Places

section Find

variable {disk : Disk} {directory entry : FileTree} {top : Place} {lower : List String}
  {rights : Rights}

/-- A place is behind a barrier if there is one right before it. -/
theorem lookAt_of_barrier (located : disk.locate top.toPath = .ok directory)
    (named : directory.WellNamed) (distinct : directory.DistinctNames)
    (comes : ComesTo options directory lower rights entry) {error : AccessError}
    (barred : barrier? rights (top ++ lower) = some error) :
    disk.lookAt (Place.toPath (top ++ lower)) = .error error := by
  have stands := comes.at?_eq distinct
  rw [Disk.lookAt, Disk.lookUp_below located stands comes.ne_nil (named.at? stands).1 (.inl rfl)]
  unfold barrier? at barred
  split at barred
  · rw [if_pos ‹_›, Option.some.inj barred]
  · rw [if_neg ‹_›]
    split at barred
    · cases barred
    · rename_i closed
      rw [comes.isOpen_eq_false distinct (by simpa using closed), ← Option.some.inj barred]
      rfl

/-- An entry can be looked up if there is no barrier before anything that a search looks at. -/
theorem lookUp_of_free (located : disk.locate top.toPath = .ok directory)
    (named : directory.WellNamed) (distinct : directory.DistinctNames)
    (comes : ComesTo options directory lower rights entry)
    (free : ∀ lower rights entry, ComesTo options directory lower rights entry →
      barrier? rights (top ++ lower) = none) {follows : Bool}
    (final : follows = false ∨ ∀ target, entry ≠ .link target) :
    disk.lookUp follows (Place.toPath (top ++ lower)) = .ok entry := by
  have stands := comes.at?_eq distinct
  have clear : ∀ lower rights entry, ComesTo options directory lower rights entry →
      (Place.toPath (top ++ lower)).render.utf8ByteSize ≤ Disk.longestPath ∧
        rights.search = true := by
    intro lower rights entry comes
    have none := free lower rights entry comes
    unfold barrier? at none
    split at none
    · cases none
    · split at none
      · exact ⟨by omega, ‹_›⟩
      · cases none
  have searchable := comes.isOpen distinct fun lower rights entry comes =>
    (clear lower rights entry comes).2
  have short := (clear lower rights entry comes).1
  rw [Disk.lookUp_below located stands comes.ne_nil (named.at? stands).1 final,
    if_neg (by omega), if_pos searchable]

/-- What a search of a directory is to find: each source below it once, in order name by name. -/
structure Finds (options : Options) (directory : FileTree) (top : Place) (files : List Place) :
    Prop where
  exact (place : Place) :
    place ∈ files ↔ ∃ lower, place = top ++ lower ∧ IsSourceBelow options directory lower
  nodup : files.Nodup
  sorted : files.Pairwise (· < ·)

/-- There is only one way to list the same places in order. -/
theorem Finds.unique {files others : List Place} (finds : Finds options directory top files)
    (again : Finds options directory top others) : files = others := by
  have same : files.Perm others := by
    rw [List.perm_ext_iff_of_nodup finds.nodup again.nodup]
    intro place
    rw [finds.exact, again.exact]
  refine same.eq_of_pairwise ?_ finds.sorted again.sorted
  intro place other _ _ before after
  exact absurd before (lt_asymm after)

theorem ComesTo.isSourceBelow_iff (comes : ComesTo options directory lower rights entry)
    (distinct : directory.DistinctNames) (top : Place) :
    (Sighting.mk (top ++ lower) rights entry).source? options = some (top ++ lower) ↔
      IsSourceBelow options directory lower := by
  have stands := comes.at?_eq distinct
  have same : (Place.toPath (top ++ lower)).isSource options.headers =
      (Place.toPath lower).isSource options.headers := by
    simp only [Path.isSource, Place.toPath, List.getLast?_append_of_ne_nil _ comes.ne_nil]
  rw [Sighting.source?_eq_some_iff, same]
  constructor
  · rintro ⟨⟨readable, content, rfl⟩, source, -⟩
    exact ⟨comes.isExamined distinct, ⟨readable, content, stands⟩, source⟩
  · intro below
    obtain ⟨readable, content, file⟩ := below.file
    rw [stands] at file
    exact ⟨⟨readable, content, Option.some.inj file⟩, below.source, rfl⟩

theorem sources_sublist (options : Options) (sightings : List Sighting) :
    (sightings.filterMap (Sighting.source? options)).Sublist (sightings.map Sighting.place) := by
  induction sightings with
  | nil => exact .slnil
  | cons seen rest ih =>
    rw [List.filterMap_cons, List.map_cons]
    split
    · exact ih.cons _
    · rename_i place source
      rw [(Sighting.source?_eq_some_iff.mp source).2.2]
      exact ih.cons_cons _

theorem finds_mergeSort (distinct : directory.DistinctNames) (top : Place) {files : List Place}
    (same : files.Perm
      ((sightingsBelow options top directory).filterMap (Sighting.source? options))) :
    Finds options directory top (files.mergeSort Place.isAtMost) := by
  have nodup : (files.mergeSort Place.isAtMost).Nodup :=
    (List.mergeSort_perm _ _).nodup_iff.mpr (same.nodup_iff.mpr
      ((nodup_sightingsBelow directory distinct).sublist (sources_sublist options _)))
  refine ⟨?_, nodup, ?_⟩
  · intro place
    rw [List.mem_mergeSort, same.mem_iff, List.mem_filterMap]
    constructor
    · rintro ⟨⟨other, rights, entry⟩, member, source⟩
      obtain ⟨lower, rfl, comes⟩ := exists_comesTo directory member
      obtain rfl := (Sighting.source?_eq_some_iff.mp source).2.2
      exact ⟨lower, rfl, (comes.isSourceBelow_iff distinct top).mp source⟩
    · rintro ⟨lower, rfl, below⟩
      obtain ⟨rights, entry, comes⟩ := below.toIsExamined.comesTo
      exact ⟨_, comes.mem_sightingsBelow top, (comes.isSourceBelow_iff distinct top).mpr below⟩
  · refine (nodup.and (Place.pairwise_mergeSort _)).imp ?_
    rintro place other ⟨different, atMost⟩
    exact lt_of_le_of_ne atMost different

theorem result_findListed (options : Options) (listing : Listing) {root : Path}
    (usable : root.defect? = none) {entries : List (String × FileTree)}
    (located : disk.locate (disk.resolve root).toPath = .ok (.directory rights entries)) :
    (findListed listing options disk root).result =
      (Search.run listing options ⟨[⟨disk.resolve root, rights, entries⟩], []⟩).result.map
        (·.mergeSort Place.isAtMost) := by
  rw [findListed, usable]
  simp only [located, Journal.result_bind]
  cases (Search.run listing options ⟨[⟨disk.resolve root, rights, entries⟩], []⟩).result <;> rfl

/-- How a search for source files ends, in whatever order directories list their entries. -/
theorem findListed_accounts (options : Options) (listing : Listing) {root : Path}
    (usable : root.defect? = none) {entries : List (String × FileTree)}
    (located : disk.locate (disk.resolve root).toPath = .ok (.directory rights entries))
    (distinct : (FileTree.directory rights entries).DistinctNames) :
    (∃ files, (findListed listing options disk root).result = .ok files ∧
      Finds options (.directory rights entries) (disk.resolve root) files ∧
      ∀ lower rights' entry, ComesTo options (.directory rights entries) lower rights' entry →
        barrier? rights' (disk.resolve root ++ lower) = none) ∨
    ∃ lower rights' entry error, ComesTo options (.directory rights entries) lower rights' entry ∧
      barrier? rights' (disk.resolve root ++ lower) = some error ∧
      (findListed listing options disk root).result =
        .error (.inaccessible (disk.resolve root ++ lower).render error) := by
  rw [result_findListed options listing usable located]
  have accounts := Search.run_accounts options listing
    ⟨[⟨disk.resolve root, rights, entries⟩], []⟩
  have sightings : Search.sightings options ⟨[⟨disk.resolve root, rights, entries⟩], []⟩ =
      sightingsBelow options (disk.resolve root) (.directory rights entries) := by
    simp [Search.sightings]
  generalize (Search.run listing options _).result = result at accounts
  cases result with
  | error error =>
    obtain ⟨⟨place, last, entry⟩, member, barrier, barred, rfl⟩ := accounts
    rw [sightings] at member
    obtain ⟨lower, rfl, comes⟩ := exists_comesTo _ member
    exact .inr ⟨lower, last, entry, barrier, comes, barred, rfl⟩
  | ok files =>
    obtain ⟨free, same⟩ := accounts
    rw [sightings] at free same
    refine .inl ⟨_, rfl, finds_mergeSort distinct _ (by simpa using same), ?_⟩
    intro lower last entry comes
    exact free ⟨_, last, entry⟩ (comes.mem_sightingsBelow (disk.resolve root))

/-- A search of a directory ends with the source files below it if the file system lets one look at
everything that the search looks at. If there is something that it does not let one look at, the
search fails over such a thing. Either holds in whatever order directories list their entries. -/
theorem find_outcome (options : Options) (wellFormed : disk.WellFormed) {root : Path}
    (usable : root.defect? = none) {entries : List (String × FileTree)}
    (located : disk.locate (disk.resolve root).toPath = .ok (.directory rights entries)) :
    ((∀ lower, IsExamined options (.directory rights entries) lower →
        ∃ entry, disk.lookAt (Place.toPath (disk.resolve root ++ lower)) = .ok entry) →
      ∃ files, Finds options (.directory rights entries) (disk.resolve root) files ∧
        ∀ listing, (findListed listing options disk root).result = .ok files) ∧
    ∀ lower error, IsExamined options (.directory rights entries) lower →
      disk.lookAt (Place.toPath (disk.resolve root ++ lower)) = .error error →
      ∀ listing, ∃ blocked barrier, IsExamined options (.directory rights entries) blocked ∧
        disk.lookAt (Place.toPath (disk.resolve root ++ blocked)) = .error barrier ∧
        (findListed listing options disk root).result =
          .error (.inaccessible (disk.resolve root ++ blocked).render barrier) := by
  obtain ⟨stop, stands⟩ := Disk.exists_at?_of_locate located
  have named := (wellFormed.named.at? stands).2
  have distinct := wellFormed.distinct.at? stands
  constructor
  · intro clear
    have found : ∀ listing, ∃ files, (findListed listing options disk root).result = .ok files ∧
        Finds options (.directory rights entries) (disk.resolve root) files := by
      intro listing
      rcases findListed_accounts options listing usable located distinct with
        ⟨files, success, finds, -⟩ | ⟨lower, last, entry, error, comes, barred, -⟩
      · exact ⟨files, success, finds⟩
      · obtain ⟨seen, looked⟩ := clear lower (comes.isExamined distinct)
        rw [lookAt_of_barrier located named distinct comes barred] at looked
        cases looked
    obtain ⟨files, -, finds⟩ := found .stored
    refine ⟨files, finds, fun listing => ?_⟩
    obtain ⟨others, success, again⟩ := found listing
    rw [success, finds.unique again]
  · intro lower error examined blocked listing
    rcases findListed_accounts options listing usable located distinct with
      ⟨files, -, -, free⟩ | ⟨barred, last, entry, barrier, comes, before, failure⟩
    · obtain ⟨last, entry, comes⟩ := examined.comesTo
      rw [Disk.lookAt, lookUp_of_free located named distinct comes free (.inl rfl)] at blocked
      cases blocked
    · exact ⟨barred, barrier, comes.isExamined distinct,
        lookAt_of_barrier located named distinct comes before, failure⟩

end Find

/-- Two directories whose names are in another order as parts of paths, one that is not entered, one
that cannot be listed, and things that are no files. -/
def smallEntries : List (String × FileTree) :=
  [("a-b", .directory .all [("x.c", .file true [])]),
    ("a", .directory .all
      [("out", .directory .all [("x.c", .file true [])]), ("x.c", .file true [])]),
    ("again", .link "a"),
    ("pipe.c", .special true []),
    ("sealed", .directory ⟨false, true⟩ [("x.c", .file true [])])]

/-- The directory in which one works has the name of one that is not entered. -/
def smallProject : Disk := ⟨.directory .all [("build", .directory .all smallEntries)], ["build"]⟩

theorem wellFormed_smallProject : smallProject.WellFormed where
  named := by
    simp only [smallProject, smallEntries, FileTree.WellNamed, FileTree.WellNamedAmong]
    decide
  distinct := by
    simp [smallProject, smallEntries, FileTree.DistinctNames, FileTree.DistinctNamesAmong]
  directory := ⟨.directory .all smallEntries, rfl⟩

theorem resolve_smallProject : smallProject.resolve (.parse ".") = ["build"] := by
  have names : (Path.parse ".").names = [] := rfl
  rw [Disk.resolve, names, Disk.follow]
  rfl

theorem locate_smallProject :
    smallProject.locate (Place.toPath ["build"]) = .ok (.directory .all smallEntries) :=
  Disk.locate_of_at? rfl (by decide) wellFormed_smallProject.named rfl rfl (by decide) (by simp) rfl

theorem sightingsBelow_small :
    sightingsBelow (.standard false) ["build"] (.directory .all smallEntries) =
      [⟨["build", "a-b"], .all, .directory .all [("x.c", .file true [])]⟩,
        ⟨["build", "a-b", "x.c"], .all, .file true []⟩,
        ⟨["build", "a"], .all, .directory .all
          [("out", .directory .all [("x.c", .file true [])]), ("x.c", .file true [])]⟩,
        ⟨["build", "a", "out"], .all, .directory .all [("x.c", .file true [])]⟩,
        ⟨["build", "a", "x.c"], .all, .file true []⟩,
        ⟨["build", "again"], .all, .link "a"⟩,
        ⟨["build", "pipe.c"], .all, .special true []⟩,
        ⟨["build", "sealed"], .all, .directory ⟨false, true⟩ [("x.c", .file true [])]⟩] := by
  simp [smallEntries, sightingsBelow, sightingsAmong, Options.standard, defaultIgnored, Rights.all]

theorem finds_smallProject :
    Finds (.standard false) (.directory .all smallEntries) ["build"]
      [["build", "a", "x.c"], ["build", "a-b", "x.c"]] := by
  have distinct : (FileTree.directory .all smallEntries).DistinctNames :=
    wellFormed_smallProject.distinct.2.1
  have source : isSourceName false "x.c" = true := by decide +kernel
  have sources : (sightingsBelow (.standard false) ["build"]
      (.directory .all smallEntries)).filterMap (Sighting.source? (.standard false)) =
        [["build", "a-b", "x.c"], ["build", "a", "x.c"]] := by
    rw [sightingsBelow_small]
    simp [List.filterMap_cons, Sighting.source?, Path.isSource, Place.toPath, Options.standard,
      source]
  have sorted : [["build", "a", "x.c"], ["build", "a-b", "x.c"]].mergeSort Place.isAtMost =
      [["build", "a", "x.c"], ["build", "a-b", "x.c"]] :=
    List.mergeSort_of_pairwise (by decide)
  rw [← sorted]
  exact finds_mergeSort distinct ["build"] (sources ▸ .swap _ _ _)

theorem free_smallProject {lower : List String} {rights : Rights} {entry : FileTree}
    (comes : ComesTo (.standard false) (.directory .all smallEntries) lower rights entry) :
    barrier? rights (["build"] ++ lower) = none := by
  have free : ∀ seen ∈ sightingsBelow (.standard false) ["build"]
      (.directory .all smallEntries), seen.barrier? = none := by
    rw [sightingsBelow_small]
    simp only [List.forall_mem_cons]
    decide
  exact free ⟨_, rights, entry⟩ (comes.mem_sightingsBelow ["build"])

theorem find_outcome_small :
    Finds (.standard false) (.directory .all smallEntries) ["build"]
        [["build", "a", "x.c"], ["build", "a-b", "x.c"]] ∧
      ∀ listing, (findListed listing (.standard false) smallProject (.parse ".")).result =
        .ok [["build", "a", "x.c"], ["build", "a-b", "x.c"]] := by
  have located : smallProject.locate (smallProject.resolve (.parse ".")).toPath =
      .ok (.directory .all smallEntries) := by
    rw [resolve_smallProject, locate_smallProject]
  obtain ⟨succeeds, -⟩ := find_outcome (.standard false) wellFormed_smallProject
    (show (Path.parse ".").defect? = none from rfl) located
  rw [resolve_smallProject] at succeeds
  have clear : ∀ lower, IsExamined (.standard false) (.directory .all smallEntries) lower →
      ∃ entry, smallProject.lookAt (Place.toPath (["build"] ++ lower)) = .ok entry := by
    intro lower examined
    obtain ⟨rights, entry, comes⟩ := examined.comesTo
    exact ⟨entry, lookUp_of_free locate_smallProject wellFormed_smallProject.named.2.1
      wellFormed_smallProject.distinct.2.1 comes (fun _ _ _ other => free_smallProject other)
      (.inl rfl)⟩
  obtain ⟨files, finds, listed⟩ := succeeds clear
  exact ⟨finds_smallProject, finds.unique finds_smallProject ▸ listed⟩

/-- A name in which one letter is repeated. -/
def repeatedLetter (length : Nat) : String := String.ofList (List.replicate length 'a')

theorem utf8ByteSize_repeatedLetter (length : Nat) :
    (repeatedLetter length).utf8ByteSize = length := by
  have one : 'a'.utf8Size = 1 := by decide
  rw [repeatedLetter, String.utf8ByteSize_ofList]
  induction length with
  | zero => rfl
  | succ length ih => rw [List.replicate_succ, String.utf8Len_cons, ih, one]

/-- A path has no fewer bytes than its names. -/
theorem sum_le_utf8ByteSize (place : Place) :
    (place.map String.utf8ByteSize).sum ≤ (Place.toPath place).render.utf8ByteSize := by
  have names : (place.map String.utf8ByteSize).sum ≤ ("/".intercalate place).utf8ByteSize := by
    induction place with
    | nil => simp
    | cons name rest ih =>
      cases rest with
      | nil => simp
      | cons other rest =>
        rw [List.map_cons, List.sum_cons, String.intercalate_cons_cons,
          String.utf8ByteSize_append, String.utf8ByteSize_append]
        omega
  have rendered : (Place.toPath place).render = "/" ++ "/".intercalate place := by
    simp [Path.render, Place.toPath]
  rw [rendered, String.utf8ByteSize_append]
  omega

/-- Directories of one name inside each other, and a file in the last of them. -/
def tower (name : String) : Nat → List (String × FileTree)
  | 0 => [("x.c", .file true [])]
  | depth + 1 => [(name, .directory .all (tower name depth))]

theorem comesTo_tower {name : String} (entered : name ∉ options.ignored) (depth : Nat) :
    ComesTo options (.directory .all (tower name depth))
      (List.replicate depth name ++ ["x.c"]) .all (.file true []) := by
  induction depth with
  | zero => exact .entry rfl (List.mem_singleton_self _)
  | succ depth ih => exact .deeper rfl (List.mem_singleton_self _) entered ih

theorem distinctNames_tower (name : String) (depth : Nat) :
    (FileTree.directory .all (tower name depth)).DistinctNames := by
  induction depth with
  | zero => simp [tower, FileTree.DistinctNames, FileTree.DistinctNamesAmong]
  | succ depth ih => exact ⟨by simp, ih, trivial⟩

/-- No name is too long, and all directories can be listed and searched. -/
def deepProject : Disk := ⟨.directory .all (tower (repeatedLetter 250) 17), []⟩

def deepSource : Place := List.replicate 17 (repeatedLetter 250) ++ ["x.c"]

theorem resolve_deepProject : deepProject.resolve (.parse ".") = [] := by
  have names : (Path.parse ".").names = [] := rfl
  rw [Disk.resolve, names, Disk.follow]
  rfl

theorem locate_deepProject :
    deepProject.locate (Place.toPath []) =
      .ok (.directory .all (tower (repeatedLetter 250) 17)) := by
  rw [Disk.locate, Disk.lookUp_of_short rfl (by decide)]
  simp [Place.toPath, Path.steps, Path.isAbsolute, Disk.base, FileTree.lookUp, FileTree.at?,
    deepProject]

theorem barrier?_deepSource : barrier? .all deepSource = some .nameTooLong := by
  have sizes : (deepSource.map String.utf8ByteSize).sum = 4253 := by
    rw [deepSource, List.map_append, List.map_replicate, utf8ByteSize_repeatedLetter,
      List.sum_append, List.sum_replicate_nat]
    rfl
  have long := sum_le_utf8ByteSize deepSource
  rw [barrier?, if_pos (by rw [Disk.longestPath]; omega)]

/-- A file so deep that its path is too long is not found, and neither is anything else. -/
theorem find_too_deep :
    IsSourceBelow (.standard false) deepProject.tree deepSource ∧
      ∀ files, (find (.standard false) deepProject (.parse ".")).result ≠ .ok files := by
  have entered : repeatedLetter 250 ∉ (Options.standard false).ignored := by decide +kernel
  have comes := comesTo_tower entered 17
  have distinct := distinctNames_tower (repeatedLetter 250) 17
  constructor
  · have source : isSourceName (Options.standard false).headers "x.c" = true := by
      decide +kernel
    refine ⟨comes.isExamined distinct, ⟨true, [], comes.at?_eq distinct⟩, ?_⟩
    rw [Path.isSource, Place.toPath, deepSource, List.getLast?_concat]
    exact source
  · intro files success
    have located : deepProject.locate (deepProject.resolve (.parse ".")).toPath =
        .ok (.directory .all (tower (repeatedLetter 250) 17)) := by
      rw [resolve_deepProject, locate_deepProject]
    rcases findListed_accounts (.standard false) .stored rfl located distinct with
      ⟨_, -, -, free⟩ | ⟨_, _, _, _, -, -, failure⟩
    · have barrier := free _ _ _ comes
      rw [resolve_deepProject] at barrier
      cases barrier.symm.trans barrier?_deepSource
    · cases success.symm.trans failure

end Discovery
end DeclarationLint
