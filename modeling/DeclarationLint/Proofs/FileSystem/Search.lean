import DeclarationLint.FileSystem.Discovery
import DeclarationLint.Proofs.FileSystem.Resolution
import Mathlib.Data.List.Lex
import Mathlib.Data.List.Nodup
import Mathlib.Data.String.Basic

/-!
# Searching directories

A search reads one directory after the other and keeps for later what it meets on the way. It looks
at the entries that a walk down the tree comes to, in some order. If all of them can be looked at,
the search ends with the sources among them; sorting takes the order away, and with it all that the
listings of directories decide. If one of them cannot be looked at, the search fails over such an
entry.
-/
namespace DeclarationLint

namespace Place

theorem isAtMost_iff {first second : Place} : isAtMost first second = true ↔ first ≤ second := by
  rw [isAtMost, Bool.not_eq_true', ← Bool.not_eq_true, List.lex_eq_true_iff_lt]
  exact not_lt

theorem pairwise_mergeSort (places : List Place) :
    (places.mergeSort isAtMost).Pairwise (· ≤ ·) := by
  refine (List.pairwise_mergeSort ?_ ?_ places).imp isAtMost_iff.mp
  · intro first second third
    simpa only [isAtMost_iff] using le_trans
  · intro first second
    simpa only [Bool.or_eq_true, isAtMost_iff] using le_total first second

end Place

namespace Discovery

/-- An entry that a search looks at. -/
structure Sighting where
  place : Place
  /-- What one may do with the directory in which the entry stands. -/
  rights : Rights
  tree : FileTree

namespace Sighting

def barrier? (seen : Sighting) : Option AccessError := Discovery.barrier? seen.rights seen.place

def source? (options : Options) (seen : Sighting) : Option Place :=
  match seen.tree with
  | .file _ _ => if seen.place.toPath.isSource options.headers then some seen.place else none
  | .special _ _ | .directory _ _ | .link _ => none

theorem source?_eq_some_iff {options : Options} {seen : Sighting} {place : Place} :
    seen.source? options = some place ↔
      (∃ readable content, seen.tree = .file readable content) ∧
        place.toPath.isSource options.headers = true ∧ seen.place = place := by
  obtain ⟨other, rights, tree⟩ := seen
  cases tree with
  | special | directory | link => simp [source?]
  | file readable content =>
    simp only [source?, Option.ite_none_right_eq_some, Option.some.injEq]
    constructor
    · rintro ⟨source, rfl⟩
      exact ⟨⟨_, _, rfl⟩, source, rfl⟩
    · rintro ⟨-, source, rfl⟩
      exact ⟨source, rfl⟩

end Sighting

variable (options : Options) {here : Place} {rights : Rights} {entries : List (String × FileTree)}

mutual

/-- What a search looks at below a tree, as a walk down the tree comes to it. -/
def sightingsBelow (options : Options) (here : Place) : FileTree → List Sighting
  | .directory rights entries =>
    if rights.list then sightingsAmong options here rights entries else []
  | .file _ _ => []
  | .special _ _ => []
  | .link _ => []

def sightingsAmong (options : Options) (here : Place) (rights : Rights) :
    List (String × FileTree) → List Sighting
  | [] => []
  | (name, tree) :: rest =>
    ⟨here ++ [name], rights, tree⟩ ::
      ((if name ∈ options.ignored then [] else sightingsBelow options (here ++ [name]) tree) ++
        sightingsAmong options here rights rest)

end

/-- The sighting of an entry itself. -/
def sightingOf (here : Place) (rights : Rights) (entry : String × FileTree) : Sighting :=
  ⟨here ++ [entry.1], rights, entry.2⟩

/-- What comes later, once an entry has been looked at. -/
def sightingsBehind (options : Options) (here : Place) (entry : String × FileTree) :
    List Sighting :=
  if entry.1 ∈ options.ignored then [] else sightingsBelow options (here ++ [entry.1]) entry.2

theorem sightingsAmong_cons (here : Place) (rights : Rights) (entry : String × FileTree)
    (rest : List (String × FileTree)) :
    sightingsAmong options here rights (entry :: rest) =
      sightingOf here rights entry ::
        (sightingsBehind options here entry ++ sightingsAmong options here rights rest) := rfl

theorem sightingsAmong_split (here : Place) (rights : Rights)
    (entries : List (String × FileTree)) :
    (sightingsAmong options here rights entries).Perm
      (entries.map (sightingOf here rights) ++ entries.flatMap (sightingsBehind options here)) := by
  induction entries with
  | nil => simp [sightingsAmong]
  | cons entry rest ih =>
    rw [sightingsAmong_cons, List.map_cons, List.flatMap_cons, List.cons_append]
    refine .cons _ ((ih.append_left _).trans ?_)
    simpa only [List.append_assoc] using List.perm_append_comm.append_right _

theorem sightingsAmong_perm (here : Place) (rights : Rights)
    {entries others : List (String × FileTree)} (same : entries.Perm others) :
    (sightingsAmong options here rights entries).Perm
      (sightingsAmong options here rights others) :=
  (sightingsAmong_split options here rights entries).trans
    (((same.map _).append (same.flatMap_right _)).trans
      (sightingsAmong_split options here rights others).symm)

theorem mem_sightingsAmong_iff {seen : Sighting} :
    seen ∈ sightingsAmong options here rights entries ↔
      ∃ entry ∈ entries,
        seen = sightingOf here rights entry ∨ seen ∈ sightingsBehind options here entry := by
  rw [(sightingsAmong_split options here rights entries).mem_iff, List.mem_append, List.mem_map,
    List.mem_flatMap]
  constructor
  · rintro (⟨entry, member, rfl⟩ | ⟨entry, member, behind⟩)
    · exact ⟨entry, member, .inl rfl⟩
    · exact ⟨entry, member, .inr behind⟩
  · rintro ⟨entry, member, rfl | behind⟩
    · exact .inl ⟨entry, member, rfl⟩
    · exact .inr ⟨entry, member, behind⟩

namespace Search

/-- What is still to be looked at. -/
def sightings (options : Options) (search : Search) : List Sighting :=
  search.pending.flatMap fun next =>
    sightingsBelow options next.place (.directory next.rights next.entries)

/-- What a search makes of what is still to be looked at. It comes to the sources if there is no
barrier before anything, and otherwise fails at a barrier. -/
def Accounts (options : Options) (search : Search) : Except DiscoveryError (List Place) → Prop
  | .ok files =>
    (∀ seen ∈ search.sightings options, seen.barrier? = none) ∧
      files.Perm (search.found ++
        (search.sightings options).filterMap (Sighting.source? options))
  | .error error =>
    ∃ seen ∈ search.sightings options, ∃ barrier, seen.barrier? = some barrier ∧
      error = .inaccessible seen.place.render barrier

theorem sightings_take (search : Search) (entry : String × FileTree) :
    (take options here search entry).sightings options =
      sightingsBehind options here entry ++ search.sightings options := by
  obtain ⟨name, tree⟩ := entry
  cases tree with
  | special | link => simp [take, sightingsBehind, sightingsBelow]
  | file readable content =>
    rw [take]
    split <;> simp [sightings, sightingsBehind, sightingsBelow]
  | directory rights entries =>
    rw [take]
    by_cases ignored : name ∈ options.ignored
    · simp [ignored, sightingsBehind]
    · simp [ignored, sightingsBehind, sightings]

theorem found_take (rights : Rights) (search : Search) (entry : String × FileTree) :
    (take options here search entry).found =
      ((sightingOf here rights entry).source? options).toList ++ search.found := by
  obtain ⟨name, tree⟩ := entry
  cases tree with
  | special | link => rfl
  | directory rights entries =>
    rw [take]
    split <;> rfl
  | file readable content =>
    have named : (Place.toPath (here ++ [name])).isSource options.headers =
        isSourceName options.headers name := by
      simp [Path.isSource, Place.toPath]
    rw [take, sightingOf, Sighting.source?]
    by_cases source : isSourceName options.headers name = true <;> simp [source, named]

theorem sightings_foldl_take (entries : List (String × FileTree)) (search : Search) :
    ((entries.foldl (take options here) search).sightings options).Perm
      (entries.flatMap (sightingsBehind options here) ++ search.sightings options) := by
  induction entries generalizing search with
  | nil => exact .refl _
  | cons entry rest ih =>
    refine (ih _).trans ?_
    rw [sightings_take, List.flatMap_cons, List.append_assoc]
    simpa only [List.append_assoc] using List.perm_append_comm.append_right _

theorem found_foldl_take (rights : Rights) (entries : List (String × FileTree)) (search : Search) :
    (entries.foldl (take options here) search).found.Perm
      ((entries.map (sightingOf here rights)).filterMap (Sighting.source? options) ++
        search.found) := by
  induction entries generalizing search with
  | nil => exact .refl _
  | cons entry rest ih =>
    refine (ih _).trans ?_
    rw [found_take options rights, List.map_cons, List.filterMap_cons]
    cases (sightingOf here rights entry).source? options with
    | none => exact .refl _
    | some place => exact List.perm_middle

variable {options} {directory : OpenDirectory} {search : Search}

theorem visit_eq (search : Search) (entry : String × FileTree) :
    visit options directory search entry =
      match (sightingOf directory.place directory.rights entry).barrier? with
      | some error => .error (.inaccessible (directory.place ++ [entry.1]).render error)
      | none => .ok (take options directory.place search entry) := rfl

theorem visitAll_eq_ok {after : Search}
    (visited : visitAll options directory entries search = .ok after) :
    (∀ seen ∈ entries.map (sightingOf directory.place directory.rights), seen.barrier? = none) ∧
      after = entries.foldl (take options directory.place) search := by
  induction entries generalizing search with
  | nil => exact ⟨by simp, (Except.ok.inj visited).symm⟩
  | cons entry rest ih =>
    rw [visitAll, List.foldlM_cons, visit_eq] at visited
    cases barrier : (sightingOf directory.place directory.rights entry).barrier? with
    | some error =>
      rw [barrier] at visited
      cases visited
    | none =>
      rw [barrier] at visited
      obtain ⟨free, rfl⟩ := ih visited
      exact ⟨by simpa [barrier] using free, rfl⟩

theorem visitAll_eq_error {error : DiscoveryError}
    (failed : visitAll options directory entries search = .error error) :
    ∃ seen ∈ entries.map (sightingOf directory.place directory.rights), ∃ barrier,
      seen.barrier? = some barrier ∧ error = .inaccessible seen.place.render barrier := by
  induction entries generalizing search with
  | nil => cases failed
  | cons entry rest ih =>
    rw [visitAll, List.foldlM_cons, visit_eq] at failed
    cases barrier : (sightingOf directory.place directory.rights entry).barrier? with
    | some error =>
      rw [barrier] at failed
      exact ⟨_, List.mem_cons_self .., error, barrier, (Except.error.inj failed).symm⟩
    | none =>
      rw [barrier] at failed
      obtain ⟨seen, member, rest⟩ := ih failed
      exact ⟨seen, List.mem_cons_of_mem _ member, rest⟩

/-- A step of a search trades what it looks at for what it finds and keeps for later. -/
theorem Accounts.of_step {before after : Search} {seen : List Sighting}
    {result : Except DiscoveryError (List Place)} (accounts : after.Accounts options result)
    (free : ∀ one ∈ seen, one.barrier? = none)
    (traded : (seen ++ after.sightings options).Perm (before.sightings options))
    (found : after.found.Perm
      (seen.filterMap (Sighting.source? options) ++ before.found)) :
    before.Accounts options result := by
  cases result with
  | error error =>
    obtain ⟨one, member, barrier⟩ := accounts
    exact ⟨one, traded.mem_iff.mp (List.mem_append_right _ member), barrier⟩
  | ok files =>
    obtain ⟨others, files⟩ := accounts
    constructor
    · intro one member
      rcases List.mem_append.mp (traded.mem_iff.mpr member) with now | later
      · exact free one now
      · exact others one later
    · refine files.trans ((found.append_right _).trans ?_)
      have all := traded.filterMap (Sighting.source? options)
      rw [List.filterMap_append] at all
      refine List.Perm.trans ?_ (all.append_left before.found)
      simpa only [List.append_assoc] using List.perm_append_comm.append_right _

/-- In whatever order directories list their entries, a search accounts for what it has to look
at. -/
theorem run_accounts (options : Options) (listing : Listing) (search : Search) :
    search.Accounts options (run listing options search).result := by
  fun_induction run listing options search with
  | case1 found => exact ⟨by simp [sightings], by simp [sightings]⟩
  | case2 next rest found listed error failed =>
    obtain ⟨seen, member, barrier⟩ := visitAll_eq_error failed
    obtain ⟨entry, inListing, rfl⟩ := List.mem_map.mp member
    refine ⟨_, ?_, barrier⟩
    have inEntries := (listing.perm next.place next.entries).mem_iff.mp inListing
    have among : sightingOf next.place next.rights entry ∈
        sightingsAmong options next.place next.rights next.entries :=
      (mem_sightingsAmong_iff options).mpr ⟨entry, inEntries, .inl rfl⟩
    simp [sightings, sightingsBelow, listed, among]
  | case3 next rest found listed after visited ih =>
    obtain ⟨free, rfl⟩ := visitAll_eq_ok visited
    refine ih.of_step free ?_ (found_foldl_take options next.rights _ _)
    have same := sightingsAmong_perm options next.place next.rights
      (listing.perm next.place next.entries)
    have split := sightingsAmong_split options next.place next.rights
      (listing.order next.place next.entries)
    refine ((sightings_foldl_take options _ _).append_left _).trans ?_
    rw [← List.append_assoc]
    simpa [sightings, sightingsBelow, listed] using
      (split.symm.trans same).append_right (sightings options ⟨rest, found⟩)
  | case4 next rest found unlisted ih =>
    rw [Journal.bind_of_ok rfl]
    have kept : ([] ++ sightings options ⟨rest, found⟩).Perm
        (sightings options ⟨next :: rest, found⟩) := by
      simp [sightings, sightingsBelow, unlisted]
    exact ih.of_step (by simp) kept (by simp)

end Search

end Discovery
end DeclarationLint
