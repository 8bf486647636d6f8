import DeclarationLint.FileSystem
import DeclarationLint.Proofs.KeyedList
import DeclarationLint.Proofs.Text.Pieces

/-!
# Places in a file system

What stands below a place is told from what stands at it: no link is on the way, since nothing
stands below a link. Looking something up goes on from where the first names lead, and below a
directory it succeeds exactly if all directories on the way may be searched. Different places have
different paths, as long as the entries of directories have the names that entries can have.
-/
namespace DeclarationLint

/-- A name that the entry of a directory can have. -/
structure OrdinaryName (name : String) : Prop where
  ne_empty : name ≠ ""
  ne_dot : name ≠ "."
  ne_dots : name ≠ ".."
  slash_notMem : '/' ∉ name.toList
  nul_notMem : '\x00' ∉ name.toList

instance (name : String) : Decidable (OrdinaryName name) :=
  decidable_of_iff (name ≠ "" ∧ name ≠ "." ∧ name ≠ ".." ∧ '/' ∉ name.toList ∧
      '\x00' ∉ name.toList)
    ⟨fun ⟨empty, dot, dots, slash, nul⟩ => ⟨empty, dot, dots, slash, nul⟩,
      fun ⟨empty, dot, dots, slash, nul⟩ => ⟨empty, dot, dots, slash, nul⟩⟩

namespace FileTree

mutual

/-- All entries of all directories have names that entries can have, and links have targets that
can be targets. -/
def WellNamed : FileTree → Prop
  | file _ _ => True
  | special _ _ => True
  | link target => '\x00' ∉ target.toList
  | directory _ entries => WellNamedAmong entries

def WellNamedAmong : List (String × FileTree) → Prop
  | [] => True
  | (name, tree) :: rest => OrdinaryName name ∧ tree.WellNamed ∧ WellNamedAmong rest

end

mutual

/-- No directory has two entries of one name. -/
def DistinctNames : FileTree → Prop
  | file _ _ => True
  | special _ _ => True
  | link _ => True
  | directory _ entries => DistinctNamesAmong entries

def DistinctNamesAmong : List (String × FileTree) → Prop
  | [] => True
  | (name, tree) :: rest =>
    name ∉ rest.map Prod.fst ∧ tree.DistinctNames ∧ DistinctNamesAmong rest

end

variable {tree found entry : FileTree} {entries : List (String × FileTree)} {name : String}
  {here lower : Place}

theorem WellNamedAmong.of_mem (named : WellNamedAmong entries) (member : (name, found) ∈ entries) :
    OrdinaryName name ∧ found.WellNamed := by
  induction entries with
  | nil => cases member
  | cons entry rest ih =>
    obtain ⟨other, first⟩ := entry
    obtain ⟨ordinary, below, others⟩ := named
    rcases List.mem_cons.mp member with same | later
    · obtain ⟨rfl, rfl⟩ := Prod.mk.inj same
      exact ⟨ordinary, below⟩
    · exact ih others later

theorem DistinctNamesAmong.of_mem (distinct : DistinctNamesAmong entries)
    (member : (name, found) ∈ entries) :
    entries.lookup name = some found ∧ found.DistinctNames := by
  induction entries with
  | nil => cases member
  | cons entry rest ih =>
    obtain ⟨other, first⟩ := entry
    obtain ⟨fresh, below, others⟩ := distinct
    rcases List.mem_cons.mp member with same | later
    · obtain ⟨rfl, rfl⟩ := Prod.mk.inj same
      exact ⟨List.lookup_cons_self, below⟩
    · have apart : name ≠ other := by
        rintro rfl
        exact fresh (List.mem_map_of_mem later)
      rw [List.lookup_cons, beq_eq_false_iff_ne.mpr apart]
      exact ih others later

/-- The first name on the way to something is that of an entry. -/
theorem exists_entry_of_at? {rest : List String} (there : tree.at? (name :: rest) = some found) :
    ∃ rights entries next, tree = .directory rights entries ∧ entries.lookup name = some next ∧
      next.at? rest = some found := by
  cases tree with
  | file | special | link => cases there
  | directory rights entries =>
    rw [FileTree.at?, Option.bind_eq_some_iff] at there
    obtain ⟨next, first, there⟩ := there
    exact ⟨rights, entries, next, rfl, first, there⟩

/-- Where something stands in a well-named tree, all names on the way are ordinary. -/
theorem WellNamed.at? (named : tree.WellNamed) (there : tree.at? here = some found) :
    (∀ name ∈ here, OrdinaryName name) ∧ found.WellNamed := by
  induction here generalizing tree with
  | nil =>
    rw [FileTree.at?] at there
    obtain rfl := Option.some.inj there
    exact ⟨by simp, named⟩
  | cons name rest ih =>
    obtain ⟨rights, entries, inner, rfl, first, there⟩ := exists_entry_of_at? there
    obtain ⟨ordinary, below⟩ := WellNamedAmong.of_mem named (mem_of_lookup first)
    obtain ⟨others, last⟩ := ih below there
    refine ⟨?_, last⟩
    intro other inPlace
    cases List.mem_cons.mp inPlace with
    | inl same => exact same ▸ ordinary
    | inr later => exact others other later

theorem DistinctNames.at? (distinct : tree.DistinctNames) (there : tree.at? here = some found) :
    found.DistinctNames := by
  induction here generalizing tree with
  | nil =>
    rw [FileTree.at?] at there
    exact Option.some.inj there ▸ distinct
  | cons name rest ih =>
    obtain ⟨rights, entries, inner, rfl, first, there⟩ := exists_entry_of_at? there
    exact ih (DistinctNamesAmong.of_mem distinct (mem_of_lookup first)).2 there

theorem at?_append (tree : FileTree) (upper lower : Place) :
    tree.at? (upper ++ lower) = (tree.at? upper).bind (·.at? lower) := by
  induction upper generalizing tree with
  | nil => rfl
  | cons name rest ih =>
    cases tree with
    | file | special | link => rfl
    | directory rights entries =>
      rw [List.cons_append, FileTree.at?, FileTree.at?, Option.bind_assoc]
      simp only [ih]

section Steps

variable {rights : Rights} {follows : Bool} {links : Nat} {rest : List String}
  (above : tree.at? here = some (.directory rights entries))

include above

theorem lookUp_of_closed (closed : rights.search = false) :
    tree.lookUp follows links here (name :: rest) = .error .denied := by
  unfold lookUp
  simp only [above, if_pos closed]

variable (searchable : ¬ rights.search = false)

include searchable

theorem lookUp_up :
    tree.lookUp follows links here (".." :: rest) =
      tree.lookUp follows links here.dropLast rest := by
  rw [lookUp.eq_def]
  simp only [above, if_neg searchable, if_pos]

theorem lookUp_stay :
    tree.lookUp follows links here ("." :: rest) = tree.lookUp follows links here rest := by
  have up : ¬ "." = ".." := by decide
  rw [lookUp.eq_def]
  simp only [above, if_neg searchable, if_neg up, if_pos]

theorem lookUp_link {target : String} (up : name ≠ "..") (stays : name ≠ ".")
    (linked : tree.at? (here ++ [name]) = some (.link target))
    (followed : ¬ (rest = [] ∧ follows = false)) :
    tree.lookUp follows (links + 1) here (name :: rest) =
      tree.lookUp follows links (startOf target here) (stepsOf target ++ rest) := by
  rw [lookUp.eq_def]
  simp only [above, if_neg searchable, if_neg up, if_neg stays, linked, if_neg followed]

theorem lookUp_last {target : String} (up : name ≠ "..") (stays : name ≠ ".")
    (linked : tree.at? (here ++ [name]) = some (.link target)) :
    tree.lookUp false links here [name] = .ok (.link target) := by
  rw [lookUp.eq_def]
  simp only [above, if_neg searchable, if_neg up, if_neg stays, linked, and_self, if_pos]

theorem lookUp_down (up : name ≠ "..") (stays : name ≠ ".")
    (next : tree.at? (here ++ [name]) = some found) (notLink : ∀ target, found ≠ .link target) :
    tree.lookUp follows links here (name :: rest) =
      tree.lookUp follows links (here ++ [name]) rest := by
  rw [lookUp.eq_def]
  simp only [above, if_neg searchable, if_neg up, if_neg stays, next]

end Steps

/-- What is looked up stands somewhere. -/
theorem exists_at?_of_lookUp {follows : Bool} {links : Nat} {names : List String}
    (located : tree.lookUp follows links here names = .ok found) :
    ∃ stop, tree.at? stop = some found := by
  fun_induction FileTree.lookUp tree follows links here names with
  | case1 links here standing there => exact ⟨here, Except.ok.inj located ▸ there⟩
  | case4 links here rest rights entries above searchable ih => exact ih located
  | case5 links here rest rights entries above searchable up ih => exact ih located
  | case7 here name rest rights entries above searchable up stays target links linked =>
    exact ⟨here ++ [name], Except.ok.inj located ▸ linked⟩
  | case9 here name rest rights entries above searchable up stays target linked followed fewer ih =>
    exact ih located
  | case10 here name rest rights entries above searchable up stays next links notLink there ih =>
    exact ih located
  | _ => cases located

/-- What is looked up beyond a place that can be located is looked up from there. -/
theorem exists_stop_of_lookUp {links : Nat} {first : List String}
    (located : tree.lookUp true links here first = .ok found) :
    ∃ stop left, tree.at? stop = some found ∧ ∀ follows rest, rest ≠ [] →
      tree.lookUp follows links here (first ++ rest) = tree.lookUp follows left stop rest := by
  fun_induction FileTree.lookUp tree true links here first with
  | case1 links here standing there =>
    obtain rfl := Except.ok.inj located
    exact ⟨here, links, there, fun _ _ _ => rfl⟩
  | case4 links here names rights entries above searchable ih =>
    obtain ⟨stop, left, there, further⟩ := ih located
    refine ⟨stop, left, there, fun follows rest more => ?_⟩
    rw [List.cons_append, lookUp_up above searchable, further follows rest more]
  | case5 links here names rights entries above searchable _ ih =>
    obtain ⟨stop, left, there, further⟩ := ih located
    refine ⟨stop, left, there, fun follows rest more => ?_⟩
    rw [List.cons_append, lookUp_stay above searchable, further follows rest more]
  | case7 here name names rights entries above searchable up stays target links linked ends =>
    cases ends.2
  | case9 here name names rights entries above searchable up stays target linked _ fewer ih =>
    obtain ⟨stop, left, there, further⟩ := ih located
    refine ⟨stop, left, there, fun follows rest more => ?_⟩
    have followed : ¬ (names ++ rest = [] ∧ follows = false) := by simp [more]
    rw [List.cons_append, lookUp_link above searchable up stays linked followed,
      ← List.append_assoc, further follows rest more]
  | case10 here name names rights entries above searchable up stays next links notLink below ih =>
    obtain ⟨stop, left, there, further⟩ := ih located
    refine ⟨stop, left, there, fun follows rest more => ?_⟩
    rw [List.cons_append, lookUp_down above searchable up stays below notLink,
      further follows rest more]
  | _ => cases located

/-- Whether all directories on the way may be searched. -/
def isOpen : FileTree → List String → Bool
  | directory rights entries, name :: rest =>
    rights.search && ((entries.lookup name).all (·.isOpen rest))
  | _, _ => true

/-- What stands below a place can be looked up from there if and only if all directories on the way
may be searched. -/
theorem lookUp_below {follows : Bool} {links : Nat} (there : tree.at? here = some found)
    (below : found.at? lower = some entry) (ordinary : ∀ name ∈ lower, OrdinaryName name)
    (final : follows = false ∨ ∀ target, entry ≠ .link target) :
    tree.lookUp follows links here lower =
      if found.isOpen lower then .ok entry else .error .denied := by
  induction lower generalizing here found with
  | nil =>
    obtain rfl := Option.some.inj below
    simp [lookUp, there, isOpen]
  | cons name rest ih =>
    obtain ⟨rights, entries, next, rfl, first, below⟩ := exists_entry_of_at? below
    have plain := ordinary name (List.mem_cons_self ..)
    have down : tree.at? (here ++ [name]) = some next := by
      simp [at?_append, there, FileTree.at?, first]
    rw [isOpen, first]
    by_cases searchable : rights.search = false
    · rw [lookUp_of_closed there searchable, searchable]
      rfl
    · have others := ih down below fun other member =>
        ordinary other (List.mem_cons_of_mem _ member)
      rw [Bool.not_eq_false] at searchable
      simp only [searchable, Bool.true_and, Option.all_some]
      cases next with
      | link target =>
        cases rest with
        | cons => cases below
        | nil =>
          obtain rfl := Option.some.inj below
          obtain rfl := final.resolve_right fun other => other target rfl
          exact lookUp_last there (by simp [searchable]) plain.ne_dots plain.ne_dot down
      | file | special | directory =>
        rw [lookUp_down there (by simp [searchable]) plain.ne_dots plain.ne_dot down (by simp)]
        exact others

end FileTree

namespace Path

theorem steps_of_ne_nil {path : Path} (more : path.names ≠ []) : path.steps = path.names :=
  if_pos (.inr more)

end Path

namespace Place

theorem render_toPath_injective {first second : Place}
    (ordinary : ∀ name ∈ first, OrdinaryName name)
    (otherOrdinary : ∀ name ∈ second, OrdinaryName name)
    (same : first.toPath.render = second.toPath.render) : first = second := by
  -- The empty text has one piece, which is empty, and no ordinary name is.
  have read : ∀ place : Place, (∀ name ∈ place, OrdinaryName name) →
      place = (Text.pieces '/' ("/".intercalate place)).filter (· ≠ "") := by
    intro place ordinary
    by_cases none : place = []
    · subst none
      rfl
    · rw [Text.pieces_intercalate rfl (fun name member => (ordinary name member).slash_notMem)
        none, eq_comm, List.filter_eq_self]
      intro name member
      simpa using (ordinary name member).ne_empty
  have joined : "/".intercalate first = "/".intercalate second := by
    simpa [Path.render, toPath] using same
  rw [read first ordinary, joined, ← read second otherOrdinary]

theorem defect?_toPath_eq_none_iff {place : Place} :
    place.toPath.defect? = none ↔ ∀ name ∈ place, '\x00' ∉ name.toList := by
  rw [Path.defect?]
  simp [toPath]

theorem defect?_toPath {place : Place} (ordinary : ∀ name ∈ place, OrdinaryName name) :
    place.toPath.defect? = none :=
  defect?_toPath_eq_none_iff.mpr fun name member => (ordinary name member).nul_notMem

end Place

namespace Disk

/-- What holds of every file system in which one works. -/
structure WellFormed (disk : Disk) : Prop where
  named : disk.tree.WellNamed
  distinct : disk.tree.DistinctNames
  directory : ∃ found, disk.tree.at? disk.directory = some found

variable {disk : Disk} {path : Path} {follows : Bool}

theorem lookUp_of_short (usable : path.defect? = none)
    (short : path.render.utf8ByteSize ≤ longestPath) :
    disk.lookUp follows path =
      disk.tree.lookUp follows FileTree.mostLinks (disk.base path) path.steps := by
  rw [lookUp, usable]
  exact if_neg (by omega)

theorem lookUp_of_long (usable : path.defect? = none)
    (long : longestPath < path.render.utf8ByteSize) :
    disk.lookUp follows path = .error .nameTooLong := by
  rw [lookUp, usable]
  exact if_pos long

/-- A lookup that succeeds is one of a path that is short enough. -/
theorem lookUp_eq_ok {found : FileTree} (located : disk.lookUp follows path = .ok found) :
    path.defect? = none ∧ path.render.utf8ByteSize ≤ longestPath ∧
      disk.tree.lookUp follows FileTree.mostLinks (disk.base path) path.steps = .ok found := by
  cases usable : path.defect? with
  | some defect =>
    rw [lookUp, usable] at located
    cases located
  | none =>
    by_cases long : longestPath < path.render.utf8ByteSize
    · rw [lookUp_of_long usable long] at located
      cases located
    · rw [lookUp_of_short usable (by omega)] at located
      exact ⟨rfl, by omega, located⟩

variable {top : Place} {lower : List String} {found entry : FileTree}

/-- What stands below a place that can be located can be looked up if its path is not too long and
all directories on the way from there may be searched. -/
theorem lookUp_below (located : disk.locate top.toPath = .ok found)
    (below : found.at? lower = some entry) (further : lower ≠ [])
    (ordinary : ∀ name ∈ lower, OrdinaryName name)
    (final : follows = false ∨ ∀ target, entry ≠ .link target) :
    disk.lookUp follows (Place.toPath (top ++ lower)) =
      if longestPath < (Place.toPath (top ++ lower)).render.utf8ByteSize then .error .nameTooLong
      else if found.isOpen lower then .ok entry else .error .denied := by
  obtain ⟨usable, -, located⟩ := lookUp_eq_ok located
  have clean : (Place.toPath (top ++ lower)).defect? = none := by
    rw [Place.defect?_toPath_eq_none_iff] at usable ⊢
    intro name member
    rcases List.mem_append.mp member with above | inside
    · exact usable name above
    · exact (ordinary name inside).nul_notMem
  split
  · exact lookUp_of_long clean ‹_›
  · rw [lookUp_of_short clean (by omega)]
    obtain ⟨stop, left, there, onwards⟩ := FileTree.exists_stop_of_lookUp located
    exact (onwards follows lower further).trans
      (FileTree.lookUp_below there below ordinary final)

/-- What can be located stands somewhere. -/
theorem exists_at?_of_locate (located : disk.locate path = .ok found) :
    ∃ stop, disk.tree.at? stop = some found :=
  FileTree.exists_at?_of_lookUp (lookUp_eq_ok located).2.2

/-- What stands below the directory where a path starts is located without any links. -/
theorem locate_of_at? (usable : path.defect? = none)
    (short : path.render.utf8ByteSize ≤ longestPath) (named : disk.tree.WellNamed)
    {start : FileTree} (starts : disk.tree.at? (disk.base path) = some start)
    (below : start.at? path.names = some found) (further : path.names ≠ [])
    (notLink : ∀ target, found ≠ .link target) (searchable : start.isOpen path.names = true) :
    disk.locate path = .ok found := by
  have ordinary := ((named.at? starts).2.at? below).1
  rw [locate, lookUp_of_short usable short, Path.steps_of_ne_nil further,
    FileTree.lookUp_below starts below ordinary (.inr notLink), if_pos searchable]

end Disk
end DeclarationLint
