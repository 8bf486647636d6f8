import DeclarationLint.Proofs.FileSystem.Paths

/-!
# Resolved paths

Resolving a path follows names one by one. It leads up at double dots, on from where the target of a
link leads, and otherwise one name down. The place that comes out has ordinary names only, and the
path of a place with no link on the way leads to that place.
-/
namespace DeclarationLint

namespace Text

theorem subset_of_mem_splitOn {separator : Char} {chars piece : List Char}
    (member : piece ∈ chars.splitOn separator) : piece ⊆ chars := by
  induction chars generalizing piece with
  | nil =>
    simp only [List.splitOn_nil, List.mem_singleton] at member
    simp [member]
  | cons c rest ih =>
    rw [List.splitOn_cons_eq_if_modifyHead] at member
    split at member
    · rcases List.mem_cons.mp member with rfl | later
      · simp
      · exact List.subset_cons_of_subset c (ih later)
    · cases pieces : rest.splitOn separator with
      | nil => simp [pieces] at member
      | cons first others =>
        rw [pieces, List.modifyHead_cons] at member
        rcases List.mem_cons.mp member with rfl | later
        · exact List.cons_subset_cons c (ih (by simp [pieces]))
        · exact List.subset_cons_of_subset c (ih (by simp [pieces, later]))

end Text

namespace Path

/-- Names that are ordinary or lead up. -/
def Tidy (path : Path) : Prop := ∀ name ∈ path.names, name = ".." ∨ OrdinaryName name

theorem nul_notMem_parse {text : String} (clean : '\x00' ∉ text.toList) :
    ∀ name ∈ (parse text).names, '\x00' ∉ name.toList := by
  intro name member
  obtain ⟨piece, cut, rfl⟩ := List.mem_map.mp (List.mem_filter.mp member).1
  rw [String.toList_ofList]
  exact fun nul => clean (Text.subset_of_mem_splitOn cut nul)

theorem tidy_parse {text : String} (clean : ∀ name ∈ (parse text).names, '\x00' ∉ name.toList) :
    (parse text).Tidy := by
  intro name member
  by_cases up : name = ".."
  · exact .inl up
  · obtain ⟨inPieces, kept⟩ := List.mem_filter.mp member
    obtain ⟨piece, cut, rfl⟩ := List.mem_map.mp inPieces
    simp only [decide_eq_true_eq] at kept
    refine .inr ⟨kept.1, kept.2, up, ?_, clean _ member⟩
    rw [String.toList_ofList]
    exact Text.not_mem_of_mem_splitOn cut

theorem tidy_nil (anchor : String) : Tidy ⟨anchor, []⟩ :=
  fun _ member => absurd member List.not_mem_nil

theorem Tidy.startFrom {here : Path} (tidy : here.Tidy) (path : Path) :
    (path.startFrom here).Tidy := by
  unfold Path.startFrom
  split
  · exact tidy_nil "/"
  · exact tidy

theorem Tidy.child {path : Path} (tidy : path.Tidy) {name : String}
    (next : name = ".." ∨ OrdinaryName name) : (path.child name).Tidy := by
  intro other member
  rcases List.mem_append.mp member with above | last
  · exact tidy other above
  · exact List.mem_singleton.mp last ▸ next

theorem Tidy.parent {path : Path} (tidy : path.Tidy) : path.parent.Tidy := by
  have shorter : Tidy { path with names := path.names.dropLast } :=
    fun name member => tidy name (List.dropLast_subset _ member)
  unfold Path.parent
  split
  · exact shorter
  · split
    · exact tidy.child (.inl rfl)
    · exact tidy.child (.inl rfl)
    · exact shorter

end Path

namespace Disk

variable {disk : Disk} {here : Path} {name target : String} {rest : List String} {depth : Nat}

theorem follow_link (ordinary : name ≠ "..")
    (linked : disk.lookAt (here.child name) = .ok (.link target)) :
    disk.follow (depth + 1) here (name :: rest) =
      disk.follow (depth + 1)
        (disk.follow depth ((Path.parse target).startFrom here) (Path.parse target).names)
        rest := by
  rw [follow.eq_def]
  simp only [if_neg ordinary, linked]

theorem follow_down (ordinary : name ≠ "..")
    (notLink : ∀ target, disk.lookAt (here.child name) ≠ .ok (.link target)) :
    disk.follow depth here (name :: rest) = disk.follow depth (here.child name) rest := by
  rw [follow, if_neg ordinary]
  intro target inner linked
  exact absurd linked (notLink target)

theorem tidy_follow (named : disk.tree.WellNamed) (tidy : here.Tidy) {names : List String}
    (more : ∀ name ∈ names, name = ".." ∨ OrdinaryName name) :
    (disk.follow depth here names).Tidy := by
  fun_induction Disk.follow disk depth here names with
  | case1 => exact tidy
  | case2 depth here rest ih =>
    exact ih tidy.parent fun name member => more name (List.mem_cons_of_mem _ member)
  | case3 here name rest up target inner linked found ihInside ih =>
    obtain ⟨stop, stands⟩ := FileTree.exists_at?_of_lookUp (lookUp_eq_ok linked).2.2
    have clean : '\x00' ∉ target.toList := (named.at? stands).2
    have inside := ihInside (tidy.startFrom _) (Path.tidy_parse (Path.nul_notMem_parse clean))
    exact ih inside fun name member => more name (List.mem_cons_of_mem _ member)
  | case4 here name rest up depth _ ih =>
    exact ih (tidy.child (more name (List.mem_cons_self ..))) fun name member =>
      more name (List.mem_cons_of_mem _ member)

theorem ordinary_placeOf {path : Path} (tidy : path.Tidy)
    (start : ∀ name ∈ disk.directory, OrdinaryName name) :
    ∀ name ∈ disk.placeOf path, OrdinaryName name := by
  have steps : ∀ (names : List String) (here : Place),
      (∀ name ∈ names, name = ".." ∨ OrdinaryName name) →
      (∀ name ∈ here, OrdinaryName name) →
      ∀ name ∈ names.foldl Place.step here, OrdinaryName name := by
    intro names
    induction names with
    | nil => exact fun here _ ordinary => ordinary
    | cons name rest ih =>
      intro here tidy ordinary
      refine ih _ (fun other member => tidy other (List.mem_cons_of_mem _ member)) ?_
      rw [Place.step]
      split
      · exact fun other member => ordinary other (List.dropLast_subset _ member)
      · rename_i up
        intro other member
        rcases List.mem_append.mp member with above | last
        · exact ordinary other above
        · exact List.mem_singleton.mp last ▸ (tidy name (List.mem_cons_self ..)).resolve_left up
  refine steps path.names _ tidy ?_
  rw [base]
  split
  · simp
  · exact start

/-- A path leads to a place with ordinary names. -/
theorem ordinary_resolve (wellFormed : disk.WellFormed) {text : String}
    (usable : (Path.parse text).defect? = none) :
    ∀ name ∈ disk.resolve (.parse text), OrdinaryName name := by
  obtain ⟨found, stands⟩ := wellFormed.directory
  have start := (wellFormed.named.at? stands).1
  have tidy : (Path.parse text).Tidy := by
    refine Path.tidy_parse fun name member nul => ?_
    rw [Path.defect?] at usable
    simp_all
  exact ordinary_placeOf (tidy_follow wellFormed.named ((Path.tidy_nil "").startFrom _) tidy) start

section Stands

variable {path : Path} {start found : FileTree} {names : List String}

/-- No link is seen where something else stands. -/
theorem lookAt_ne_link (starts : disk.tree.at? (disk.base path) = some start)
    (below : start.at? path.names = some found) (further : path.names ≠ [])
    (ordinary : ∀ name ∈ path.names, OrdinaryName name)
    (notLink : ∀ target, found ≠ .link target) (target : String) :
    disk.lookAt path ≠ .ok (.link target) := by
  intro linked
  have looked := (lookUp_eq_ok linked).2.2
  rw [Path.steps_of_ne_nil further,
    FileTree.lookUp_below starts below ordinary (.inl rfl)] at looked
  split at looked
  · exact notLink target (Except.ok.inj looked)
  · cases looked

theorem follow_of_at? (starts : disk.tree.at? (disk.base here) = some start)
    (below : start.at? (here.names ++ names) = some found)
    (ordinary : ∀ name ∈ here.names ++ names, OrdinaryName name)
    (notLink : ∀ target, found ≠ .link target) :
    disk.follow depth here names = { here with names := here.names ++ names } := by
  induction names generalizing here with
  | nil => rw [follow, List.append_nil]
  | cons name rest ih =>
    have split : here.names ++ name :: rest = (here.child name).names ++ rest :=
      List.append_cons ..
    have plain := ordinary name (by simp)
    rw [split] at below ordinary
    obtain ⟨next, there, above⟩ :
        ∃ next, start.at? (here.child name).names = some next ∧ next.at? rest = some found := by
      rwa [FileTree.at?_append, Option.bind_eq_some_iff] at below
    -- Nothing stands below a link, and at the end there is none.
    have clear : ∀ target, next ≠ .link target := by
      rintro target rfl
      cases rest with
      | nil => exact notLink target (Option.some.inj above).symm
      | cons => cases above
    have starts' : disk.tree.at? (disk.base (here.child name)) = some start := starts
    have notLinked := lookAt_ne_link starts' there (by simp [Path.child])
      (fun name member => ordinary name (by simp [member])) clear
    rw [follow_down plain.ne_dots notLinked, ih starts' below ordinary, split]
    rfl

theorem foldl_step (ordinary : ∀ name ∈ names, OrdinaryName name) (here : Place) :
    names.foldl Place.step here = here ++ names := by
  induction names generalizing here with
  | nil => rw [List.foldl_nil, List.append_nil]
  | cons name rest ih =>
    have plain := ordinary name (List.mem_cons_self ..)
    rw [List.foldl_cons, ih fun other member => ordinary other (List.mem_cons_of_mem _ member),
      Place.step, if_neg plain.ne_dots, List.append_assoc]
    rfl

/-- Following a path starts where the path does. -/
theorem base_startFrom (disk : Disk) (path : Path) :
    disk.base (path.startFrom .current) = disk.base path ∧
      (path.startFrom .current).names = [] := by
  unfold Path.startFrom base
  cases absolute : path.isAbsolute <;> exact ⟨rfl, rfl⟩

/-- The path of something that stands below the directory where the path starts leads there. -/
theorem resolve_of_at? (named : disk.tree.WellNamed)
    (starts : disk.tree.at? (disk.base path) = some start)
    (below : start.at? path.names = some found) (notLink : ∀ target, found ≠ .link target) :
    disk.resolve path = disk.base path ++ path.names := by
  have ordinary := ((named.at? starts).2.at? below).1
  obtain ⟨base, none⟩ := base_startFrom disk path
  rw [resolve, follow_of_at? (base.symm ▸ starts) (by simpa [none] using below)
    (by simpa [none] using ordinary) notLink, placeOf, none, List.nil_append,
    foldl_step ordinary]
  exact congrArg (· ++ path.names) base

end Stands

end Disk
end DeclarationLint
