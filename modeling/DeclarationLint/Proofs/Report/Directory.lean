import DeclarationLint.Proofs.FileSystem.Paths
import DeclarationLint.Proofs.Report.IssueLine
import DeclarationLint.Proofs.Summary

/-!
# Reports and the working directory

A report shows the files below the working directory as seen from there. So it does not tell where
a project lies, unless one works in the top directory: its path ends in the very slash that parts a
directory from what is in it, and files below it are shown as they are. Files elsewhere are shown
as they are in any case, also if their path starts with the same letters.
-/
namespace DeclarationLint.Report.Text

/-- A path that starts at a directory which it does not name. -/
structure RelativePath (path : String) : Prop where
  ne_empty : path ≠ ""
  noSlash : path.toList.head? ≠ some '/'

instance (path : String) : Decidable (RelativePath path) :=
  decidable_of_iff (path ≠ "" ∧ path.toList.head? ≠ some '/')
    ⟨fun ⟨empty, slash⟩ => ⟨empty, slash⟩, fun ⟨empty, slash⟩ => ⟨empty, slash⟩⟩

/-- The path of what is found under another path in a directory. -/
def joined (directory path : String) : String :=
  if path.toList.head? = some '/' then path
  else if directory = "" ∨ directory.toList.getLast? = some '/' then directory ++ path
  else directory ++ "/" ++ path

/-- The same issue in the same file, which is named from outside the directory. -/
structure Moved (directory : String) (inside outside : Issue) : Prop where
  file : outside.file = joined directory inside.file
  same : outside =
    { inside with
      span := ⟨{ inside.span.start with file := outside.file },
        { inside.span.stop with file := outside.span.stop.file }⟩ }

/-- The path leads from the top past the place. -/
def Elsewhere (place : Place) (path : String) : Prop :=
  (Path.parse path).isAbsolute = true ∧ ¬ place <+: (Path.parse path).names

instance (place : Place) (path : String) : Decidable (Elsewhere place path) :=
  inferInstanceAs (Decidable (_ ∧ _))

theorem relativeTo_append (directory path : String) :
    Reporter.relativeTo directory (directory ++ "/" ++ path) = path := by
  have split : (directory ++ "/" ++ path).toList = (directory.toList ++ ['/']) ++ path.toList := by
    simp
  have cut := List.isPrefixOf?_eq_some_iff_append_eq.mpr split.symm
  rw [Reporter.relativeTo, cut]
  exact String.ofList_toList

theorem relativeTo_eq_self {directory path : String}
    (noPrefix : ¬ directory.toList ++ ['/'] <+: path.toList) :
    Reporter.relativeTo directory path = path := by
  unfold Reporter.relativeTo
  split
  · rename_i rest cut
    exact absurd ⟨rest, List.isPrefixOf?_eq_some_iff_append_eq.mp cut⟩ noPrefix
  · rfl

variable {place : Place}

/-- No name of a place is empty, so only the path of the top ends in a slash. -/
theorem getLast?_render_ne (ordinary : ∀ name ∈ place, OrdinaryName name) (deep : place ≠ []) :
    place.render.toList.getLast? ≠ some '/' := by
  intro last
  obtain ⟨front, split⟩ := List.getLast?_eq_some_iff.mp last
  have cut := DeclarationLint.Text.pieces_intercalate (show "/".toList = ['/'] from rfl)
    (fun name member => (ordinary name member).slash_notMem) deep
  have empty : "" ∈ DeclarationLint.Text.pieces '/' ("/".intercalate place) := by
    rw [Place.toList_render] at split
    cases front with
    | nil =>
      have none : ("/".intercalate place).toList = [] := (List.cons.inj split).2
      simp [DeclarationLint.Text.pieces, none]
    | cons slash front =>
      have ends : "/".intercalate place = String.ofList (front ++ '/' :: []) := by
        apply String.toList_injective
        rw [String.toList_ofList]
        exact (List.cons.inj split).2
      rw [ends, DeclarationLint.Text.pieces_append]
      simp [DeclarationLint.Text.pieces]
  rw [cut] at empty
  exact (ordinary "" empty).ne_empty rfl

theorem joined_of_ne_nil (ordinary : ∀ name ∈ place, OrdinaryName name) (deep : place ≠ [])
    {path : String} (relative : RelativePath path) :
    joined place.render path = place.render ++ "/" ++ path := by
  have shown : place.render ≠ "" := by
    intro empty
    have chars := Place.toList_render place
    rw [empty] at chars
    cases chars
  rw [joined, if_neg relative.noSlash, if_neg]
  rw [not_or]
  exact ⟨shown, getLast?_render_ne ordinary deep⟩

theorem joined_top {path : String} (relative : RelativePath path) :
    joined (Place.render []) path = "/" ++ path := by
  have slash : (Place.render []).toList.getLast? = some '/' := rfl
  rw [joined, if_neg relative.noSlash, if_pos (Or.inr slash)]
  rfl

theorem relativeTo_of_relative {path : String} (relative : RelativePath path) :
    Reporter.relativeTo place.render path = path := by
  apply relativeTo_eq_self
  intro shared
  obtain ⟨rest, split⟩ := shared
  rw [Place.toList_render] at split
  have slash : path.toList.head? = some '/' := by
    rw [← split]
    rfl
  exact relative.noSlash slash

/-- In the top directory a file below it keeps the slash in front of its path. -/
theorem relativeTo_top {path : String} (relative : RelativePath path) :
    Reporter.relativeTo (Place.render []) ("/" ++ path) = "/" ++ path := by
  apply relativeTo_eq_self
  intro shared
  obtain ⟨rest, split⟩ := shared
  rw [String.toList_append] at split
  have tail : '/' :: rest = path.toList := (List.cons.inj split).2
  exact relative.noSlash (by rw [← tail]; rfl)

theorem relativeTo_of_elsewhere (ordinary : ∀ name ∈ place, OrdinaryName name) {path : String}
    (elsewhere : Elsewhere place path) : Reporter.relativeTo place.render path = path := by
  apply relativeTo_eq_self
  intro shared
  obtain ⟨lower, split⟩ := shared
  rw [List.append_assoc] at split
  rw [Elsewhere, Place.names_parse_below ordinary split.symm] at elsewhere
  exact elsewhere.2 (List.prefix_append _ _)

theorem relativeTo_self (directory : String) :
    Reporter.relativeTo directory directory = directory := by
  apply relativeTo_eq_self
  intro shared
  have longer := shared.length_le
  rw [List.length_append, List.length_singleton] at longer
  omega

/-- The line of an issue holds nothing of it but what is printed. -/
theorem issueLine_congr {first second : String} {issue other : Issue}
    (same : printed first issue = printed second other) :
    issueLine first issue = issueLine second other := by
  obtain ⟨file, line, column, stopLine, stopColumn, severity, rule, description⟩ :=
    PrintedIssue.mk.inj same
  apply String.toList_injective
  rw [toList_issueLine, toList_issueLine, same, line, column, stopLine, stopColumn, severity, rule,
    description]

/-- Of the files a summary tells no more than how many there are. -/
theorem summaryText_congr {issues others : List Issue} (files : Int)
    (severities : issues.map Issue.severity = others.map Issue.severity)
    (affected : (Summary.ofIssues issues).numberOfFiles = (Summary.ofIssues others).numberOfFiles) :
    summaryText files (.ofIssues issues) = summaryText files (.ofIssues others) := by
  have number : (Summary.ofIssues issues).numberOfIssues =
      (Summary.ofIssues others).numberOfIssues := by
    have lengths := congrArg List.length severities
    rw [List.length_map, List.length_map] at lengths
    rw [Summary.numberOfIssues_ofIssues, Summary.numberOfIssues_ofIssues, lengths]
  have counts : (Summary.ofIssues issues).severityCounts =
      (Summary.ofIssues others).severityCounts := by
    unfold Summary.severityCounts
    simp only [Summary.numberOf_ofIssues, severities]
  unfold summaryText summaryLines
  rw [number, counts, affected]

theorem render_congr {directory : String} {issues others : List Issue} {files : Int}
    (lines : issues.map (issueLine directory) = others.map (issueLine directory))
    (summary : summaryText files (.ofIssues issues) = summaryText files (.ofIssues others)) :
    (reporter directory).render issues files = (reporter directory).render others files := by
  have shown : (reporter directory).issues issues = (reporter directory).issues others :=
    congrArg "\n".intercalate lines
  have told : (reporter directory).summary files (.ofIssues issues) =
      (reporter directory).summary files (.ofIssues others) := summary
  rw [Reporter.render, Reporter.render, shown, told]

section Moved

variable {directory : String} {inside outside : List Issue}

theorem map_file_of_moved (moved : List.Forall₂ (Moved directory) inside outside) :
    outside.map Issue.file = (inside.map Issue.file).map (joined directory) := by
  induction moved with
  | nil => rfl
  | cons first _ ih => rw [List.map_cons, List.map_cons, List.map_cons, first.file, ih]

theorem map_severity_of_moved (moved : List.Forall₂ (Moved directory) inside outside) :
    outside.map Issue.severity = inside.map Issue.severity := by
  induction moved with
  | nil => rfl
  | cons first _ ih => rw [List.map_cons, List.map_cons, first.same, ih]

/-- Lines agree if the files are shown alike. -/
theorem map_issueLine_of_moved (moved : List.Forall₂ (Moved directory) inside outside)
    (shown : ∀ issue ∈ inside, Reporter.relativeTo directory (joined directory issue.file) =
      Reporter.relativeTo directory issue.file) :
    outside.map (issueLine directory) = inside.map (issueLine directory) := by
  induction moved with
  | nil => rfl
  | @cons issue other _ _ first _ ih =>
    have printedAlike : printed directory other = printed directory issue := by
      have file := shown issue (by simp)
      rw [← first.file] at file
      unfold printed
      rw [file, first.same]
    rw [List.map_cons, List.map_cons, issueLine_congr printedAlike,
      ih fun later member => shown later (by simp [member])]

end Moved

theorem numberOfFiles_of_moved (ordinary : ∀ name ∈ place, OrdinaryName name) (deep : place ≠ [])
    {inside outside : List Issue} (moved : List.Forall₂ (Moved place.render) inside outside)
    (relative : ∀ issue ∈ inside, RelativePath issue.file) :
    (Summary.ofIssues outside).numberOfFiles = (Summary.ofIssues inside).numberOfFiles := by
  rw [Summary.numberOfFiles_ofIssues, Summary.numberOfFiles_ofIssues, map_file_of_moved moved,
    eraseDups_map, List.length_map]
  intro first member second otherMember same
  obtain ⟨issue, inInside, rfl⟩ := List.mem_map.mp member
  obtain ⟨other, alsoInside, rfl⟩ := List.mem_map.mp otherMember
  rw [joined_of_ne_nil ordinary deep (relative issue inInside),
    joined_of_ne_nil ordinary deep (relative other alsoInside)] at same
  have told := congrArg (Reporter.relativeTo place.render) same
  rwa [relativeTo_append, relativeTo_append] at told

/-- A report of some issues starts with the title, and goes on with the line of the first one. -/
theorem exists_toList_render (directory : String) (issue : Issue) (rest : List Issue)
    (files : Int) :
    ∃ others, ((reporter directory).render (issue :: rest) files).toList =
      Reporter.title.toList ++ '\n' :: ((issueLine directory issue).toList ++ others) := by
  let text := "\n".intercalate ((issue :: rest).map (issueLine directory))
  have lines : text.toList = (issueLine directory issue).toList ++ _ :=
    DeclarationLint.Text.toList_intercalate_cons "\n" _ _
  have shown : text ≠ "" := by
    intro empty
    rw [empty] at lines
    have none := (List.append_eq_nil_iff.mp lines.symm).1
    exact issueLine_ne_empty directory issue (String.toList_injective none)
  have parts : [Reporter.title, text, summaryText files (.ofIssues (issue :: rest)), ""].filter
      (· ≠ "") = Reporter.title :: text ::
        [summaryText files (.ofIssues (issue :: rest)), ""].filter (· ≠ "") := by
    rw [List.filter_cons_of_pos (by decide), List.filter_cons_of_pos (by simpa using shown)]
  change ∃ others, ("\n".intercalate (List.filter _ [Reporter.title, text,
    summaryText files (.ofIssues (issue :: rest)), ""])).toList = _
  rw [parts, DeclarationLint.Text.toList_intercalate_cons, List.flatMap_cons, lines]
  exact ⟨_, by simp only [List.append_assoc]; rfl⟩

theorem render_top_ne {inside outside : List Issue} {files : Int}
    (moved : List.Forall₂ (Moved (Place.render [])) inside outside)
    (relative : ∀ issue ∈ inside, RelativePath issue.file) (some : inside ≠ []) :
    (reporter (Place.render [])).render outside files ≠
      (reporter (Place.render [])).render inside files := by
  intro same
  cases moved with
  | nil => exact some rfl
  | @cons issue other rest others first _ =>
    have told := relative issue (by simp)
    obtain ⟨back, text⟩ := exists_toList_render (Place.render []) issue rest files
    obtain ⟨otherBack, otherText⟩ := exists_toList_render (Place.render []) other others files
    rw [same, text, toList_issueLine, toList_issueLine] at otherText
    have lines := (List.cons.inj (List.append_cancel_left otherText)).2
    have heads := congrArg List.head? lines
    have file : (printed (Place.render []) issue).file = issue.file := relativeTo_of_relative told
    have otherFile : (printed (Place.render []) other).file = "/" ++ issue.file := by
      rw [printed, first.file, joined_top told, relativeTo_top told]
    rw [file, otherFile] at heads
    cases chars : issue.file.toList with
    | nil => exact told.ne_empty (String.toList_injective chars)
    | cons c _ =>
      have slash : c = '/' := by simpa [chars] using heads
      exact told.noSlash (by rw [chars, slash]; rfl)

/-- The report made in a directory other than the top does not tell how the files below it are
named, from the directory or from outside; made in the top directory it does unless there are no
issues. Files elsewhere, and the directory itself, are shown as they are named. -/
theorem report_in_directory (ordinary : ∀ name ∈ place, OrdinaryName name) :
    (∀ inside outside : List Issue, List.Forall₂ (Moved place.render) inside outside →
      (∀ issue ∈ inside, RelativePath issue.file) → ∀ files : Int,
        ((reporter place.render).render outside files =
            (reporter place.render).render inside files ↔
          place ≠ [] ∨ inside = [])) ∧
      ∀ issue : Issue, Elsewhere place issue.file ∨ issue.file = place.render →
        (printed place.render issue).file = issue.file ∧
          (issue.file ++ ":").toList <+: (issueLine place.render issue).toList := by
  constructor
  · intro inside outside moved relative files
    by_cases top : place = []
    · subst top
      simp only [ne_eq, not_true_eq_false, false_or]
      constructor
      · intro same
        by_contra some
        exact render_top_ne moved relative some same
      · intro none
        subst none
        cases moved
        rfl
    · simp only [ne_eq, top, not_false_eq_true, true_or, iff_true]
      apply render_congr
      · apply map_issueLine_of_moved moved
        intro issue member
        rw [joined_of_ne_nil ordinary top (relative issue member), relativeTo_append,
          relativeTo_of_relative (relative issue member)]
      · exact summaryText_congr files (map_severity_of_moved moved)
          (numberOfFiles_of_moved ordinary top moved relative)
  · intro issue away
    have unchanged : (printed place.render issue).file = issue.file := by
      rcases away with elsewhere | itself
      · exact relativeTo_of_elsewhere ordinary elsewhere
      · rw [printed, itself]
        exact relativeTo_self place.render
    refine ⟨unchanged, ?_⟩
    rw [toList_issueLine, unchanged, String.toList_append, List.append_cons _ ':']
    exact List.prefix_append _ _

/-- An issue in a file, and with its end in another one. -/
def issueIn (file stopFile : String) : Issue :=
  ⟨"high_ncss", "Method of 31 NCSS exceeds limit of 30", .readability, .major,
    ⟨⟨file, 4, 1⟩, ⟨stopFile, 40, 2⟩⟩, none⟩

theorem report_in_directory_home :
    (∀ name ∈ ["home", "u"], OrdinaryName name) ∧
      List.Forall₂ (Moved (Place.render ["home", "u"]))
        [issueIn "a.c" "a.c", issueIn "home/u/b.c" "x", issueIn "a.c" "a.c"]
        [issueIn "/home/u/a.c" "/home/u/a.c", issueIn "/home/u/home/u/b.c" "y",
          issueIn "/home/u/a.c" "a.c"] ∧
      (reporter "/home/u").render [issueIn "/home/u/a.c" "/home/u/a.c",
          issueIn "/home/u/home/u/b.c" "y", issueIn "/home/u/a.c" "a.c"] 2 =
        (reporter "/home/u").render
          [issueIn "a.c" "a.c", issueIn "home/u/b.c" "x", issueIn "a.c" "a.c"] 2 ∧
      Elsewhere ["home", "u"] "/home/u2/a.c" ∧
      (printed "/home/u" (issueIn "/home/u2/a.c" "")).file = "/home/u2/a.c" := by
  have ordinary : ∀ name ∈ ["home", "u"], OrdinaryName name := by decide
  have moved : List.Forall₂ (Moved (Place.render ["home", "u"]))
      [issueIn "a.c" "a.c", issueIn "home/u/b.c" "x", issueIn "a.c" "a.c"]
      [issueIn "/home/u/a.c" "/home/u/a.c", issueIn "/home/u/home/u/b.c" "y",
        issueIn "/home/u/a.c" "a.c"] :=
    .cons ⟨rfl, rfl⟩ (.cons ⟨rfl, rfl⟩ (.cons ⟨rfl, rfl⟩ .nil))
  have elsewhere : Elsewhere ["home", "u"] "/home/u2/a.c" := by decide
  obtain ⟨below, away⟩ := report_in_directory ordinary
  have same := (below _ _ moved (by decide) 2).mpr (Or.inl (by decide))
  exact ⟨ordinary, moved, same, elsewhere,
    (away (issueIn "/home/u2/a.c" "") (Or.inl elsewhere)).1⟩

/-- In the top directory a file below it is shown with a slash if it is named with one. -/
theorem report_in_top_keeps_slash :
    RelativePath "src/a.c" ∧ joined (Place.render []) "src/a.c" = "/src/a.c" ∧
      Moved (Place.render []) (issueIn "src/a.c" "src/a.c") (issueIn "/src/a.c" "/src/a.c") ∧
      (printed (Place.render []) (issueIn "/src/a.c" "/src/a.c")).file = "/src/a.c" ∧
      (reporter (Place.render [])).render [issueIn "/src/a.c" "/src/a.c"] 1 ≠
        (reporter (Place.render [])).render [issueIn "src/a.c" "src/a.c"] 1 := by
  refine ⟨by decide, by decide, ⟨by decide, rfl⟩, by decide, by decide⟩

end DeclarationLint.Report.Text
