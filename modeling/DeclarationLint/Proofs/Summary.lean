import DeclarationLint.Proofs.FirstOccurrences
import DeclarationLint.Proofs.KeyedList
import DeclarationLint.Summary
import Mathlib.Data.List.Induction

/-!
# What a summary counts

The files of a summary are those of its issues, each once, in the order in which they first occur.
Every issue is found with its file, and nowhere else, and counts once for its severity. So how many
files there are depends on which issues share a file, and not on what the files are called.
-/
namespace DeclarationLint

/-- An item put behind those of its key is one more item of all keys together. -/
theorem KeyedList.flatMap_place_perm {κ α : Type} [DecidableEq κ] (key : κ) (item : α)
    (entries : List (κ × List α)) :
    ((place key (fun before => before.getD [] ++ [item]) entries).flatMap Prod.snd).Perm
      (entries.flatMap Prod.snd ++ [item]) := by
  induction entries with
  | nil => exact List.Perm.refl _
  | cons head rest ih =>
    obtain ⟨other, items⟩ := head
    by_cases same : other = key
    · simp only [place, if_pos same, List.flatMap_cons, Option.getD_some, List.append_assoc]
      exact List.perm_append_comm.append_left items
    · simp only [place, if_neg same, List.flatMap_cons, List.append_assoc]
      exact ih.append_left items

namespace Summary

/-- The groups and the numbers of a summary are those of the issues counted so far. -/
structure HasCounted (summary : Summary) (issues : List Issue) : Prop where
  files : summary.byFile.keys = (issues.map Issue.file).eraseDups
  group : ∀ file, (summary.byFile.get? file).getD [] = issues.filter (·.file = file)
  whole : (summary.byFile.entries.flatMap Prod.snd).Perm issues
  number : ∀ severity, summary.numberOf severity = issues.countP (·.severity = severity)

theorem hasCounted_uncounted (issues : List Issue) : (uncounted issues).HasCounted [] where
  files := rfl
  group _ := rfl
  whole := List.Perm.nil
  number severity := by cases severity <;> rfl

theorem HasCounted.count {summary : Summary} {issues : List Issue}
    (counted : summary.HasCounted issues) (issue : Issue) :
    (summary.count issue).HasCounted (issues ++ [issue]) where
  files := by
    rw [List.map_append, List.map_singleton, eraseDups_concat, ← counted.files]
    exact KeyedList.keys_update _ _ _
  group file := by
    have found := KeyedList.get?_update summary.byFile issue.file file
      fun before => before.getD [] ++ [issue]
    rw [Summary.count, found, List.filter_append, ← counted.group]
    by_cases same : issue.file = file
    · simp [same]
    · simp [same]
  whole := (KeyedList.flatMap_place_perm issue.file issue summary.byFile.entries).trans
    (counted.whole.append_right [issue])
  number severity := by
    have found := KeyedList.get?_update summary.bySeverity issue.severity severity
      fun before => before.getD 0 + 1
    have earlier := counted.number severity
    rw [numberOf] at earlier
    rw [numberOf, Summary.count, found, List.countP_append, ← earlier]
    by_cases same : issue.severity = severity
    · simp [same]
    · simp [same]

/-- The summary of some issues has counted them all, whatever they are. -/
theorem hasCounted_ofIssues (issues : List Issue) : (ofIssues issues).HasCounted issues := by
  -- The issues on record are there from the start, so only the counted ones grow.
  have run : ∀ counted : List Issue,
      (counted.foldl Summary.count (uncounted issues)).HasCounted counted := by
    intro counted
    induction counted using List.reverseRecOn with
    | nil => exact hasCounted_uncounted issues
    | append_singleton counted issue ih =>
      rw [List.foldl_append]
      exact ih.count issue
  exact run issues

theorem issues_ofIssues (issues : List Issue) : (ofIssues issues).issues = issues := by
  have run : ∀ summary : Summary, (issues.foldl Summary.count summary).issues = summary.issues := by
    induction issues with
    | nil => exact fun _ => rfl
    | cons issue rest ih => exact fun summary => ih (summary.count issue)
  exact run (uncounted issues)

theorem numberOfIssues_ofIssues (issues : List Issue) :
    (ofIssues issues).numberOfIssues = issues.length := by
  rw [numberOfIssues, issues_ofIssues]

theorem numberOfFiles_ofIssues (issues : List Issue) :
    (ofIssues issues).numberOfFiles = (issues.map Issue.file).eraseDups.length := by
  rw [← (hasCounted_ofIssues issues).files, KeyedList.keys, List.length_map]
  rfl

theorem numberOf_ofIssues (issues : List Issue) (severity : Severity) :
    (ofIssues issues).numberOf severity = (issues.map Issue.severity).count severity := by
  rw [(hasCounted_ofIssues issues).number, List.count, List.countP_map]
  rfl

theorem countP_severity_sum (issues : List Issue) :
    issues.countP (·.severity = .critical) + issues.countP (·.severity = .major) +
        issues.countP (·.severity = .minor) + issues.countP (·.severity = .cosmetic) =
      issues.length := by
  induction issues with
  | nil => rfl
  | cons issue rest ih =>
    simp only [List.countP_cons, List.length_cons]
    cases issue.severity <;> simp <;> omega

/-- The summary parts the issues by their files and counts them by their severities, and no issue
is lost, added or moved in either. -/
structure Partitions (summary : Summary) (issues : List Issue) : Prop where
  files : FirstOccurrences (issues.map Issue.file) summary.byFile.keys
  group : ∀ file ∈ summary.byFile.keys,
    summary.byFile.get? file = some (issues.filter (·.file = file))
  whole : (summary.byFile.entries.flatMap Prod.snd).Perm issues
  numberOfFiles_eq : summary.numberOfFiles = summary.byFile.keys.length
  numberOfIssues_eq : summary.numberOfIssues = issues.length
  numberOfFiles_le : summary.numberOfFiles ≤ summary.numberOfIssues
  number : ∀ severity, summary.numberOf severity = issues.countP (·.severity = severity)
  total : summary.numberOf .critical + summary.numberOf .major + summary.numberOf .minor +
    summary.numberOf .cosmetic = summary.numberOfIssues

theorem partitions_ofIssues (issues : List Issue) : (ofIssues issues).Partitions issues := by
  have counted := hasCounted_ofIssues issues
  have files : FirstOccurrences (issues.map Issue.file) (ofIssues issues).byFile.keys := by
    rw [counted.files]
    exact firstOccurrences_eraseDups _
  have numberOfFiles_eq : (ofIssues issues).numberOfFiles =
      (ofIssues issues).byFile.keys.length := by
    rw [counted.files, numberOfFiles_ofIssues]
  refine ⟨files, ?_, counted.whole, numberOfFiles_eq, numberOfIssues_ofIssues issues, ?_,
    counted.number, ?_⟩
  · intro file member
    obtain ⟨items, found⟩ := Option.isSome_iff_exists.mp ((KeyedList.mem_keys_iff _ _).mp member)
    have group := counted.group file
    rw [found, Option.getD_some] at group
    rw [found, group]
  · rw [numberOfFiles_eq, numberOfIssues_ofIssues]
    simpa using files.length_le
  · rw [counted.number, counted.number, counted.number, counted.number, countP_severity_sum,
      numberOfIssues_ofIssues]

end Summary
end DeclarationLint
