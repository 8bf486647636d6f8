import DeclarationLint.Proofs.Summary
import DeclarationLint.Proofs.Text.Pieces
import DeclarationLint.Report.Text
import Mathlib.Data.Finset.Card

/-!
# What the text of a summary says

The block of counts at the end of a report is told from the issues alone: how many files they lie
in, and how many there are of each severity. Whoever has no issues is praised, and no one else is.
-/
namespace DeclarationLint.Report.Text

/-- The text says how many files have issues and how many issues each severity has, or that there
are none. -/
structure TellsCounts (files : Int) (issues : List Issue) (text : String) : Prop where
  praises_iff : "Good job!".toList <+: text.toList ↔ issues = []
  ofNone : issues = [] → text = s!"Good job! Inspected {files} files, found no issue."
  ofSome : issues ≠ [] → ∃ noun,
    (noun = "file" ∨ noun = "files") ∧
      (noun = "file" ↔ ∃! file, file ∈ issues.map Issue.file) ∧
      text = "\n".intercalate
        ["Summary:",
          "Within a total number of " ++ toString files ++ " files, " ++
            toString (issues.map Issue.file).toFinset.card ++ " " ++ noun ++ " have issues.",
          "Number of critical issues: " ++ toString (issues.countP (·.severity = .critical)),
          "Number of major issues: " ++ toString (issues.countP (·.severity = .major)),
          "Number of minor issues: " ++ toString (issues.countP (·.severity = .minor)),
          "Number of cosmetic issues: " ++ toString (issues.countP (·.severity = .cosmetic))]

variable {issues : List Issue} {summary : Summary}

theorem numberOfIssues_eq_zero_iff (partitions : summary.Partitions issues) :
    summary.numberOfIssues = 0 ↔ issues = [] := by
  rw [partitions.numberOfIssues_eq, List.length_eq_zero_iff]

theorem numberOfFiles_eq_card (partitions : summary.Partitions issues) :
    summary.numberOfFiles = (issues.map Issue.file).toFinset.card := by
  have same : summary.byFile.keys.toFinset = (issues.map Issue.file).toFinset := by
    ext file
    rw [List.mem_toFinset, List.mem_toFinset, partitions.files.mem_iff]
  rw [partitions.numberOfFiles_eq, ← List.toFinset_card_of_nodup partitions.files.nodup, same]

theorem praise_prefix_cleanSummary (files : Int) :
    "Good job!".toList <+: (cleanSummary files).toList := by
  have front : "Good job! Inspected ".toList = "Good job!".toList ++ " Inspected ".toList := by
    decide
  change _ <+: ("Good job! Inspected " ++ toString files ++ " files, found no issue.").toList
  rw [String.toList_append, String.toList_append, front, List.append_assoc, List.append_assoc]
  exact List.prefix_append _ _

theorem not_praise_prefix_summaryLines (files : Int) (summary : Summary) :
    ¬ "Good job!".toList <+: ("\n".intercalate (summaryLines files summary)).toList := by
  rw [summaryLines, DeclarationLint.Text.toList_intercalate_cons]
  intro praised
  obtain ⟨rest, same⟩ := praised
  cases congrArg List.head? same

/-- A summary that parts the issues well is written out as the issues have it. -/
theorem tellsCounts_summaryText (partitions : summary.Partitions issues) (files : Int) :
    TellsCounts files issues (summaryText files summary) := by
  by_cases none : issues = []
  · have text : summaryText files summary = cleanSummary files :=
      if_pos ((numberOfIssues_eq_zero_iff partitions).mpr none)
    rw [text]
    exact ⟨iff_of_true (praise_prefix_cleanSummary files) none, fun _ => rfl,
      fun some => absurd none some⟩
  · have text : summaryText files summary = "\n".intercalate (summaryLines files summary) :=
      if_neg ((numberOfIssues_eq_zero_iff partitions).not.mpr none)
    rw [text]
    refine ⟨iff_of_false (not_praise_prefix_summaryLines files summary) none,
      fun nothing => absurd nothing none, fun _ => ?_⟩
    refine ⟨if summary.numberOfFiles = 1 then "file" else "files", ?_, ?_, ?_⟩
    · split
      · exact Or.inl rfl
      · exact Or.inr rfl
    · rw [← partitions.files.length_eq_one_iff, ← partitions.numberOfFiles_eq]
      split
      · rename_i single
        exact iff_of_true rfl single
      · rename_i several
        exact iff_of_false (by decide) several
    · rw [← numberOfFiles_eq_card partitions, ← partitions.number, ← partitions.number,
        ← partitions.number, ← partitions.number]
      rfl

/-- The summary of any issues accounts for each of them once: in the group of the file where it
starts, in the order of the list, and in the count of its severity. Its text is praise if there are
no issues, and tells these counts otherwise. -/
theorem summary_accounts_for_issues (issues : List Issue) (files : Int) :
    (Summary.ofIssues issues).Partitions issues ∧
      TellsCounts files issues (summaryText files (.ofIssues issues)) := by
  have partitions := Summary.partitions_ofIssues issues
  exact ⟨partitions, tellsCounts_summaryText partitions files⟩

/-- Two files by turns, with an end in another file and one issue twice. -/
def interleavedIssues : List Issue :=
  let inFile (file : String) (line : Int) (severity : Severity) (stopFile : String) : Issue :=
    ⟨"r", "", .unknown, severity, ⟨⟨file, line, 1⟩, ⟨stopFile, line, 9⟩⟩, none⟩
  [inFile "b.c" 9 .minor "a.c", inFile "a.c" 1 .critical "a.c", inFile "b.c" 2 .minor "b.c",
    inFile "b.c" 9 .minor "a.c"]

theorem summary_accounts_for_issues_interleaved :
    (Summary.ofIssues interleavedIssues).byFile.keys = ["b.c", "a.c"] ∧
      ((Summary.ofIssues interleavedIssues).byFile.get? "b.c").map
          (·.map (·.span.start.line)) = some [9, 2, 9] ∧
      summaryText 7 (.ofIssues interleavedIssues) = "Summary:\n" ++
        "Within a total number of 7 files, 2 files have issues.\n" ++
        "Number of critical issues: 1\nNumber of major issues: 0\n" ++
        "Number of minor issues: 3\nNumber of cosmetic issues: 0" ∧
      ¬ "Good job!".toList <+: (summaryText 7 (.ofIssues interleavedIssues)).toList := by
  obtain ⟨partitions, tells⟩ := summary_accounts_for_issues interleavedIssues 7
  have keys : (Summary.ofIssues interleavedIssues).byFile.keys = ["b.c", "a.c"] := by decide
  have member : "b.c" ∈ (Summary.ofIssues interleavedIssues).byFile.keys := by
    rw [keys]
    decide
  refine ⟨keys, ?_, by decide +kernel, tells.praises_iff.not.mpr (by decide)⟩
  rw [partitions.group "b.c" member]
  rfl

end DeclarationLint.Report.Text
