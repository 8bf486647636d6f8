import DeclarationLint.Proofs.Number.DecimalText
import DeclarationLint.Proofs.Text.Pieces
import DeclarationLint.Report.Text
import Mathlib.Data.List.TakeWhile

/-!
# Reading issue lines

The text of a list of issues can be taken apart again. Colons part the line of an issue, which is
safe as long as neither the file nor the rule has one, because the description comes last. The
dash between two numbers is told from the sign of a number by its place: the sign of the first one
comes before its digits, and that of the second one after the dash. So the text says all that it
shows of each issue, and issues that it shows differently have different texts.
-/
namespace DeclarationLint.Report.Text

open Literal

/-- What the line of an issue shows of it. -/
structure PrintedIssue where
  file : String
  line : Int
  column : Int
  stopLine : Int
  stopColumn : Int
  severity : Severity
  rule : String
  description : String
deriving DecidableEq, Repr

/-- The issue as shown to someone working in a directory. -/
def printed (directory : String) (issue : Issue) : PrintedIssue where
  file := Reporter.relativeTo directory issue.file
  line := issue.span.start.line
  column := issue.span.start.column
  stopLine := issue.span.stop.line
  stopColumn := issue.span.stop.column
  severity := issue.severity
  rule := issue.rule
  description := issue.description

/-- The file and the rule are one word each to the reader of the line, and all is on one line. -/
structure Legible (shown : PrintedIssue) : Prop where
  file_colon : ':' ∉ shown.file.toList
  file_newline : '\n' ∉ shown.file.toList
  rule_colon : ':' ∉ shown.rule.toList
  rule_newline : '\n' ∉ shown.rule.toList
  description_newline : '\n' ∉ shown.description.toList

instance (shown : PrintedIssue) : Decidable (Legible shown) :=
  decidable_of_iff
    ((':' ∉ shown.file.toList ∧ '\n' ∉ shown.file.toList) ∧
      (':' ∉ shown.rule.toList ∧ '\n' ∉ shown.rule.toList) ∧
      '\n' ∉ shown.description.toList)
    ⟨fun parts => ⟨parts.1.1, parts.1.2, parts.2.1.1, parts.2.1.2, parts.2.2⟩,
      fun legible => ⟨⟨legible.1, legible.2⟩, ⟨legible.3, legible.4⟩, legible.5⟩⟩

/-- What stands before the first occurrence of a mark, and what comes after it. -/
def cut (mark : Char) (chars : List Char) : List Char × List Char :=
  (chars.takeWhile (· ≠ mark), (chars.dropWhile (· ≠ mark)).drop 1)

def readInteger (chars : List Char) : Int :=
  if chars.head? = some '-' then -Nat.ofDigitChars 10 (chars.drop 1) 0
  else Nat.ofDigitChars 10 chars 0

/-- Two numbers with a dash between them. A dash in front belongs to the first number. -/
def readIntegers (chars : List Char) : Int × Int :=
  let sign := if chars.head? = some '-' then ['-'] else []
  let (first, second) := cut '-' (chars.drop sign.length)
  (readInteger (sign ++ first), readInteger second)

/-- Reads the line of an issue. Severity, rule and description come after a colon and a blank. -/
def readLine? (line : List Char) : Option PrintedIssue := do
  let (file, afterFile) := cut ':' line
  let (startLine, afterStartLine) := cut ':' afterFile
  let (middle, afterMiddle) := cut ':' afterStartLine
  let (stopColumn, afterPlace) := cut ':' afterMiddle
  let (severity, afterSeverity) := cut ':' afterPlace
  let (rule, afterRule) := cut ':' afterSeverity
  let severity ← Vocabulary.ofWord? (String.ofList (severity.drop 1))
  some
    { file := String.ofList file
      line := readInteger startLine
      column := (readIntegers middle).1
      stopLine := (readIntegers middle).2
      stopColumn := readInteger stopColumn
      severity := severity
      rule := String.ofList (rule.drop 1)
      description := String.ofList (afterRule.drop 1) }

/-- Reads the text of a list of issues, line by line. -/
def readIssues (text : String) : List (Option PrintedIssue) :=
  if text = "" then [] else (DeclarationLint.Text.pieces '\n' text).map fun line => readLine? line.toList

theorem cut_append {mark : Char} {front : List Char} (absent : mark ∉ front)
    (back : List Char) : cut mark (front ++ mark :: back) = (front, back) := by
  have passes : ∀ c ∈ front, decide (c ≠ mark) = true := fun _ member =>
    decide_eq_true (ne_of_mem_of_not_mem member absent)
  unfold cut
  rw [List.takeWhile_append_of_pos passes, List.dropWhile_append_of_pos passes]
  simp

theorem cut_of_notMem {mark : Char} {chars : List Char} (absent : mark ∉ chars) :
    cut mark chars = (chars, []) := by
  have passes : ∀ c ∈ chars, decide (c ≠ mark) = true := fun _ member =>
    decide_eq_true (ne_of_mem_of_not_mem member absent)
  unfold cut
  rw [List.takeWhile_eq_self_iff.mpr passes, List.dropWhile_eq_nil_iff.mpr passes]
  rfl

theorem readInteger_toString (number : Int) : readInteger (toString number).toList = number := by
  unfold readInteger
  by_cases negative : number < 0
  · rw [toList_toString_of_neg negative, List.head?_cons, if_pos rfl, List.drop_one,
      List.tail_cons, magnitude, Nat.ofDigitChars_ten_toDigits]
    omega
  · have unsigned := head?_magnitude_append number []
    rw [List.append_nil] at unsigned
    rw [toList_toString_of_nonneg (by omega), if_neg unsigned, magnitude,
      Nat.ofDigitChars_ten_toDigits]
    omega

theorem readIntegers_toString (first second : Int) :
    readIntegers ((toString first).toList ++ '-' :: (toString second).toList) =
      (first, second) := by
  have noDash : '-' ∉ magnitude first := notMem_magnitude rfl first
  have readFirst := readInteger_toString first
  unfold readIntegers
  by_cases negative : first < 0
  · rw [toList_toString_of_neg negative] at readFirst ⊢
    rw [List.cons_append, List.head?_cons, if_pos rfl]
    change (readInteger (['-'] ++ (cut '-' (magnitude first ++ _)).1),
      readInteger (cut '-' (magnitude first ++ _)).2) = _
    rw [cut_append noDash, readInteger_toString, List.singleton_append, readFirst]
  · rw [toList_toString_of_nonneg (by omega)] at readFirst ⊢
    rw [if_neg (head?_magnitude_append first _)]
    change (readInteger (cut '-' (magnitude first ++ _)).1,
      readInteger (cut '-' (magnitude first ++ _)).2) = _
    rw [cut_append noDash, readInteger_toString, readFirst]

theorem toList_issueLine (directory : String) (issue : Issue) :
    (issueLine directory issue).toList =
      (printed directory issue).file.toList ++ ':' ::
        ((toString issue.span.start.line).toList ++ ':' ::
          ((toString issue.span.start.column).toList ++ '-' ::
            (toString issue.span.stop.line).toList ++ ':' ::
              ((toString issue.span.stop.column).toList ++ ':' ::
                (' ' :: issue.severity.word.toList ++ ':' ::
                  (' ' :: issue.rule.toList ++
                    if issue.description = "" then []
                    else ':' :: ' ' :: issue.description.toList))))) := by
  have texts : ∀ text : String, toString text = text := fun _ => rfl
  unfold issueLine
  by_cases silent : issue.description = ""
  · simp [silent, printed, Issue.file, texts]
  · simp [silent, printed, Issue.file, texts]

theorem ofWord?_word (severity : Severity) : Vocabulary.ofWord? severity.word = some severity := by
  cases severity <;> decide

theorem notMem_word {mark : Char} (noLetter : mark.isAlpha = false) (severity : Severity) :
    mark ∉ severity.word.toList := by
  have letters : severity.word.toList.all Char.isAlpha = true := by
    cases severity <;> rfl
  intro member
  rw [List.all_eq_true.mp letters mark member] at noLetter
  cases noLetter

/-- The line of an issue is read as what it shows of the issue. -/
theorem readLine?_issueLine {directory : String} {issue : Issue}
    (legible : Legible (printed directory issue)) :
    readLine? (issueLine directory issue).toList = some (printed directory issue) := by
  have noColon : ∀ number : Int, ':' ∉ (toString number).toList :=
    notMem_toString rfl (by decide)
  have middle : ':' ∉ (toString issue.span.start.column).toList ++
      '-' :: (toString issue.span.stop.line).toList := by
    rw [List.mem_append, List.mem_cons, not_or, not_or]
    exact ⟨noColon _, by decide, noColon _⟩
  have number : ∀ (number : Int) (back : List Char),
      cut ':' ((toString number).toList ++ ':' :: back) = ((toString number).toList, back) :=
    fun number => cut_append (noColon number)
  have severity : ':' ∉ ' ' :: issue.severity.word.toList := by
    simp [notMem_word (show ':'.isAlpha = false from rfl) issue.severity]
  have rule : ':' ∉ ' ' :: issue.rule.toList := by
    simpa [printed] using legible.rule_colon
  have last : cut ':' (' ' :: issue.rule.toList ++
      if issue.description = "" then [] else ':' :: ' ' :: issue.description.toList) =
        (' ' :: issue.rule.toList,
          if issue.description = "" then [] else ' ' :: issue.description.toList) := by
    by_cases silent : issue.description = ""
    · rw [if_pos silent, if_pos silent, List.append_nil, cut_of_notMem rule]
    · rw [if_neg silent, if_neg silent, cut_append rule]
  have description : String.ofList (if issue.description = "" then []
      else ' ' :: issue.description.toList).tail = issue.description := by
    by_cases silent : issue.description = ""
    · rw [if_pos silent, silent]
      rfl
    · rw [if_neg silent, List.tail_cons, String.ofList_toList]
  rw [toList_issueLine]
  unfold readLine?
  simp only [cut_append legible.file_colon, number, cut_append middle, cut_append severity, last,
    readInteger_toString, readIntegers_toString, description, List.drop_one, List.tail_cons,
    String.ofList_toList, ofWord?_word]
  rfl

theorem newline_notMem_issueLine {directory : String} {issue : Issue}
    (legible : Legible (printed directory issue)) :
    '\n' ∉ (issueLine directory issue).toList := by
  have noNewline : ∀ number : Int, '\n' ∉ (toString number).toList :=
    notMem_toString rfl (by decide)
  have severity : '\n' ∉ issue.severity.word.toList := notMem_word rfl issue.severity
  have file := legible.file_newline
  have rule : '\n' ∉ issue.rule.toList := legible.rule_newline
  have description : '\n' ∉ issue.description.toList := legible.description_newline
  rw [toList_issueLine]
  simp only [List.mem_append, List.mem_cons, not_or]
  refine ⟨file, by decide, noNewline _, by decide, ⟨noNewline _, by decide, noNewline _⟩,
    by decide, noNewline _, by decide, ⟨by decide, severity⟩, by decide, ⟨by decide, rule⟩, ?_⟩
  split
  · exact List.not_mem_nil
  · simp [description]

theorem issueLine_ne_empty (directory : String) (issue : Issue) : issueLine directory issue ≠ "" := by
  intro empty
  have chars := toList_issueLine directory issue
  rw [empty] at chars
  simp at chars

/-- The text of a list of issues is read as what it shows of each of them. -/
theorem readIssues_text {directory : String} {issues : List Issue}
    (legible : ∀ issue ∈ issues, Legible (printed directory issue)) :
    readIssues ((reporter directory).issues issues) =
      issues.map fun issue => some (printed directory issue) := by
  change readIssues ("\n".intercalate (issues.map (issueLine directory))) = _
  cases issues with
  | nil => rfl
  | cons first rest =>
    have whole : ∀ line ∈ (first :: rest).map (issueLine directory), '\n' ∉ line.toList := by
      intro line member
      obtain ⟨issue, found, rfl⟩ := List.mem_map.mp member
      exact newline_notMem_issueLine (legible issue found)
    have lines := DeclarationLint.Text.pieces_intercalate
      (show "\n".toList = ['\n'] from rfl) whole (by simp)
    -- The empty text has one empty piece, and no line of an issue is empty.
    have shown : "\n".intercalate ((first :: rest).map (issueLine directory)) ≠ "" := by
      intro empty
      rw [empty] at lines
      exact issueLine_ne_empty directory first (List.cons.inj lines).1.symm
    rw [readIssues, if_neg shown, lines, List.map_map]
    apply List.map_congr_left
    intro issue member
    exact readLine?_issueLine (legible issue member)

/-- If no file and no rule has a colon and everything is on one line, the text of a list of issues
tells what it shows of each issue, in order. Two lists with one text are of one length, and agree
at each place on the file as printed, on the four numbers, the severity, the rule and the
description. -/
theorem issues_text_decodable (directory : String) {first second : List Issue}
    (legible : ∀ issue ∈ first, Legible (printed directory issue))
    (otherLegible : ∀ issue ∈ second, Legible (printed directory issue))
    (same : (reporter directory).issues first = (reporter directory).issues second) :
    first.length = second.length ∧
      first.map (printed directory) = second.map (printed directory) := by
  have read := readIssues_text legible
  rw [same, readIssues_text otherLegible] at read
  have shown : first.map (printed directory) = second.map (printed directory) := by
    apply (List.map_inj_right (f := some) fun _ _ => Option.some.inj).mp
    rw [List.map_map, List.map_map]
    exact read.symm
  refine ⟨?_, shown⟩
  have lengths := congrArg List.length shown
  simpa using lengths

/-- Issues that point at no text and have texts full of colons and dashes. -/
def trickyIssues : List Issue :=
  [⟨"a-b", ": -1:-1--1: ", .naming, .minor, .invalid, none⟩,
    ⟨"", "", .unknown, .critical, .between "/work/src/x.c" (-3) (-4) (-5) 0, none⟩]

/-- They differ from `trickyIssues` in what the text does not show. -/
def trickyTwins : List Issue :=
  [⟨"a-b", ": -1:-1--1: ", .size, .minor, .invalid, some ⟨"fix", none⟩⟩,
    ⟨"", "", .unused, .critical,
      ⟨⟨"src/x.c", -3, -4⟩, ⟨"elsewhere", -5, 0⟩⟩, none⟩]

theorem issues_text_decodable_tricky :
    (∀ issue ∈ trickyIssues, Legible (printed "/work" issue)) ∧
      (∀ issue ∈ trickyTwins, Legible (printed "/work" issue)) ∧
      (reporter "/work").issues trickyIssues = (reporter "/work").issues trickyTwins ∧
      (reporter "/work").issues trickyIssues =
        "<invalid>:-1:-1--1:-1: minor: a-b: : -1:-1--1: \n" ++
          "src/x.c:-3:-4--5:0: critical: " ∧
      trickyIssues.map (printed "/work") = trickyTwins.map (printed "/work") := by
  have legible : ∀ issue ∈ trickyIssues, Legible (printed "/work" issue) := by decide
  have otherLegible : ∀ issue ∈ trickyTwins, Legible (printed "/work" issue) := by decide
  have same : (reporter "/work").issues trickyIssues = (reporter "/work").issues trickyTwins := by
    decide
  exact ⟨legible, otherLegible, same, by decide,
    (issues_text_decodable "/work" legible otherLegible same).2⟩

end DeclarationLint.Report.Text
