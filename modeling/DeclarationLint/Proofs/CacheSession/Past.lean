import DeclarationLint.CacheSession
import Mathlib.Data.List.Induction

/-!
# The past of a session

What the steps taken so far amount to, told from the steps alone: what has become of the files,
for which identifiers settings were asked since they were last dropped, and which file was the
first to be asked for. No cache has a part in it.
-/
namespace DeclarationLint

namespace CacheStep

/-- The file whose settings the step asks for, to answer with them or to lint with them. -/
def asked? : CacheStep → Option String
  | settings name | lint name => some name
  | _ => none

/-- The comment that the step adds to a file. -/
def added? (name : String) : CacheStep → Option Comment
  | comment other added => if other = name then some added else none
  | _ => none

/-- The step drops what is remembered for the identifier. -/
def Drops (identifier : String) : CacheStep → Prop
  | invalidate other => other = identifier
  | clear => True
  | _ => False

instance (identifier : String) : DecidablePred (Drops identifier) := fun step => by
  cases step <;> unfold Drops <;> infer_instance

theorem not_drops_of_asked? {step : CacheStep} {name : String} (asked : step.asked? = some name)
    (identifier : String) : ¬ step.Drops identifier := by
  cases step <;> simp_all [asked?, Drops]

end CacheStep

/-- What has become of a file after some steps. Nothing but comments is ever added to it. -/
def fileAfter (files : KeyedList String SourceFile) (past : List CacheStep) (name : String) :
    Option SourceFile :=
  (files.get? name).map fun file =>
    { file with comments := file.comments ++ past.filterMap (·.added? name) }

/-- The step asks for the settings of some file with the identifier. -/
def AsksFor (files : KeyedList String SourceFile) (step : CacheStep) (identifier : String) : Prop :=
  ∃ name ∈ step.asked?, ∃ file ∈ files.get? name, file.identifier = identifier

/-- Settings were asked for under the identifier, and nothing has dropped them since. -/
def AskedSince (files : KeyedList String SourceFile) (past : List CacheStep)
    (identifier : String) : Prop :=
  ∃ before step later, past = before ++ step :: later ∧ AsksFor files step identifier ∧
    ∀ other ∈ later, ¬ other.Drops identifier

/-- After the steps `before`, and for the first time since the identifier was last dropped, some
step asked for the settings of `file` as it was then; nothing has dropped them since. -/
structure FirstAsked (files : KeyedList String SourceFile) (past : List CacheStep)
    (identifier : String) (before : List CacheStep) (file : SourceFile) : Prop where
  asked : ∃ step later, past = before ++ step :: later ∧
    (∃ name ∈ step.asked?, fileAfter files before name = some file) ∧
    ∀ other ∈ later, ¬ other.Drops identifier
  named : file.identifier = identifier
  first : ¬ AskedSince files before identifier

variable {files : KeyedList String SourceFile} {past : List CacheStep}

theorem concat_eq_append_cons_iff {α : Type} {list before later : List α} {last item : α} :
    list ++ [last] = before ++ item :: later ↔
      (later = [] ∧ before = list ∧ item = last) ∨
        ∃ rest, later = rest ++ [last] ∧ list = before ++ item :: rest := by
  constructor
  · intro split
    rcases List.eq_nil_or_concat later with rfl | ⟨rest, final, rfl⟩
    · have ends := List.append_inj' split rfl
      exact Or.inl ⟨rfl, ends.1.symm, (List.cons.inj ends.2).1.symm⟩
    · rw [List.concat_eq_append, ← List.cons_append, ← List.append_assoc] at split
      have ends := List.append_inj' split rfl
      obtain rfl := (List.cons.inj ends.2).1
      exact Or.inr ⟨rest, by simp, ends.1⟩
  · rintro (⟨rfl, rfl, rfl⟩ | ⟨rest, rfl, rfl⟩)
    · rfl
    · simp

theorem fileAfter_eq_some_iff {name : String} {file : SourceFile} :
    fileAfter files past name = some file ↔
      ∃ original, files.get? name = some original ∧
        file = { original with
          comments := original.comments ++ past.filterMap (·.added? name) } := by
  rw [fileAfter, Option.map_eq_some_iff]
  simp only [eq_comm]

theorem identifier_of_fileAfter {name : String} {file : SourceFile}
    (found : fileAfter files past name = some file) :
    ∃ original, files.get? name = some original ∧ original.identifier = file.identifier := by
  obtain ⟨original, present, rfl⟩ := fileAfter_eq_some_iff.mp found
  exact ⟨original, present, rfl⟩

theorem exists_fileAfter (past : List CacheStep) {name : String} {file : SourceFile}
    (present : files.get? name = some file) :
    ∃ current, fileAfter files past name = some current ∧
      current.identifier = file.identifier :=
  ⟨_, fileAfter_eq_some_iff.mpr ⟨file, present, rfl⟩, rfl⟩

theorem asksFor_iff (past : List CacheStep) {step : CacheStep} {identifier : String} :
    AsksFor files step identifier ↔
      ∃ name ∈ step.asked?, ∃ file, fileAfter files past name = some file ∧
        file.identifier = identifier := by
  constructor
  · rintro ⟨name, asked, file, present, same⟩
    exact ⟨name, asked, _, fileAfter_eq_some_iff.mpr ⟨file, present, rfl⟩, same⟩
  · rintro ⟨name, asked, file, found, same⟩
    obtain ⟨original, present, kept⟩ := identifier_of_fileAfter found
    exact ⟨name, asked, original, present, kept.trans same⟩

theorem AsksFor.not_drops {step : CacheStep} {identifier : String}
    (asks : AsksFor files step identifier) (other : String) : ¬ step.Drops other := by
  obtain ⟨name, asked, -⟩ := asks
  exact CacheStep.not_drops_of_asked? asked other

theorem askedSince_concat {step : CacheStep} {identifier : String} :
    AskedSince files (past ++ [step]) identifier ↔
      AsksFor files step identifier ∨
        AskedSince files past identifier ∧ ¬ step.Drops identifier := by
  constructor
  · rintro ⟨before, asking, later, split, asks, kept⟩
    rcases concat_eq_append_cons_iff.mp split with ⟨rfl, rfl, rfl⟩ | ⟨rest, rfl, rfl⟩
    · exact Or.inl asks
    · have earlier : ∀ other ∈ rest, ¬ other.Drops identifier :=
        fun other member => kept other (by simp [member])
      exact Or.inr ⟨⟨before, asking, rest, rfl, asks, earlier⟩, kept step (by simp)⟩
  · rintro (asks | ⟨⟨before, asking, later, rfl, asks, kept⟩, keeps⟩)
    · exact ⟨past, step, [], rfl, asks, by simp⟩
    · refine ⟨before, asking, later ++ [step], by simp, asks, fun other member => ?_⟩
      rcases List.mem_append.mp member with old | new
      · exact kept other old
      · exact List.mem_singleton.mp new ▸ keeps

/-- A step either is the first to ask, or keeps the first that was asked for unless it drops it. -/
theorem firstAsked_concat {step : CacheStep} {identifier : String} {before : List CacheStep}
    {file : SourceFile} :
    FirstAsked files (past ++ [step]) identifier before file ↔
      (¬ AskedSince files past identifier ∧ before = past ∧ file.identifier = identifier ∧
          ∃ name ∈ step.asked?, fileAfter files past name = some file) ∨
        FirstAsked files past identifier before file ∧ ¬ step.Drops identifier := by
  constructor
  · rintro ⟨⟨asking, later, split, asked, kept⟩, same, first⟩
    rcases concat_eq_append_cons_iff.mp split with ⟨rfl, rfl, rfl⟩ | ⟨rest, rfl, rfl⟩
    · exact Or.inl ⟨first, rfl, same, asked⟩
    · have earlier : ∀ other ∈ rest, ¬ other.Drops identifier :=
        fun other member => kept other (by simp [member])
      exact Or.inr ⟨⟨⟨asking, rest, rfl, asked, earlier⟩, same, first⟩, kept step (by simp)⟩
  · rintro (⟨first, rfl, same, asked⟩ | ⟨⟨⟨asking, later, rfl, asked, kept⟩, same, first⟩, keeps⟩)
    · exact ⟨⟨step, [], rfl, asked, by simp⟩, same, first⟩
    · refine ⟨⟨asking, later ++ [step], by simp, asked, fun other member => ?_⟩, same, first⟩
      rcases List.mem_append.mp member with old | new
      · exact kept other old
      · exact List.mem_singleton.mp new ▸ keeps

theorem FirstAsked.askedSince {identifier : String} {before : List CacheStep} {file : SourceFile}
    (firstAsked : FirstAsked files past identifier before file) :
    AskedSince files past identifier := by
  obtain ⟨step, later, split, ⟨name, asked, found⟩, kept⟩ := firstAsked.asked
  exact ⟨before, step, later, split,
    (asksFor_iff before).mpr ⟨name, asked, file, found, firstAsked.named⟩, kept⟩

theorem FirstAsked.begins {identifier : String} {before : List CacheStep} {file : SourceFile}
    (firstAsked : FirstAsked files past identifier before file) : before <+: past := by
  obtain ⟨step, later, rfl, -⟩ := firstAsked.asked
  exact ⟨step :: later, rfl⟩

/-- Where settings were asked for, some file was the first. -/
theorem exists_firstAsked_iff {identifier : String} :
    (∃ before file, FirstAsked files past identifier before file) ↔
      AskedSince files past identifier := by
  constructor
  · rintro ⟨before, file, firstAsked⟩
    exact firstAsked.askedSince
  · intro asked
    induction past using List.reverseRecOn with
    | nil =>
      obtain ⟨before, step, later, split, -⟩ := asked
      simp at split
    | append_singleton past step ih =>
      by_cases earlier : AskedSince files past identifier ∧ ¬ step.Drops identifier
      · obtain ⟨before, file, firstAsked⟩ := ih earlier.1
        exact ⟨before, file, firstAsked_concat.mpr (Or.inr ⟨firstAsked, earlier.2⟩)⟩
      · have asks : AsksFor files step identifier :=
          (askedSince_concat.mp asked).resolve_right earlier
        have fresh : ¬ AskedSince files past identifier :=
          fun old => earlier ⟨old, asks.not_drops identifier⟩
        obtain ⟨name, asking, file, found, same⟩ := (asksFor_iff past).mp asks
        exact ⟨past, file, firstAsked_concat.mpr (Or.inl ⟨fresh, rfl, same, name, asking, found⟩)⟩

/-- Whoever was the first to ask at one moment, seen from two ends of the session, is the same, and
nothing has dropped the identifier in between. -/
theorem FirstAsked.kept_of_same_before {identifier other : String} {before rest : List CacheStep}
    {file otherFile : SourceFile} (early : FirstAsked files past identifier before file)
    (late : FirstAsked files (past ++ rest) other before otherFile) :
    identifier = other ∧ ∀ step ∈ rest, ¬ step.Drops identifier := by
  obtain ⟨step, later, rfl, ⟨name, asks, found⟩, -⟩ := early.asked
  obtain ⟨otherStep, otherLater, split, ⟨otherName, otherAsks, otherFound⟩, kept⟩ := late.asked
  rw [List.append_assoc, List.cons_append] at split
  obtain ⟨rfl, rfl⟩ := List.cons.inj (List.append_cancel_left split)
  obtain rfl := Option.some.inj (asks.symm.trans otherAsks)
  obtain rfl := Option.some.inj (found.symm.trans otherFound)
  have same : identifier = other := early.named.symm.trans late.named
  refine ⟨same, fun step member => ?_⟩
  rw [same]
  exact kept step (List.mem_append_right later member)

/-- The first file asked for stays the first as long as nothing drops the identifier. -/
theorem FirstAsked.append {identifier : String} {before rest : List CacheStep} {file : SourceFile}
    (firstAsked : FirstAsked files past identifier before file)
    (kept : ∀ step ∈ rest, ¬ step.Drops identifier) :
    FirstAsked files (past ++ rest) identifier before file := by
  induction rest using List.reverseRecOn with
  | nil => simpa using firstAsked
  | append_singleton rest step ih =>
    rw [← List.append_assoc]
    exact firstAsked_concat.mpr (Or.inr ⟨ih fun other member => kept other (by simp [member]),
      kept step (by simp)⟩)

end DeclarationLint
