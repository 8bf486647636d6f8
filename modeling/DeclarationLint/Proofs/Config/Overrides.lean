import DeclarationLint.Proofs.Config.OverrideItems
import DeclarationLint.Proofs.Directive.Sequence
import DeclarationLint.Proofs.Lint.Texts
import DeclarationLint.Proofs.Settings.Lines

/-!
# Overrides and directives

Settings can be written as overrides, one item each, or as the argument of one directive with
commas between the items. The two are read by different means: overrides are cut at the equals sign
and stripped, while a directive goes through the scanner and is cut at commas first. Items that
need no stripping and have nothing in them that ends a directive or an item of one are read alike,
so a rule finds the same settings wherever they are written.
-/
namespace DeclarationLint

theorem Settings.configurationAt_ofComments (comments : List Comment) (line : Int) :
    (ofComments comments).configurationAt line =
      ((directivesOn comments line).foldl OnLine.add .none).configuration.getD .empty :=
  congrArg (·.configuration.getD .empty) (onLine_ofComments comments line)

namespace Overrides

/-- An item with nothing in it that one of the two ways to read it takes for something else. -/
structure Portable (item : String) : Prop where
  noComma : ',' ∉ item.toList
  noClose : ')' ∉ item.toList
  noSpace : ' ' ∉ item.toList
  tight : ∀ part ∈ Text.pieces '=' item, Text.Tight part

instance (item : String) : Decidable (Portable item) :=
  decidable_of_iff ((',' ∉ item.toList ∧ ')' ∉ item.toList ∧ ' ' ∉ item.toList) ∧
      ∀ part ∈ Text.pieces '=' item, Text.Tight part)
    ⟨fun ⟨⟨comma, close, space⟩, tight⟩ => ⟨comma, close, space, tight⟩,
      fun ⟨comma, close, space, tight⟩ => ⟨⟨comma, close, space⟩, tight⟩⟩

/-- The argument of a directive with the items. -/
def argument (items : List String) : String := ",".intercalate items

/-- A comment with nothing in it but a directive with the items. -/
def comment (items : List String) : String :=
  "// declint:rule_configure(" ++ argument items ++ ")"

variable {items : List String} {overrides : KeyedList String String}

/-- Nothing is lost from an item that is read without stripping it. -/
theorem Portable.pair?_eq {item key value : String} (portable : Portable item)
    (gives : Gives item key value) : Settings.pair? item = some (key, value) := by
  obtain ⟨left, right, once, toKey, toValue⟩ := gives.sides
  have cut := (Text.pieces_eq_pair_iff '=' item left right).mpr once
  have tightLeft : Text.Tight left := portable.tight left (by simp [cut])
  have tightRight : Text.Tight right := portable.tight right (by simp [cut])
  rw [← Text.strip_eq_iff, tightLeft.strip_eq] at toKey
  rw [← Text.strip_eq_iff, tightRight.strip_eq] at toValue
  rw [Settings.pair?, cut, toKey, toValue]

theorem filterMap_pair?_eq {entries : List (String × String)}
    (portable : ∀ item ∈ items, Portable item)
    (given : List.Forall₂ (fun item entry => Gives item entry.1 entry.2) items entries) :
    items.filterMap Settings.pair? = entries := by
  induction given with
  | nil => rfl
  | cons first _ ih =>
    have others := ih fun item member => portable item (by simp [member])
    rw [List.filterMap_cons_some ((portable _ (by simp)).pair?_eq first), others]

/-- The settings accepted are those that the items give as they stand. -/
theorem eq_ofList_of_parse (accepted : parse items = .ok overrides)
    (portable : ∀ item ∈ items, Portable item) :
    overrides = .ofList (items.filterMap Settings.pair?) := by
  obtain ⟨entries, given, rfl⟩ := (parse_eq_ok_iff items overrides).mp accepted
  rw [filterMap_pair?_eq portable given]

theorem mem_argument {c : Char} (member : c ∈ (argument items).toList) :
    c = ',' ∨ ∃ item ∈ items, c ∈ item.toList := by
  cases items with
  | nil => simp [argument] at member
  | cons first rest =>
    rw [argument, Text.toList_intercalate_cons, List.mem_append, List.mem_flatMap] at member
    simp only [List.mem_append] at member
    rcases member with here | ⟨item, inRest, comma | here⟩
    · exact Or.inr ⟨first, by simp, here⟩
    · exact Or.inl (by simpa using comma)
    · exact Or.inr ⟨item, by simp [inRest], here⟩

theorem pairs_argument (portable : ∀ item ∈ items, Portable item) :
    Settings.pairs (argument items) = items.filterMap Settings.pair? := by
  cases items with
  | nil => rfl
  | cons first rest =>
    have cut : Text.pieces ',' (argument (first :: rest)) = first :: rest :=
      Text.pieces_intercalate rfl (fun item member => (portable item member).noComma) (by simp)
    rw [Settings.pairs, cut]
    rfl

theorem clean_argument (portable : ∀ item ∈ items, Portable item) :
    Directive.CleanArgument (argument items).toList := by
  constructor
  · intro space
    obtain comma | ⟨item, member, inside⟩ := mem_argument space
    · exact absurd comma (by decide)
    · exact (portable item member).noSpace inside
  · intro close
    obtain comma | ⟨item, member, inside⟩ := mem_argument close
    · exact absurd comma (by decide)
    · exact (portable item member).noClose inside

theorem comment_eq_commentOf (items : List String) :
    comment items =
      Directive.commentOf [⟨Directive.ruleConfigure, some (argument items)⟩] := by
  have written : Directive.render ⟨Directive.ruleConfigure, some (argument items)⟩ =
      "rule_configure" ++ "(" ++ argument items ++ ")" := by
    unfold Directive.render
    rfl
  have front : "// declint:rule_configure(".toList =
      "// ".toList ++ Directive.anchor ++ ':' :: ("rule_configure".toList ++ "(".toList) := by
    decide
  apply String.toList_injective
  rw [Directive.toList_commentOf_cons, written]
  unfold comment
  simp only [String.toList_append, front, List.flatMap_nil, List.append_nil, List.append_assoc,
    List.cons_append]

/-- The comment holds the directive and no other. -/
theorem scan_comment (portable : ∀ item ∈ items, Portable item) :
    Directive.scan (comment items) = [⟨Directive.ruleConfigure, some (argument items)⟩] := by
  have documented := Directive.Documented.configure (clean_argument portable)
  rw [comment_eq_commentOf, Directive.scan_commentOf (by simpa using documented.writable)]
  simp [Directive.foundIn]

/-- On a line with this comment alone the items are found that it was made of. -/
theorem configurationAt_comment (portable : ∀ item ∈ items, Portable item)
    {comments : List Comment} {line : Int}
    (alone : comments.filter (·.line = line) = [⟨line, comment items⟩]) :
    (Settings.ofComments comments).configurationAt line =
      .ofList (items.filterMap Settings.pair?) := by
  rw [Settings.configurationAt_ofComments, directivesOn, alone, List.flatMap_singleton,
    scan_comment portable, List.foldl_cons, List.foldl_nil,
    Settings.OnLine.add_of_ruleConfigure _ rfl, Option.getD_some, Option.getD_some,
    pairs_argument portable]
  rfl

theorem configurationAt_of_no_comment {comments : List Comment} {line : Int}
    (absent : ∀ comment ∈ comments, comment.line ≠ line) :
    (Settings.ofComments comments).configurationAt line = .empty := by
  rw [Settings.configurationAt_ofComments, directivesOn,
    List.filter_eq_nil_iff.mpr (by simpa using absent)]
  rfl

/-- Items that are accepted as overrides and are read alike in both places come to the same
settings as the only comment of a line. At a declaration on this line a search then has the same
answer, and it has one, whether the items are given to the line or to the run. -/
theorem comment_agrees_with_overrides (accepted : parse items = .ok overrides)
    (portable : ∀ item ∈ items, Portable item) {comments : List Comment} {line : Int}
    (alone : comments.filter (·.line = line) = [⟨line, comment items⟩]) :
    (Settings.ofComments comments).configurationAt line = overrides ∧
      ∀ elsewhere : List Comment, (∀ comment ∈ elsewhere, comment.line ≠ line) →
        ∀ declaration : Declaration, declaration.line = line → ∀ key default, ∃ value,
          RuleContext.resolve ⟨.ofComments comments, .empty, some declaration⟩ key default =
              .ok value ∧
            RuleContext.resolve
                ⟨.ofComments elsewhere, overrides.mapValues .text, some declaration⟩
                key default =
              .ok value := by
  have given : (Settings.ofComments comments).configurationAt line = overrides := by
    rw [configurationAt_comment portable alone, eq_ofList_of_parse accepted portable]
  refine ⟨given, ?_⟩
  intro elsewhere absent declaration here key default
  obtain ⟨value, found⟩ : ∃ value, RuleContext.resolve
      ⟨.ofComments elsewhere, overrides.mapValues .text, some declaration⟩ key default =
        .ok value :=
    RuleContext.exists_resolve_of_allTexts (RunSettings.allTexts_mapValues overrides) key default
  have onLine : RuleContext.lineSettings
      ⟨.ofComments comments, .empty, some declaration⟩ = overrides := by
    change (Settings.ofComments comments).configurationAt declaration.line = overrides
    rw [here, given]
  have offLine : RuleContext.lineSettings
      ⟨.ofComments elsewhere, overrides.mapValues .text, some declaration⟩ = .empty := by
    change (Settings.ofComments elsewhere).configurationAt declaration.line = .empty
    rw [here, configurationAt_of_no_comment absent]
  refine ⟨value, ?_, found⟩
  rw [← found]
  unfold RuleContext.resolve SettingSources.resolve
  congr 1
  rw [RuleContext.candidates_sources, RuleContext.candidates_sources, onLine, offLine]
  simp [KeyedList.get?_mapValues]

/-- The values hold anchors, brackets, colons and blanks inside, and a key is given twice. -/
def portableItems : List String :=
  ["NCSS=1", "path=a:declint:(b\tc", "NCSS=\u0663", "empty="]

def portableOverrides : KeyedList String String :=
  .ofList [("NCSS", "\u0663"), ("path", "a:declint:(b\tc"), ("empty", "")]

def portableComments : List Comment :=
  [⟨3, "// declint:suppress"⟩, ⟨4, comment portableItems⟩, ⟨5, "// declint:rule_configure(NCSS=9)"⟩]

/-- A function that starts on the line of the comment. -/
def functionOnFour : Declaration := ⟨.function, "f", .between "a.c" 4 1 9 2, none, []⟩

theorem comment_agrees_with_overrides_repeated :
    parse portableItems = .ok portableOverrides ∧
      (∀ item ∈ portableItems, Portable item) ∧
      portableComments.filter (·.line = 4) = [⟨4, comment portableItems⟩] ∧
      (Settings.ofComments portableComments).configurationAt 4 = portableOverrides ∧
      RuleContext.resolve ⟨.ofComments portableComments, .empty, some functionOnFour⟩ "NCSS"
          (.integer 30) =
        RuleContext.resolve
          ⟨.ofComments [], portableOverrides.mapValues .text, some functionOnFour⟩ "NCSS"
          (.integer 30) := by
  have accepted : parse portableItems = .ok portableOverrides := rfl
  have portable : ∀ item ∈ portableItems, Portable item := by decide
  have alone : portableComments.filter (·.line = 4) = [⟨4, comment portableItems⟩] := rfl
  obtain ⟨same, answers⟩ := comment_agrees_with_overrides accepted portable alone
  obtain ⟨value, onLine, inRun⟩ :=
    answers [] (by simp) functionOnFour rfl "NCSS" (.integer 30)
  exact ⟨accepted, portable, alone, same, onLine.trans inRun.symm⟩

end Overrides
end DeclarationLint
