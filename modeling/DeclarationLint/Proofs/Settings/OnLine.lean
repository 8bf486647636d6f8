import DeclarationLint.Proofs.KeyedList
import DeclarationLint.Proofs.Text.Pieces
import DeclarationLint.Settings

/-!
# One line of the settings

The settings of a file are gathered in one pass over all of its comments. What they come to
for one line is a fold over the directives that stand on this line (`onLine_ofComments`), so a
fact about a line needs only one directive to be looked at: what it adds to what the line held
before.
-/
namespace DeclarationLint

namespace Directive

/-- The directive silences the rule: it names no rule at all, or this one among others. -/
def Silences (directive : Directive) (rule : String) : Prop :=
  directive.keyword = suppress ∧
    (directive.argument = none ∨
      ∃ argument ∈ directive.argument, argument = "" ∨ rule ∈ Text.pieces ',' argument)

/-- The directive names no rule, which silences all of them. -/
def SilencesAll (directive : Directive) : Prop :=
  directive.keyword = suppress ∧ (directive.argument = none ∨ directive.argument = some "")

instance (directive : Directive) (rule : String) : Decidable (directive.Silences rule) :=
  inferInstanceAs (Decidable (_ ∧ _))

/-- The parts of the argument between commas, in a directive that gives settings. -/
def tokens (directive : Directive) : List String :=
  if directive.keyword = ruleConfigure then
    directive.argument.toList.flatMap (Text.pieces ',')
  else []

end Directive

/-- The directives in the comments of a line, in order. -/
def directivesOn (comments : List Comment) (line : Int) : List Directive :=
  (comments.filter (·.line = line)).flatMap fun comment => Directive.scan comment.text

theorem directivesOn_append (first second : List Comment) (line : Int) :
    directivesOn (first ++ second) line = directivesOn first line ++ directivesOn second line := by
  rw [directivesOn, List.filter_append, List.flatMap_append]
  rfl

theorem directivesOn_cons (comment : Comment) (rest : List Comment) (line : Int) :
    directivesOn (comment :: rest) line =
      (if comment.line = line then Directive.scan comment.text else []) ++
        directivesOn rest line := by
  by_cases here : comment.line = line <;> simp [directivesOn, here]

namespace Suppression

/-- The rule identifiers listed for a line. No identifier at all stands for every rule. -/
def identifiers : Suppression → List String
  | everyRule => []
  | rules identifiers => identifiers

theorem ofArgument_eq_everyRule_iff (argument : Option String) :
    ofArgument argument = everyRule ↔ argument = none ∨ argument = some "" := by
  cases argument with
  | none => simp [ofArgument]
  | some argument => by_cases empty : argument = "" <;> simp [ofArgument, empty]

theorem join_eq_everyRule_iff (first second : Suppression) :
    first.join second = everyRule ↔ first = everyRule ∨ second = everyRule := by
  cases first <;> cases second <;> simp [join]

theorem covers_ofArgument (argument : Option String) (rule : String) :
    (ofArgument argument).covers rule = true ↔
      argument = none ∨ ∃ text ∈ argument, text = "" ∨ rule ∈ Text.pieces ',' text := by
  cases argument with
  | none => simp [ofArgument, covers]
  | some argument => by_cases empty : argument = "" <;> simp [ofArgument, covers, empty]

theorem covers_join (first second : Suppression) (rule : String) :
    (first.join second).covers rule = true ↔
      first.covers rule = true ∨ second.covers rule = true := by
  cases first <;> cases second <;> simp [join, covers]

/-- A list of identifiers is never empty, for the empty one would stand for every rule. -/
def Proper (suppression : Suppression) : Prop :=
  suppression.identifiers = [] → suppression = everyRule

theorem proper_ofArgument (argument : Option String) : (ofArgument argument).Proper := by
  intro noIdentifier
  cases argument with
  | none => rfl
  | some argument =>
    by_cases empty : argument = ""
    · simp [ofArgument, empty]
    · simp only [ofArgument, empty, if_false, identifiers] at noIdentifier
      exact absurd noIdentifier (Text.pieces_ne_nil ',' argument)

theorem Proper.join {first second : Suppression} (left : first.Proper) (right : second.Proper) :
    (first.join second).Proper := by
  cases first with
  | everyRule => exact fun _ => rfl
  | rules names =>
    cases second with
    | everyRule => exact fun _ => rfl
    | rules others =>
      intro noIdentifier
      simp only [Suppression.join, identifiers, List.append_eq_nil_iff] at noIdentifier
      exact absurd (left noIdentifier.1) (by simp)

end Suppression

namespace Settings

/-- What settings hold for one line. -/
structure OnLine where
  suppression : Option Suppression
  configuration : Option (KeyedList String String)

def onLine (settings : Settings) (line : Int) : OnLine :=
  ⟨settings.suppressions.get? line, settings.configurations.get? line⟩

namespace OnLine

def none : OnLine := ⟨.none, .none⟩

/-- Adds what one more directive on the line says. -/
def add (before : OnLine) (directive : Directive) : OnLine :=
  if directive.keyword = Directive.suppress then
    let more := Suppression.ofArgument directive.argument
    { before with suppression := some (before.suppression.elim more (·.join more)) }
  else if directive.keyword = Directive.ruleConfigure then
    let more := pairs (directive.argument.getD "")
    { before with configuration := some ((before.configuration.getD .empty).insertAll more) }
  else before

end OnLine

theorem onLine_addDirective (settings : Settings) (line other : Int) (directive : Directive) :
    (addDirective line settings directive).onLine other =
      if line = other then (settings.onLine other).add directive else settings.onLine other := by
  by_cases same : line = other
  · subst same
    rw [if_pos rfl]
    unfold addDirective OnLine.add onLine
    split
    · cases found : settings.suppressions.get? line <;> simp [found]
    · split <;> simp
  · rw [if_neg same]
    unfold addDirective onLine
    split
    · simp [KeyedList.get?_update_of_ne _ (Ne.symm same)]
    · split
      · simp [KeyedList.get?_update_of_ne _ (Ne.symm same)]
      · rfl

theorem onLine_foldl_addDirective (settings : Settings) (line other : Int)
    (directives : List Directive) :
    (directives.foldl (addDirective line) settings).onLine other =
      if line = other then directives.foldl OnLine.add (settings.onLine other)
      else settings.onLine other := by
  induction directives generalizing settings with
  | nil => simp
  | cons directive rest ih =>
    rw [List.foldl_cons, ih, onLine_addDirective]
    by_cases same : line = other <;> simp [same]

theorem onLine_foldl_addComment (settings : Settings) (line : Int) (comments : List Comment) :
    (comments.foldl addComment settings).onLine line =
      (directivesOn comments line).foldl OnLine.add (settings.onLine line) := by
  induction comments generalizing settings with
  | nil => rfl
  | cons comment rest ih =>
    rw [List.foldl_cons, ih, addComment, onLine_foldl_addDirective]
    by_cases here : comment.line = line <;> simp [directivesOn, here]

/-- What settings hold for a line is made from the directives of that line, in order. -/
theorem onLine_ofComments (comments : List Comment) (line : Int) :
    (ofComments comments).onLine line =
      (directivesOn comments line).foldl OnLine.add .none :=
  onLine_foldl_addComment empty line comments

namespace OnLine

/-- A property that does not hold at first, and that each directive brings about or leaves as
it was. -/
structure Accrues (holds : OnLine → Prop) (brings : Directive → Prop) : Prop where
  start : ¬ holds none
  step : ∀ before directive, holds (add before directive) ↔ holds before ∨ brings directive

theorem Accrues.foldl_add_iff {holds : OnLine → Prop} {brings : Directive → Prop}
    (accrues : Accrues holds brings) (before : OnLine) (directives : List Directive) :
    holds (directives.foldl add before) ↔
      holds before ∨ ∃ directive ∈ directives, brings directive := by
  induction directives generalizing before with
  | nil => simp
  | cons directive rest ih =>
    rw [List.foldl_cons, ih, accrues.step]
    simp [or_assoc]

/-- Such a property holds of a line if some directive on the line brings it about. -/
theorem Accrues.onLine_ofComments_iff {holds : OnLine → Prop} {brings : Directive → Prop}
    (accrues : Accrues holds brings) (comments : List Comment) (line : Int) :
    holds ((ofComments comments).onLine line) ↔
      ∃ directive ∈ directivesOn comments line, brings directive := by
  rw [onLine_ofComments, accrues.foldl_add_iff]
  exact or_iff_right accrues.start

theorem add_of_suppress {directive : Directive} (before : OnLine)
    (keyword : directive.keyword = Directive.suppress) :
    before.add directive =
      { before with
        suppression := some (before.suppression.elim (.ofArgument directive.argument)
          (·.join (.ofArgument directive.argument))) } := by
  simp [add, keyword]

theorem add_of_ruleConfigure {directive : Directive} (before : OnLine)
    (keyword : directive.keyword = Directive.ruleConfigure) :
    before.add directive =
      { before with
        configuration := some ((before.configuration.getD .empty).insertAll
          (pairs (directive.argument.getD ""))) } := by
  simp [add, keyword, show Directive.ruleConfigure ≠ Directive.suppress by decide]

theorem add_suppression_of_ne {directive : Directive} (before : OnLine)
    (keyword : directive.keyword ≠ Directive.suppress) :
    (before.add directive).suppression = before.suppression := by
  unfold add
  rw [if_neg keyword]
  split <;> rfl

theorem add_configuration_of_ne {directive : Directive} (before : OnLine)
    (keyword : directive.keyword ≠ Directive.ruleConfigure) :
    (before.add directive).configuration = before.configuration := by
  unfold add
  rw [if_neg keyword]
  split <;> rfl

theorem accrues_suppression :
    Accrues (·.suppression.isSome = true) (·.keyword = Directive.suppress) := by
  refine ⟨by simp [none], fun before directive => ?_⟩
  by_cases keyword : directive.keyword = Directive.suppress
  · simp [add_of_suppress before keyword, keyword]
  · simp [add_suppression_of_ne before keyword, keyword]

theorem accrues_configuration :
    Accrues (·.configuration.isSome = true) (·.keyword = Directive.ruleConfigure) := by
  refine ⟨by simp [none], fun before directive => ?_⟩
  by_cases keyword : directive.keyword = Directive.ruleConfigure
  · simp [add_of_ruleConfigure before keyword, keyword]
  · simp [add_configuration_of_ne before keyword, keyword]

/-- Once every rule is silent, lists of identifiers before or after make no difference. -/
theorem accrues_everyRule :
    Accrues (·.suppression = some .everyRule) Directive.SilencesAll := by
  refine ⟨by simp [none], fun before directive => ?_⟩
  by_cases keyword : directive.keyword = Directive.suppress
  · have named := Suppression.ofArgument_eq_everyRule_iff directive.argument
    rw [add_of_suppress before keyword]
    cases earlier : before.suppression with
    | none => simp [Directive.SilencesAll, keyword, named]
    | some suppression =>
      simp [Directive.SilencesAll, keyword, named, Suppression.join_eq_everyRule_iff]
  · simp [add_suppression_of_ne before keyword, Directive.SilencesAll, keyword]

theorem accrues_covers (rule : String) :
    Accrues (fun state => ∃ suppression ∈ state.suppression, suppression.covers rule = true)
      (·.Silences rule) := by
  refine ⟨by simp [none], fun before directive => ?_⟩
  by_cases keyword : directive.keyword = Directive.suppress
  · have named := Suppression.covers_ofArgument directive.argument rule
    rw [add_of_suppress before keyword]
    cases earlier : before.suppression with
    | none => simp [Directive.Silences, keyword, named]
    | some suppression => simp [Directive.Silences, keyword, named, Suppression.covers_join]
  · simp [add_suppression_of_ne before keyword, Directive.Silences, keyword]

/-- What is on record for a line never becomes an empty list of identifiers. -/
theorem proper_foldl_add {before : OnLine} (directives : List Directive)
    (proper : ∀ suppression ∈ before.suppression, suppression.Proper) :
    ∀ suppression ∈ (directives.foldl add before).suppression, suppression.Proper := by
  induction directives generalizing before with
  | nil => exact proper
  | cons directive rest ih =>
    refine ih fun suppression member => ?_
    by_cases keyword : directive.keyword = Directive.suppress
    · have added := Suppression.proper_ofArgument directive.argument
      rw [add_of_suppress before keyword] at member
      cases earlier : before.suppression with
      | none =>
        simp only [earlier, Option.elim_none, Option.mem_some_iff] at member
        exact member ▸ added
      | some old =>
        simp only [earlier, Option.elim_some, Option.mem_some_iff] at member
        exact member ▸ (proper old (by simp [earlier])).join added
    · rw [add_suppression_of_ne before keyword] at member
      exact proper suppression member

end OnLine

/-- The key and the value of a token with exactly one equals sign. -/
def pair? (token : String) : Option (String × String) :=
  match Text.pieces '=' token with
  | [key, value] => some (key, value)
  | _ => none

theorem pair?_eq_some_iff (token key value : String) :
    pair? token = some (key, value) ↔ Text.SplitsOnce '=' token key value := by
  rw [← Text.pieces_eq_pair_iff, pair?]
  split
  · rename_i first second cut
    simp [cut]
  · rename_i other
    constructor
    · intro impossible
      cases impossible
    · intro cut
      exact absurd cut (other key value)

theorem pairs_of_ruleConfigure {directive : Directive}
    (keyword : directive.keyword = Directive.ruleConfigure) :
    pairs (directive.argument.getD "") = directive.tokens.filterMap pair? := by
  rw [Directive.tokens, if_pos keyword]
  cases directive.argument with
  | none => simp [pairs, Text.pieces]
  | some argument =>
    rw [Option.getD_some, Option.toList_some, List.flatMap_cons, List.flatMap_nil,
      List.append_nil]
    rfl

namespace OnLine

theorem get?_configuration_add (before : OnLine) (directive : Directive) (key : String) :
    ((before.add directive).configuration.getD .empty).get? key =
      (KeyedList.lookup key (directive.tokens.filterMap pair?).reverse).or
        ((before.configuration.getD .empty).get? key) := by
  by_cases keyword : directive.keyword = Directive.ruleConfigure
  · rw [add_of_ruleConfigure before keyword, Option.getD_some, KeyedList.get?_insertAll,
      pairs_of_ruleConfigure keyword]
  · rw [add_configuration_of_ne before keyword, Directive.tokens, if_neg keyword]
    rfl

theorem get?_configuration_foldl_add (before : OnLine) (directives : List Directive)
    (key : String) :
    ((directives.foldl add before).configuration.getD .empty).get? key =
      (KeyedList.lookup key ((directives.flatMap Directive.tokens).filterMap pair?).reverse).or
        ((before.configuration.getD .empty).get? key) := by
  induction directives generalizing before with
  | nil => rfl
  | cons directive rest ih =>
    rw [List.foldl_cons, ih, get?_configuration_add, List.flatMap_cons, List.filterMap_append,
      List.reverse_append, KeyedList.lookup_append, Option.or_assoc]

end OnLine

end Settings
end DeclarationLint
