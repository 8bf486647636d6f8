import DeclarationLint.Proofs.KeyedList
import DeclarationLint.Rule
import Mathlib.Data.List.Basic

/-!
# Which value a setting has

A setting is looked for on the line and then in the run; values that do not convert to the
type of the default are passed over. Whenever the search ends with a value, it is the
conversion of the first candidate that has one, or the default.
-/
namespace DeclarationLint

namespace Value

/-- The raw value in the type of the default. Two conversions have no answer in range; they
count as none here, and end a run when they are tried. -/
def converted? (default raw : Value) : Option Value :=
  match default.convertLike? raw with
  | .ok value => value
  | .error _ => none

/-- The integer that a raw value stands for. -/
def wholeNumber? (raw : Value) : Option Int :=
  match raw.toInteger? with
  | .ok value => value
  | .error _ => none

theorem converted?_integer (default : Int) (raw : Value) :
    converted? (integer default) raw = raw.wholeNumber?.map integer := by
  unfold converted? wholeNumber? convertLike?
  cases raw.toInteger? <;> rfl

end Value

namespace SettingSources

theorem firstConvertible_ok {default value : Value} {candidates : List Value}
    (success : firstConvertible default candidates = .ok value) :
    value = (candidates.findSome? default.converted?).getD default := by
  induction candidates with
  | nil =>
    cases success
    rfl
  | cons raw rest ih =>
    unfold firstConvertible at success
    rw [List.findSome?_cons]
    split at success
    · cases success
    · rename_i found conversion
      cases success
      simp [Value.converted?, conversion]
    · rename_i conversion
      simpa [Value.converted?, conversion] using ih success

theorem firstConvertible_integer_ok {default : Int} {value : Value} {candidates : List Value}
    (success : firstConvertible (.integer default) candidates = .ok value) :
    value = .integer ((candidates.findSome? Value.wholeNumber?).getD default) := by
  have conversion : (Value.integer default).converted? =
      Option.map Value.integer ∘ Value.wholeNumber? :=
    funext (Value.converted?_integer default)
  rw [firstConvertible_ok success, conversion, ← List.map_findSome?]
  cases candidates.findSome? Value.wholeNumber? <;> rfl

/-- There are two places where a setting is looked for. -/
theorem findSome?_candidates {α : Type} (sources : SettingSources) (key : String)
    (convert : Value → Option α) :
    (sources.candidates key).findSome? convert =
      ((sources.line.get? key).bind convert).or ((sources.run.get? key).bind convert) := by
  rw [candidates, List.findSome?_append]
  cases sources.line.get? key <;> cases sources.run.get? key <;> simp

end SettingSources

namespace RuleContext

/-- An integer setting comes from the line, else from the run, else it is the default. -/
theorem resolve_integer_ok {settings : Settings} {runSettings : RunSettings}
    {declaration : Declaration} {key : String} {default : Int} {value : Value}
    (success : resolve ⟨settings, runSettings, some declaration⟩ key (.integer default) =
      .ok value) :
    value = .integer
      (((((settings.configurationAt declaration.line).get? key).bind Literal.integer?).or
        ((runSettings.get? key).bind Value.wholeNumber?)).getD default) := by
  rw [SettingSources.firstConvertible_integer_ok success, SettingSources.findSome?_candidates,
    sources, lineSettings, KeyedList.get?_mapValues, Option.bind_map]
  rfl

end RuleContext
end DeclarationLint
