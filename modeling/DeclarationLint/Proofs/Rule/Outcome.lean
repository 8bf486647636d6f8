import DeclarationLint.Proofs.KeyedList
import DeclarationLint.Proofs.Value.Conversion
import DeclarationLint.Rule

/-!
# How the search for a setting ends

The search for a setting has an answer unless the run holds a number for which the type of the
default has no room, and the line has no value that converts. The answer is what the line gives,
else what the run gives, else the default, and it has the type of the default. Texts are never out
of range, so nothing that comments say can make the search fail.
-/
namespace DeclarationLint

open Value

namespace SettingSources

theorem firstConvertible_nil_eq_ok_iff (default value : Value) :
    firstConvertible default [] = .ok value ↔ value = default := by
  rw [firstConvertible, Except.ok.injEq, eq_comm]

theorem firstConvertible_nil_ne_error (default : Value) (overflow : NumberOverflow) :
    firstConvertible default [] ≠ .error overflow := by
  intro impossible
  cases impossible

theorem firstConvertible_cons_eq_ok_iff (default raw value : Value) (rest : List Value) :
    firstConvertible default (raw :: rest) = .ok value ↔
      Converts default raw value ∨
        PassedOver default raw ∧ firstConvertible default rest = .ok value := by
  rw [← convertLike?_eq_some_iff, ← convertLike?_eq_none_iff, firstConvertible]
  rcases default.convertLike? raw with overflow | _ | given <;> simp

theorem firstConvertible_cons_eq_error_iff (default raw : Value) (overflow : NumberOverflow)
    (rest : List Value) :
    firstConvertible default (raw :: rest) = .error overflow ↔
      Overflows default raw overflow ∨
        PassedOver default raw ∧ firstConvertible default rest = .error overflow := by
  rw [← convertLike?_eq_error_iff, ← convertLike?_eq_none_iff, firstConvertible]
  rcases default.convertLike? raw with overflow | _ | given <;> simp

end SettingSources

namespace RuleContext

/-- The comments on the line of the declaration being visited have a value that counts. -/
def LineGives (context : RuleContext) (key : String) (default value : Value) : Prop :=
  ∃ given ∈ context.lineSettings.get? key, Converts default (.text given) value

/-- The run has a value that counts. -/
def RunGives (context : RuleContext) (key : String) (default value : Value) : Prop :=
  ∃ raw ∈ context.runSettings.get? key, Converts default raw value

/-- The run has a value that is out of range. -/
def RunOverflows (context : RuleContext) (key : String) (default : Value)
    (overflow : NumberOverflow) : Prop :=
  ∃ raw ∈ context.runSettings.get? key, Overflows default raw overflow

theorem candidates_sources (context : RuleContext) (key : String) :
    context.sources.candidates key =
      ((context.lineSettings.get? key).map Value.text).toList ++
        (context.runSettings.get? key).toList := by
  rw [SettingSources.candidates, sources, KeyedList.get?_mapValues]

theorem resolve_eq_ok_iff (context : RuleContext) (key : String) (default value : Value) :
    context.resolve key default = .ok value ↔
      context.LineGives key default value ∨
        (∀ given, ¬ context.LineGives key default given) ∧
          (context.RunGives key default value ∨
            (∀ given, ¬ context.RunGives key default given) ∧
              (∀ overflow, ¬ context.RunOverflows key default overflow) ∧ value = default) := by
  unfold resolve SettingSources.resolve LineGives RunGives RunOverflows
  rw [candidates_sources]
  cases context.lineSettings.get? key <;> cases context.runSettings.get? key <;>
    simp [SettingSources.firstConvertible_cons_eq_ok_iff,
      SettingSources.firstConvertible_nil_eq_ok_iff, passedOver_iff, not_overflows_text, and_assoc]

theorem resolve_eq_error_iff (context : RuleContext) (key : String) (default : Value)
    (overflow : NumberOverflow) :
    context.resolve key default = .error overflow ↔
      (∀ given, ¬ context.LineGives key default given) ∧
        context.RunOverflows key default overflow := by
  unfold resolve SettingSources.resolve LineGives RunOverflows
  rw [candidates_sources]
  cases context.lineSettings.get? key <;> cases context.runSettings.get? key <;>
    simp [SettingSources.firstConvertible_cons_eq_error_iff,
      SettingSources.firstConvertible_nil_ne_error, passedOver_iff, not_overflows_text]

/-- A search without an out-of-range number has an answer. -/
theorem exists_resolve_of_not_overflows {context : RuleContext} {key : String} {default : Value}
    (inRange : ∀ overflow, ¬ context.RunOverflows key default overflow) :
    ∃ value, context.resolve key default = .ok value := by
  cases outcome : context.resolve key default with
  | ok value => exact ⟨value, rfl⟩
  | error overflow =>
    exact absurd ((context.resolve_eq_error_iff key default overflow).mp outcome).2
      (inRange overflow)

theorem scalarType?_of_resolve {context : RuleContext} {key : String} {default value : Value}
    (success : context.resolve key default = .ok value) (asked : default.scalarType? ≠ none) :
    value.scalarType? = default.scalarType? := by
  rcases (context.resolve_eq_ok_iff key default value).mp success with
    ⟨given, -, converts⟩ | ⟨-, ⟨raw, -, converts⟩ | ⟨-, -, same⟩⟩
  · exact converts.scalarType? asked
  · exact converts.scalarType? asked
  · rw [same]

/-- The search for a setting fails only if nothing on the line counts and the run holds a number
out of range. Otherwise its answer is what the line gives, else what the run gives, else the
default, and the answer has the type of a default that is a scalar. -/
theorem resolve_outcome (context : RuleContext) (key : String) (default : Value) :
    (∀ value, context.resolve key default = .ok value ↔
      context.LineGives key default value ∨
        (∀ given, ¬ context.LineGives key default given) ∧
          (context.RunGives key default value ∨
            (∀ given, ¬ context.RunGives key default given) ∧
              (∀ overflow, ¬ context.RunOverflows key default overflow) ∧ value = default)) ∧
      (∀ overflow, context.resolve key default = .error overflow ↔
        (∀ given, ¬ context.LineGives key default given) ∧
          context.RunOverflows key default overflow) ∧
      ∀ value, context.resolve key default = .ok value → default.scalarType? ≠ none →
        value.scalarType? = default.scalarType? :=
  ⟨context.resolve_eq_ok_iff key default, context.resolve_eq_error_iff key default,
    fun _ => scalarType?_of_resolve⟩

/-- The line has a value that is no integer, and the run has a text that is one. -/
def unusableOnLine : RuleContext where
  settings := .ofComments [⟨5, "// declint:rule_configure(NCSS=many)"⟩]
  runSettings := .ofList [("NCSS", .text " 7\n")]
  current := some ⟨.function, "f", .between "a.c" 5 1 8 2, none, []⟩

theorem resolve_outcome_unusable :
    unusableOnLine.resolve "NCSS" (.integer 30) = .ok (.integer 7) ∧
      (∀ given, ¬ unusableOnLine.LineGives "NCSS" (.integer 30) given) ∧
      unusableOnLine.RunGives "NCSS" (.integer 30) (.integer 7) ∧
      (Value.integer 7).scalarType? = (Value.integer 30).scalarType? := by
  have returned : unusableOnLine.resolve "NCSS" (.integer 30) = .ok (.integer 7) := rfl
  have unusable : ∀ given, ¬ unusableOnLine.LineGives "NCSS" (.integer 30) given := by
    rintro value ⟨given, member, converts⟩
    have many : unusableOnLine.lineSettings.get? "NCSS" = some "many" := rfl
    obtain rfl : "many" = given := Option.some.inj (many.symm.trans member)
    cases converts with
    | wholeText read => cases read
    | untyped noType => cases noType
  obtain ⟨answers, -, typed⟩ := resolve_outcome unusableOnLine "NCSS" (.integer 30)
  have typed := typed (.integer 7) returned (by decide)
  rcases (answers (.integer 7)).mp returned with onLine | ⟨-, inRun | ⟨-, -, same⟩⟩
  · exact absurd onLine (unusable _)
  · exact ⟨returned, unusable, inRun, typed⟩
  · cases same

/-- The run asks for a limit that is never reached, or for one that is no number. -/
def withLimit (limit : Binary64) : RuleContext := ⟨.empty, .ofList [("NCSS", .float limit)], none⟩

/-- A float that is no number is passed over, but an infinite one ends the search. -/
theorem resolve_infinite_limit :
    (withLimit .nan).resolve "NCSS" (.integer 30) = .ok (.integer 30) ∧
      (withLimit (.infinite false)).resolve "NCSS" (.integer 30) = .error .infinityToInteger ∧
      ¬ ∀ (context : RuleContext) (key : String) (default : Value),
        ∃ value, context.resolve key default = .ok value := by
  have failed : (withLimit (.infinite false)).resolve "NCSS" (.integer 30) =
      .error .infinityToInteger := rfl
  refine ⟨rfl, failed, fun returns => ?_⟩
  obtain ⟨value, success⟩ := returns (withLimit (.infinite false)) "NCSS" (.integer 30)
  rw [failed] at success
  cases success

end RuleContext
end DeclarationLint
