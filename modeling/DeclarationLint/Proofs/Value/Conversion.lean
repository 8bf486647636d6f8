import DeclarationLint.Proofs.Number.Overflow
import DeclarationLint.Value.Convert
import Mathlib.Tactic.MkIffOfInductiveProp

/-!
# What a raw value converts to

The rules by which a raw value counts for a default, one for each way in which it can, and the
three ways in which a conversion has no answer in range. Whatever none of the rules covers is
passed over.
-/
namespace DeclarationLint

/-- The types that a setting can be asked for in. -/
inductive ScalarType where
  | boolean | integer | float | text
deriving DecidableEq, Repr

namespace Value

/-- The type that a default asks for. A default that is no scalar asks for none. -/
def scalarType? : Value → Option ScalarType
  | boolean _ => some .boolean
  | integer _ => some .integer
  | float _ => some .float
  | text _ => some .text
  | null | list _ | record _ => none

/-- The integer is the value, or is somewhere in it. -/
inductive Holds : Value → Int → Prop where
  | self {number : Int} : Holds (integer number) number
  | item {items : List Value} {value : Value} {number : Int} (member : value ∈ items)
      (inside : Holds value number) : Holds (list items) number
  | field {fields : List (String × Value)} {name : String} {value : Value} {number : Int}
      (member : (name, value) ∈ fields) (inside : Holds value number) :
      Holds (record fields) number

/-- All integers in the value are short enough to be written out. -/
def Writable (raw : Value) : Prop :=
  ∀ number, Holds raw number → number.natAbs < 10 ^ Literal.mostDigits

/-- The word by which a value may stand for truth. -/
def truthWord (raw : Value) : String := (Text.strip raw.render).toLower

/-- The raw value counts for the default, as the last value. -/
inductive Converts : Value → Value → Value → Prop where
  | truth {asked given : Bool} : Converts (boolean asked) (boolean given) (boolean given)
  | trueWord {asked : Bool} {raw : Value} (writable : raw.Writable)
      (word : raw.truthWord ∈ trueWords) : Converts (boolean asked) raw (boolean true)
  | falseWord {asked : Bool} {raw : Value} (writable : raw.Writable)
      (word : raw.truthWord ∈ falseWords) : Converts (boolean asked) raw (boolean false)
  | whole {asked given : Int} : Converts (integer asked) (integer given) (integer given)
  | wholePart {asked part : Int} {given : Binary64} (finite : given.truncate? = some part) :
      Converts (integer asked) (float given) (integer part)
  | wholeText {asked number : Int} {given : String}
      (read : Literal.integer? given = some number) :
      Converts (integer asked) (text given) (integer number)
  | real {asked given : Binary64} : Converts (float asked) (float given) (float given)
  | nearest {asked : Binary64} {given : Int}
      (inRange : given.natAbs < Binary64.integerCeiling) :
      Converts (float asked) (integer given) (float (Binary64.ofInt given))
  | realText {asked number : Binary64} {given : String}
      (read : Literal.float? given = some number) :
      Converts (float asked) (text given) (float number)
  | shown {asked : String} {raw : Value} (writable : raw.Writable) :
      Converts (text asked) raw (text raw.render)
  | untyped {default raw : Value} (noType : default.scalarType? = none) :
      Converts default raw raw

/-- The raw value is or holds a number for which the type of the default has no room. -/
inductive Overflows : Value → Value → NumberOverflow → Prop where
  | infinity {asked : Int} {negative : Bool} :
      Overflows (integer asked) (float (.infinite negative)) .infinityToInteger
  | tooLarge {asked : Binary64} {given : Int}
      (beyond : Binary64.integerCeiling ≤ given.natAbs) :
      Overflows (float asked) (integer given) .integerToFloat
  | tooLong {default raw : Value} {number : Int}
      (read : default.scalarType? = some .boolean ∨ default.scalarType? = some .text)
      (holds : raw.Holds number) (long : 10 ^ Literal.mostDigits ≤ number.natAbs) :
      Overflows default raw .integerToText

/-- The raw value neither counts for the default nor is out of range for it. -/
@[mk_iff]
structure PassedOver (default raw : Value) : Prop where
  unconverted : ∀ value, ¬ Converts default raw value
  inRange : ∀ overflow, ¬ Overflows default raw overflow

theorem Converts.scalarType? {default raw value : Value} (converts : Converts default raw value)
    (asked : default.scalarType? ≠ none) : value.scalarType? = default.scalarType? := by
  cases converts with
  | untyped noType => exact absurd noType asked
  | _ => rfl

mutual

theorem isWritable_iff : (raw : Value) → (raw.isWritable = true ↔ raw.Writable)
  | null | boolean _ | float _ | text _ => by
    refine iff_of_true rfl fun number holds => ?_
    cases holds
  | integer given => by
    rw [isWritable, decide_eq_true_iff, Nat.length_toDigits_le_iff (by decide) (by decide)]
    constructor
    · intro short number holds
      cases holds
      exact short
    · intro writable
      exact writable given .self
  | list items => by
    rw [isWritable, allWritable_iff items]
    constructor
    · intro each number holds
      cases holds with
      | item member inside => exact each _ member number inside
    · intro writable value member number inside
      exact writable number (.item member inside)
  | record fields => by
    rw [isWritable, fieldsWritable_iff fields]
    constructor
    · intro each number holds
      cases holds with
      | field member inside => exact each _ member number inside
    · intro writable field member number inside
      exact writable number (.field member inside)

theorem allWritable_iff :
    (items : List Value) → (allWritable items = true ↔ ∀ value ∈ items, value.Writable)
  | [] => by simp [allWritable]
  | value :: rest => by
    rw [allWritable, Bool.and_eq_true, isWritable_iff value, allWritable_iff rest,
      List.forall_mem_cons]

theorem fieldsWritable_iff : (fields : List (String × Value)) →
    (fieldsWritable fields = true ↔ ∀ field ∈ fields, field.2.Writable)
  | [] => by simp [fieldsWritable]
  | (name, value) :: rest => by
    rw [fieldsWritable, Bool.and_eq_true, isWritable_iff value, fieldsWritable_iff rest,
      List.forall_mem_cons]

end

theorem toText_of_writable {raw : Value} (writable : raw.Writable) :
    raw.toText = .ok raw.render := by
  rw [toText, if_pos ((isWritable_iff raw).mpr writable)]

/-- Only an integer that is too long keeps a value from being written out. -/
theorem exists_long_of_not_writable {raw : Value} (unwritable : ¬ raw.Writable) :
    ∃ number, raw.Holds number ∧ 10 ^ Literal.mostDigits ≤ number.natAbs := by
  simpa [Writable] using unwritable

theorem toText_of_not_writable {raw : Value} (unwritable : ¬ raw.Writable) :
    raw.toText = .error .integerToText := by
  rw [toText, if_neg (mt (isWritable_iff raw).mp unwritable)]

theorem writable_boolean (given : Bool) : (boolean given).Writable :=
  (isWritable_iff _).mp rfl

theorem truthWord_boolean (given : Bool) :
    (boolean given).truthWord = if given then "true" else "false" := by
  cases given <;> decide +kernel

/-- Truth values are shown as two of the words, so the words alone decide. -/
theorem toBoolean?_eq (raw : Value) :
    raw.toBoolean? = raw.toText.map fun _ =>
      if raw.truthWord ∈ trueWords then some true
      else if raw.truthWord ∈ falseWords then some false
      else none := by
  have read : raw.toText.map truth? = raw.toText.map fun _ =>
      if raw.truthWord ∈ trueWords then some true
      else if raw.truthWord ∈ falseWords then some false
      else none := by
    by_cases writable : raw.Writable
    · rw [toText_of_writable writable]
      rfl
    · rw [toText_of_not_writable writable]
      rfl
  cases raw with
  | boolean given =>
    rw [toText_of_writable (writable_boolean given), truthWord_boolean]
    cases given <;> rfl
  | _ => exact read

theorem notMem_trueWords_of_mem_falseWords {word : String} (member : word ∈ falseWords) :
    word ∉ trueWords := by
  revert word
  decide

theorem Converts.convertLike? {default raw value : Value} (converts : Converts default raw value) :
    default.convertLike? raw = .ok (some value) := by
  cases converts with
  | truth => rfl
  | trueWord writable word =>
    rw [Value.convertLike?, toBoolean?_eq, toText_of_writable writable, if_pos word]
    rfl
  | falseWord writable word =>
    rw [Value.convertLike?, toBoolean?_eq, toText_of_writable writable,
      if_neg (notMem_trueWords_of_mem_falseWords word), if_pos word]
    rfl
  | whole => rfl
  | @wholePart asked part given finite =>
    cases given with
    | infinite negative => cases finite
    | nan => cases finite
    | finite negative significand exponent =>
      rw [Value.convertLike?, toInteger?, finite]
      · rfl
      · intro sign impossible
        cases impossible
  | wholeText read => rw [Value.convertLike?, toInteger?, read]; rfl
  | real => rfl
  | @nearest asked given inRange =>
    have finite : ∀ sign, Binary64.ofInt given ≠ .infinite sign := fun sign infinite =>
      absurd ((Binary64.ofInt_eq_infinite_iff given).mp ⟨sign, infinite⟩) (by omega)
    rw [Value.convertLike?, toFloat?]
    split
    · rename_i sign infinite
      exact absurd infinite (finite sign)
    · rfl
  | realText read => rw [Value.convertLike?, toFloat?, read]; rfl
  | shown writable =>
    rw [Value.convertLike?, toText_of_writable writable]
    rfl
  | untyped noType =>
    cases default with
    | null => rfl
    | list items => rfl
    | record fields => rfl
    | _ => cases noType

theorem converts_of_convertLike? {default raw value : Value}
    (success : default.convertLike? raw = .ok (some value)) : Converts default raw value := by
  cases default with
  | boolean asked =>
    rw [convertLike?, toBoolean?_eq] at success
    by_cases writable : raw.Writable
    · rw [toText_of_writable writable] at success
      simp only [Except.map] at success
      split at success
      · rename_i word
        cases success
        exact .trueWord writable word
      · split at success
        · rename_i word
          cases success
          exact .falseWord writable word
        · cases success
    · rw [toText_of_not_writable writable] at success
      cases success
  | integer asked =>
    cases raw with
    | integer given =>
      cases success
      exact .whole
    | float given =>
      cases given with
      | finite negative significand exponent =>
        cases success
        exact .wholePart rfl
      | _ => cases success
    | text given =>
      rw [convertLike?, toInteger?] at success
      cases read : Literal.integer? given with
      | none =>
        rw [read] at success
        cases success
      | some number =>
        rw [read] at success
        cases success
        exact .wholeText read
    | _ => cases success
  | float asked =>
    cases raw with
    | integer given =>
      rw [convertLike?, toFloat?] at success
      split at success
      · cases success
      · rename_i finite
        cases success
        refine .nearest (Nat.lt_of_not_le fun beyond => ?_)
        obtain ⟨sign, infinite⟩ := (Binary64.ofInt_eq_infinite_iff given).mpr beyond
        exact finite sign infinite
    | float given =>
      cases success
      exact .real
    | text given =>
      rw [convertLike?, toFloat?] at success
      cases read : Literal.float? given with
      | none =>
        rw [read] at success
        cases success
      | some number =>
        rw [read] at success
        cases success
        exact .realText read
    | _ => cases success
  | text asked =>
    rw [convertLike?] at success
    by_cases writable : raw.Writable
    · rw [toText_of_writable writable] at success
      cases success
      exact .shown writable
    · rw [toText_of_not_writable writable] at success
      cases success
  | _ =>
    cases success
    exact .untyped rfl

theorem convertLike?_eq_some_iff (default raw value : Value) :
    default.convertLike? raw = .ok (some value) ↔ Converts default raw value :=
  ⟨converts_of_convertLike?, Converts.convertLike?⟩

/-- What is asked for as a truth value or as a text is written out first. -/
theorem convertLike?_of_not_writable {default raw : Value}
    (read : default.scalarType? = some .boolean ∨ default.scalarType? = some .text)
    (unwritable : ¬ raw.Writable) : default.convertLike? raw = .error .integerToText := by
  cases default with
  | boolean asked =>
    rw [convertLike?, toBoolean?_eq, toText_of_not_writable unwritable]
    rfl
  | text asked =>
    rw [convertLike?, toText_of_not_writable unwritable]
    rfl
  | _ => simp [scalarType?] at read

theorem convertLike?_eq_error_iff (default raw : Value) (overflow : NumberOverflow) :
    default.convertLike? raw = .error overflow ↔ Overflows default raw overflow := by
  constructor
  · intro failure
    have written (read : default.scalarType? = some .boolean ∨ default.scalarType? = some .text)
        (unwritable : ¬ raw.Writable) : Overflows default raw overflow := by
      rw [convertLike?_of_not_writable read unwritable] at failure
      cases failure
      obtain ⟨number, holds, long⟩ := exists_long_of_not_writable unwritable
      exact .tooLong read holds long
    cases default with
    | boolean asked =>
      refine written (.inl rfl) fun writable => ?_
      rw [convertLike?, toBoolean?_eq, toText_of_writable writable] at failure
      cases failure
    | text asked =>
      refine written (.inr rfl) fun writable => ?_
      rw [convertLike?, toText_of_writable writable] at failure
      cases failure
    | integer asked =>
      cases raw with
      | float given =>
        cases given with
        | infinite negative =>
          cases failure
          exact .infinity
        | _ => cases failure
      | _ => cases failure
    | float asked =>
      cases raw with
      | integer given =>
        rw [convertLike?, toFloat?] at failure
        split at failure
        · rename_i sign infinite
          cases failure
          exact .tooLarge ((Binary64.ofInt_eq_infinite_iff given).mp ⟨sign, infinite⟩)
        · cases failure
      | _ => cases failure
    | _ => cases failure
  · intro overflows
    cases overflows with
    | infinity => rfl
    | @tooLarge asked given beyond =>
      obtain ⟨sign, infinite⟩ := (Binary64.ofInt_eq_infinite_iff given).mpr beyond
      rw [convertLike?, toFloat?, infinite]
      rfl
    | tooLong read holds long =>
      exact convertLike?_of_not_writable read fun writable =>
        absurd (writable _ holds) (Nat.not_lt_of_le long)

theorem convertLike?_eq_none_iff (default raw : Value) :
    default.convertLike? raw = .ok none ↔ PassedOver default raw := by
  constructor
  · intro none
    refine ⟨fun value converts => ?_, fun overflow overflows => ?_⟩
    · rw [← convertLike?_eq_some_iff, none] at converts
      cases converts
    · rw [← convertLike?_eq_error_iff, none] at overflows
      cases overflows
  · rintro ⟨unconverted, inRange⟩
    cases outcome : default.convertLike? raw with
    | error overflow =>
      exact absurd ((convertLike?_eq_error_iff default raw overflow).mp outcome)
        (inRange overflow)
    | ok converted =>
      cases converted with
      | none => rfl
      | some value =>
        exact absurd ((convertLike?_eq_some_iff default raw value).mp outcome)
          (unconverted value)

/-- No text is out of range for any default. -/
theorem not_overflows_text (default : Value) (given : String) (overflow : NumberOverflow) :
    ¬ Overflows default (text given) overflow := by
  intro overflows
  cases overflows with
  | tooLong read holds => cases holds

end Value
end DeclarationLint
