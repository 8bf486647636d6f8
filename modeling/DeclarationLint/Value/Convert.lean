import DeclarationLint.Value
import DeclarationLint.Number.Literal

/-!
# Converting a setting to the type of its default

A rule asks for a setting with a default, and a raw value counts only if it converts to the
type of that default. Three conversions of numbers have no answer in range and fail outright.
-/
namespace DeclarationLint

/-- A number that the target type cannot hold. -/
inductive NumberOverflow where
  | infinityToInteger
  | integerToFloat
  /-- An integer with too many digits, on its own or inside another value. -/
  | integerToText
deriving DecidableEq, Repr

def NumberOverflow.message : NumberOverflow → String
  | infinityToInteger => "cannot convert float infinity to integer"
  | integerToFloat => "int too large to convert to float"
  | integerToText => s!"Exceeds the limit ({Literal.mostDigits} digits) for integer string " ++
      "conversion; use sys.set_int_max_str_digits() to increase the limit"

namespace Value

def trueWords : List String := ["true", "yes", "1"]

def falseWords : List String := ["false", "no", "0"]

/-- One of six words in any case. Lower-casing ASCII letters is enough: no other character has a
lower-case form spelled with their letters. -/
def truth? (shown : String) : Option Bool :=
  let word := (Text.strip shown).toLower
  if word ∈ trueWords then some true
  else if word ∈ falseWords then some false
  else none

/-- The text of a value, unless an integer in it is too long to be written out. -/
def toText (value : Value) : Except NumberOverflow String :=
  if value.isWritable then .ok value.render else .error .integerToText

/-- Truth is given as a truth value or in words. -/
def toBoolean? : Value → Except NumberOverflow (Option Bool)
  | boolean value => .ok (some value)
  | other => other.toText.map truth?

def toInteger? : Value → Except NumberOverflow (Option Int)
  | integer value => .ok (some value)
  | float (.infinite _) => .error .infinityToInteger
  | float value => .ok value.truncate?
  | text value => .ok (Literal.integer? value)
  | null | boolean _ | list _ | record _ => .ok none

def toFloat? : Value → Except NumberOverflow (Option Binary64)
  | integer value =>
    match Binary64.ofInt value with
    | .infinite _ => .error .integerToFloat
    | nearest => .ok (some nearest)
  | float value => .ok (some value)
  | text value => .ok (Literal.float? value)
  | null | boolean _ | list _ | record _ => .ok none

/-- The raw value in the type of the default, if it converts. A default that is no scalar
takes every value as it is. -/
def convertLike? (default raw : Value) : Except NumberOverflow (Option Value) :=
  match default with
  | boolean _ => raw.toBoolean?.map (·.map boolean)
  | integer _ => raw.toInteger?.map (·.map integer)
  | float _ => raw.toFloat?.map (·.map float)
  | text _ => raw.toText.map fun shown => some (text shown)
  | null | list _ | record _ => .ok (some raw)

end Value
end DeclarationLint
