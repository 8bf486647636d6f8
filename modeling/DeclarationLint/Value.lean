import DeclarationLint.Number.Literal
import DeclarationLint.Number.Shortest
import DeclarationLint.Text.Quoted

/-!
# Values

What a configuration entry or a document may hold, and how it is shown in a message. Integers have
a text only up to the number of digits that one can be read with.
-/
namespace DeclarationLint

inductive Value where
  | null
  | boolean (value : Bool)
  | integer (value : Int)
  | float (value : Binary64)
  | text (value : String)
  | list (items : List Value)
  | record (fields : List (String × Value))
deriving Repr, Inhabited

namespace Value

/-- The text of a value that stands alone. -/
def atom : Value → String
  | null => "None"
  | boolean value => if value then "True" else "False"
  | integer value => toString value
  | float value => value.render
  | text value => Text.quoted value
  | list _ | record _ => ""

mutual

/-- A value as it is shown inside another one or in a message: texts are quoted there. -/
def inner : Value → String
  | list items => "[" ++ ", ".intercalate (innerAll items) ++ "]"
  | record fields => "\x7b" ++ ", ".intercalate (innerFields fields) ++ "\x7d"
  | other => other.atom

def innerAll : List Value → List String
  | [] => []
  | value :: rest => inner value :: innerAll rest

def innerFields : List (String × Value) → List String
  | [] => []
  | (name, value) :: rest => (Text.quoted name ++ ": " ++ inner value) :: innerFields rest

end

/-- A value as it is shown on its own: a text is shown as it is. -/
def render : Value → String
  | text value => value
  | other => other.inner

mutual

/-- Whether the integers in a value have few enough digits for the value to be written out. -/
def isWritable : Value → Bool
  | integer value => (Nat.toDigits 10 value.natAbs).length ≤ Literal.mostDigits
  | list items => allWritable items
  | record fields => fieldsWritable fields
  | null | boolean _ | float _ | text _ => true

def allWritable : List Value → Bool
  | [] => true
  | value :: rest => value.isWritable && allWritable rest

def fieldsWritable : List (String × Value) → Bool
  | [] => true
  | (_, value) :: rest => value.isWritable && fieldsWritable rest

end

/-- The entry under a name; a repeated name means its last entry. -/
def field? (name : String) : List (String × Value) → Option Value
  | [] => none
  | (key, value) :: rest =>
    match field? name rest with
    | some later => some later
    | none => if key = name then some value else none

end Value
end DeclarationLint
