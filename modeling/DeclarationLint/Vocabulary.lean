import DeclarationLint.Value

/-!
# Vocabularies

Several types are closed lists of words that the program reads and writes.
-/
namespace DeclarationLint

class Vocabulary (α : Type) where
  title : String
  all : List α
  word : α → String

/-- A value that is no word of the vocabulary it was read in. -/
structure UnknownWord where
  value : Value
  title : String
deriving Repr

def UnknownWord.message (error : UnknownWord) : String :=
  error.value.inner ++ " is not a valid " ++ error.title

namespace Vocabulary

variable {α : Type} [Vocabulary α]

def ofWord? (text : String) : Option α :=
  (all : List α).find? fun item => word item = text

/-- Only texts can be words. -/
def ofValue? : Value → Option α
  | .text text => ofWord? text
  | _ => none

def read (value : Value) : Except UnknownWord α :=
  match ofValue? value with
  | some item => .ok item
  | none => .error ⟨value, title α⟩

end Vocabulary
end DeclarationLint
