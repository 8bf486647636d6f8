import DeclarationLint.Number.WholeNumber
import DeclarationLint.Vocabulary

/-!
# Reading records

Documents come as values, and every type that can be read from one says which fields it
needs. A reading does not stop at the first problem: it finds all of them, in the order of
the fields, each with the path that leads to it.
-/
namespace DeclarationLint

inductive PathStep where
  | field (name : String)
  | item (index : Nat)
deriving DecidableEq, Repr

inductive ProblemKind where
  | missing
  | notARecord
  | notAList
  | notAWord
  | notAText
  | notAnInteger
  | unreadableInteger
  | oversizedInteger
  | fractionalInteger
  | notFinite
  | nestedTooDeep
deriving DecidableEq, Repr

def ProblemKind.code : ProblemKind → String
  | missing => "missing"
  | notARecord => "model_type"
  | notAList => "list_type"
  | notAWord => "enum"
  | notAText => "string_type"
  | notAnInteger => "int_type"
  | unreadableInteger => "int_parsing"
  | oversizedInteger => "int_parsing_size"
  | fractionalInteger => "int_from_float"
  | notFinite => "finite_number"
  | nestedTooDeep => "recursion_loop"

structure Problem where
  kind : ProblemKind
  path : List PathStep
deriving DecidableEq, Repr

/-- Something read from a document, or everything that is wrong with it. -/
structure Checked (α : Type) where
  result : Except (List Problem) α

namespace Checked

variable {α β : Type}

def problem (kind : ProblemKind) : Checked α := ⟨.error [⟨kind, []⟩]⟩

/-- Both readings are carried out, and the problems of both are kept. -/
protected def seq (function : Checked (α → β)) (argument : Checked α) : Checked β :=
  match function.result, argument.result with
  | .ok f, .ok a => ⟨.ok (f a)⟩
  | .ok _, .error problems => ⟨.error problems⟩
  | .error problems, .ok _ => ⟨.error problems⟩
  | .error first, .error second => ⟨.error (first ++ second)⟩

instance : Applicative Checked where
  pure value := ⟨.ok value⟩
  seq function argument := Checked.seq function (argument ())

/-- Says where the problems of a reading are. -/
def under (step : PathStep) (checked : Checked α) : Checked α :=
  match checked.result with
  | .ok value => ⟨.ok value⟩
  | .error problems => ⟨.error (problems.map fun problem =>
      { problem with path := step :: problem.path })⟩

end Checked

namespace Value

theorem sizeOf_field?_lt {name : String} {fields : List (String × Value)} {value : Value}
    (found : field? name fields = some value) : sizeOf value < sizeOf fields := by
  induction fields with
  | nil => simp [field?] at found
  | cons head rest ih =>
    obtain ⟨key, first⟩ := head
    simp only [field?] at found
    simp only [List.cons.sizeOf_spec, Prod.mk.sizeOf_spec]
    split at found
    · rename_i later equal
      have smaller := ih (equal.trans found)
      omega
    · split at found
      · cases found
        omega
      · cases found

end Value

namespace Schema

variable {α : Type}

def text : Value → Checked String
  | .text value => pure value
  | _ => .problem .notAText

def word [Vocabulary α] (value : Value) : Checked α :=
  match Vocabulary.read value with
  | .ok item => pure item
  | .error _ => .problem .notAWord

def integerText (text : String) : Checked Int :=
  match WholeNumber.read text with
  | .ok whole => pure whole
  | .error .unreadable => .problem .unreadableInteger
  | .error .tooLong => .problem .oversizedInteger

/-- Floating point numbers are taken for integers within the range of 64 bits, ends excluded. -/
def integerBound : Int := Int.pow 2 63

def integerFloat (value : Binary64) : Checked Int :=
  match value.truncate? with
  | none => .problem .notFinite
  | some whole =>
    if !value.isIntegral then .problem .fractionalInteger
    else if -integerBound < whole ∧ whole < integerBound then pure whole
    else .problem .oversizedInteger

/-- Integers may be given as truth values, as numbers without a fraction, and as text. -/
def integer : Value → Checked Int
  | .integer value => pure value
  | .boolean value => pure (if value then 1 else 0)
  | .float value => integerFloat value
  | .text value => integerText value
  | _ => .problem .notAnInteger

/-- Reads a value that may be null. -/
def nullable (read : Value → Checked α) : Value → Checked (Option α)
  | .null => pure none
  | value => some <$> read value

/-- Reads a field, with the proof that its value is smaller than the record. -/
def field (name : String) (fields : List (String × Value)) (absent : Checked α)
    (read : (value : Value) → sizeOf value < sizeOf fields → Checked α) : Checked α :=
  match found : Value.field? name fields with
  | none => absent
  | some value => (read value (Value.sizeOf_field?_lt found)).under (.field name)

def required (name : String) (fields : List (String × Value)) (read : Value → Checked α) :
    Checked α :=
  field name fields (.under (.field name) (.problem .missing)) fun value _ => read value

def optional (name : String) (fields : List (String × Value)) (default : α)
    (read : Value → Checked α) : Checked α :=
  field name fields (pure default) fun value _ => read value

/-- Reads the items of a list from an index on. -/
def items (index : Nat) : (values : List Value) →
    ((value : Value) → sizeOf value < sizeOf values → Checked α) → Checked (List α)
  | [], _ => pure []
  | value :: rest, read =>
    List.cons <$>
      (read value (by simp only [List.cons.sizeOf_spec]; omega)).under (.item index) <*>
      items (index + 1) rest fun later smaller =>
        read later (by simp only [List.cons.sizeOf_spec]; omega)

/-- Reads a list, with the proof that its items are smaller. -/
def list (value : Value)
    (read : (item : Value) → sizeOf item < sizeOf value → Checked α) : Checked (List α) :=
  match value with
  | .list values => items 0 values fun item smaller =>
      read item (by simp only [Value.list.sizeOf_spec]; omega)
  | _ => .problem .notAList

def listOf (read : Value → Checked α) (value : Value) : Checked (List α) :=
  list value fun item _ => read item

/-- Reads a record by its fields. -/
def record (read : List (String × Value) → Checked α) : Value → Checked α
  | .record fields => read fields
  | _ => .problem .notARecord

/-- How deep records may stand in each other. -/
def deepest : Nat := 255

/-- Reads what stands at a depth. Nothing is read below the deepest level. -/
def atDepth (depth : Nat) (reading : Checked α) : Checked α :=
  if depth ≤ deepest then reading else .problem .nestedTooDeep

end Schema
end DeclarationLint
