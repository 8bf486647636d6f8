import DeclarationLint.KeyedList
import DeclarationLint.Text.Blank
import DeclarationLint.Text.Pieces
import DeclarationLint.Text.Quoted

/-!
# Overrides

Settings for a run written as `KEY=VALUE`, for instance on the command line. An item needs
exactly one equals sign and a key that is not blank; blanks around key and value do not count.
-/
namespace DeclarationLint.Overrides

/-- An item that is not of the form `KEY=VALUE`. -/
structure BadItem where
  item : String
deriving DecidableEq, Repr

def BadItem.message (error : BadItem) : String :=
  "Expected KEY=VALUE, got: " ++ Text.quoted error.item

def parseItem (item : String) : Except BadItem (String × String) :=
  match Text.pieces '=' item with
  | [key, value] =>
    if Text.strip key = "" then .error ⟨item⟩ else .ok (Text.strip key, Text.strip value)
  | _ => .error ⟨item⟩

/-- The settings of a list of items. The first bad item is reported; of two items with one
key the later value is kept at the earlier place. -/
def parse (items : List String) : Except BadItem (KeyedList String String) :=
  (items.mapM parseItem).map .ofList

end DeclarationLint.Overrides
