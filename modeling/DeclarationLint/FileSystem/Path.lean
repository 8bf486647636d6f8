import DeclarationLint.Text.Pieces

/-!
# Paths

A path is a list of names under an anchor. Empty names and single dots do not count; double
dots stay, because where they lead depends on links.
-/
namespace DeclarationLint

/-- What makes a text no path at all. -/
inductive PathDefect where
  | nulCharacter
deriving DecidableEq, Repr

def PathDefect.message : PathDefect → String
  | nulCharacter => "embedded null byte"

structure Path where
  /-- Nothing for a relative path, otherwise one slash or two. -/
  anchor : String
  names : List String
deriving DecidableEq, Repr

namespace Path

/-- Exactly two leading slashes are kept apart from one; more are as good as one. -/
def anchorOf (text : List Char) : String :=
  match (text.takeWhile (· = '/')).length with
  | 0 => ""
  | 2 => "//"
  | _ => "/"

def parse (text : String) : Path :=
  ⟨anchorOf text.toList, (Text.pieces '/' text).filter fun name => name ≠ "" ∧ name ≠ "."⟩

def isAbsolute (path : Path) : Bool := path.anchor ≠ ""

def render (path : Path) : String :=
  if path.anchor = "" ∧ path.names = [] then "."
  else path.anchor ++ "/".intercalate path.names

/-- The top directory. -/
def top : Path := ⟨"/", []⟩

/-- The path of the directory in which one works. -/
def current : Path := ⟨"", []⟩

/-- Where the names of a path start, if it is met at another path. -/
def startFrom (path here : Path) : Path := if path.isAbsolute then top else here

def child (path : Path) (name : String) : Path := { path with names := path.names ++ [name] }

/-- Where double dots lead from a path, as far as its names tell. -/
def parent (path : Path) : Path :=
  if path.isAbsolute then { path with names := path.names.dropLast }
  else
    match path.names.getLast? with
    | none | some ".." => path.child ".."
    | some _ => { path with names := path.names.dropLast }

/-- The names that a path leads through. No names at all still take one step, which stays. -/
def steps (path : Path) : List String :=
  if path.isAbsolute ∨ path.names ≠ [] then path.names else ["."]

/-- Names cannot hold the character that ends texts in the file system. -/
def defect? (path : Path) : Option PathDefect :=
  if path.names.any fun name => name.toList.contains '\x00' then some .nulCharacter else none

/-- The end of a name from its last dot, unless that dot is its first or last character. -/
def suffixOf (name : String) : String :=
  let ending := name.toList.reverse.takeWhile (· ≠ '.')
  if ending = [] ∨ name.length ≤ ending.length + 1 then ""
  else String.ofList ('.' :: ending.reverse)

def suffix (path : Path) : String :=
  match path.names.getLast? with
  | none => ""
  | some name => suffixOf name

end Path

def sourceSuffix : String := ".c"

def headerSuffix : String := ".h"

/-- Whether a name is that of a C file. Lower-casing ASCII letters is enough for the two
suffixes. -/
def isSourceName (headers : Bool) (name : String) : Bool :=
  let suffix := (Path.suffixOf name).toLower
  suffix = sourceSuffix || (headers && suffix = headerSuffix)

def Path.isSource (headers : Bool) (path : Path) : Bool :=
  path.names.getLast?.any (isSourceName headers)

end DeclarationLint
