import DeclarationLint.LintPaths
import DeclarationLint.Number.Literal

/-!
# Snapshots

A project as the linter sees it: directories, files and links, and the syntax tree that the
parser made of each content. Snapshots are written line by line, the parts of a line divided
by tabs:

* `cwd`, then the path of the directory to work in;
* `dir`, then a path, and what one may do with the directory unless that is everything: `l` for
  listing it and `s` for searching it;
* `link`, then a path and the target as the link has it;
* `file`, then a path and the content as hexadecimal bytes;
* `locked`, then the same for a file that may not be read;
* `special`, then a path, for what is neither a file nor a directory;
* `node`, for the file before it: the depth in the tree, the type, `1` if the node is named,
  its field or nothing, the rows and columns where it starts and stops, and its byte range,
  parents before children;
* `broken`, if the file before it could be parsed only in part.
-/
namespace DeclarationLint

/-- Syntax trees belong to contents: two files of one content have one tree. -/
structure Snapshot where
  /-- The path of the directory to work in, from the top. -/
  directory : Path
  tree : FileTree
  parsed : List (List UInt8 × SyntaxTree)

namespace FileTree

/-- Replaces the entry of a name, or adds one. -/
def putEntry (name : String) (tree : FileTree) :
    List (String × FileTree) → List (String × FileTree)
  | [] => [(name, tree)]
  | (other, old) :: rest =>
    if other = name then (name, tree) :: rest else (other, old) :: putEntry name tree rest

/-- Puts a tree at a place and makes the directories on the way. -/
def put : FileTree → Place → FileTree → FileTree
  | _, [], tree => tree
  | directory rights entries, name :: rest, tree =>
    directory rights
      (putEntry name (((entries.lookup name).getD emptyDirectory).put rest tree) entries)
  | other, _ :: _, _ => other

/-- Where something is written: links are followed, except that a link takes the place of
whatever its last name is. -/
def destination (tree : FileTree) (names : List String) : FileTree → Place
  | link _ => Disk.resolve ⟨tree, []⟩ ⟨"/", names.dropLast⟩ ++ names.getLast?.toList
  | _ => Disk.resolve ⟨tree, []⟩ ⟨"/", names⟩

/-- Writes a tree to where names lead. A directory that is there already keeps its entries. -/
def add (tree : FileTree) (names : List String) (added : FileTree) : FileTree :=
  let place := tree.destination names added
  match added, tree.at? place with
  | directory rights _, some (directory _ entries) => tree.put place (directory rights entries)
  | _, _ => tree.put place added

end FileTree

namespace Snapshot

def empty : Snapshot := ⟨⟨"/", []⟩, .emptyDirectory, []⟩

/-- One works in the place that the path leads to, even if it leads there through links. -/
def disk (snapshot : Snapshot) : Disk :=
  ⟨snapshot.tree, Disk.resolve ⟨snapshot.tree, []⟩ snapshot.directory⟩

/-- A content without a tree parses to nothing at all. -/
def parser (snapshot : Snapshot) : Parser := fun content =>
  match snapshot.parsed.find? fun known => known.1 = content with
  | some known => known.2
  | none => .empty

def add (snapshot : Snapshot) (names : List String) (tree : FileTree) : Snapshot :=
  { snapshot with tree := snapshot.tree.add names tree }

def addParsed (snapshot : Snapshot) (content : List UInt8) (tree : SyntaxTree) : Snapshot :=
  { snapshot with parsed := (content, tree) :: snapshot.parsed }

def hexDigit? (c : Char) : Option Nat :=
  if c.isDigit then some (c.toNat - '0'.toNat)
  else if 'a' ≤ c ∧ c ≤ 'f' then some (c.toNat - 'a'.toNat + 10)
  else if 'A' ≤ c ∧ c ≤ 'F' then some (c.toNat - 'A'.toNat + 10)
  else none

/-- The bytes of a text of hexadecimal digits, two to a byte. -/
def hexBytes? : List Char → Option (List UInt8)
  | [] => some []
  | [_] => none
  | high :: low :: rest => do
    let first ← hexDigit? high
    let second ← hexDigit? low
    let bytes ← hexBytes? rest
    some ((first * 16 + second).toUInt8 :: bytes)

/-- A node with its depth, and with the children that have been found for it. -/
structure Placed where
  depth : Nat
  node : Node

/-- Gives every node the deeper nodes that follow it as descendants. -/
def nest (placed : List Placed) : List Placed :=
  placed.foldr (fun parent following =>
    let inside := following.takeWhile fun later => parent.depth < later.depth
    let outside := following.dropWhile fun later => parent.depth < later.depth
    ⟨parent.depth, { parent.node with children := inside.map Placed.node }⟩ :: outside) []

/-- One line of a snapshot. -/
inductive Line where
  | directory (path : String)
  | entry (path : String) (tree : FileTree)
  | file (path : String) (readable : Bool) (content : List UInt8)
  | node (placed : Placed)
  | broken

def natural? (text : String) : Option Nat := Literal.natural? text.toList

def node? : List String → Option Placed
  | [depth, type, named, field, row, column, stopRow, stopColumn, first, last] => do
    some ⟨← natural? depth,
      { type := type
        named := named = "1"
        field := if field = "" then none else some field
        start := ⟨← natural? row, ← natural? column⟩
        stop := ⟨← natural? stopRow, ← natural? stopColumn⟩
        firstByte := ← natural? first
        endByte := ← natural? last
        children := [] }⟩
  | _ => none

def line? (text : String) : Option Line :=
  match Text.pieces '\t' text with
  | ["cwd", path] => some (.directory path)
  | ["dir", path] => some (.entry path .emptyDirectory)
  | ["dir", path, rights] =>
    some (.entry path
      (.directory ⟨rights.toList.contains 'l', rights.toList.contains 's'⟩ []))
  | ["link", path, target] => some (.entry path (.link target))
  | ["file", path, content] => (hexBytes? content.toList).map (.file path true)
  | ["locked", path, content] => (hexBytes? content.toList).map (.file path false)
  | ["special", path] => some (.entry path (.special true []))
  | "node" :: parts => (node? parts).map .node
  | ["broken"] => some .broken
  | _ => none

/-- The lines that belong to one file: its nodes, and whether it is broken. -/
def treeOf (lines : List Line) : Option SyntaxTree :=
  let placed := lines.filterMap fun
    | .node placed => some placed
    | _ => none
  let broken := lines.any fun
    | .broken => true
    | _ => false
  match nest placed with
  | [] => none
  | root :: _ => some ⟨broken, root.node⟩

def belongsToFile : Line → Bool
  | .node _ | .broken => true
  | _ => false

def namesOf (path : String) : List String := (Path.parse path).names

/-- Builds a snapshot from its lines. -/
def ofLines (snapshot : Snapshot) : List Line → Snapshot
  | [] => snapshot
  | .directory path :: rest => ofLines { snapshot with directory := .parse path } rest
  | .entry path tree :: rest => ofLines (snapshot.add (namesOf path) tree) rest
  | .file path readable content :: rest =>
    let placed := snapshot.add (namesOf path) (.file readable content)
    match treeOf (rest.takeWhile belongsToFile) with
    | some tree => ofLines (placed.addParsed content tree) rest
    | none => ofLines placed rest
  | .node _ :: rest => ofLines snapshot rest
  | .broken :: rest => ofLines snapshot rest

/-- Reads a snapshot, or says which line cannot be read, counting from one. -/
def parse (lines : List String) : Except Nat Snapshot :=
  match lines.findIdx? fun line => (line? line).isNone with
  | some index => .error (index + 1)
  | none => .ok (ofLines empty (lines.filterMap line?))

end Snapshot
end DeclarationLint
