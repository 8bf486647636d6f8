import DeclarationLint.FileSystem.Path

/-!
# File systems

A file system is a tree of directories, files, links and special files such as devices. A path is
followed from a directory name by name; links are followed where they are met, and double dots
lead to the parent of where one is by then. There are two ways to follow a path. To look up what
is there, every name on the way has to exist, every directory on the way has to be one that may be
searched, and there may not be too many links. To resolve it gives the place where it leads,
whatever is there: what cannot be looked at is taken as it is written.
-/
namespace DeclarationLint

/-- What one may do with a directory: list the names in it, and look at what stands under them. -/
structure Rights where
  list : Bool
  search : Bool
deriving DecidableEq, Repr

def Rights.all : Rights := ⟨true, true⟩

inductive FileTree where
  | file (readable : Bool) (content : List UInt8)
  /-- Neither a file nor a directory. Its content is what reading it gives. -/
  | special (readable : Bool) (content : List UInt8)
  | directory (rights : Rights) (entries : List (String × FileTree))
  | link (target : String)
deriving Repr

/-- Names from the top directory down to a place. -/
abbrev Place := List String

namespace Place

def render (place : Place) : String := "/" ++ "/".intercalate place

def toPath (place : Place) : Path := ⟨"/", place⟩

/-- Places are in order name by name, and names character by character. -/
def isAtMost (first second : Place) : Bool := !List.lex second first

/-- Where one more name leads, if no link is there. -/
def step (here : Place) (name : String) : Place :=
  if name = ".." then here.dropLast else here ++ [name]

end Place

/-- Why a path leads to no file. -/
inductive AccessError where
  | absent
  | denied
  | notADirectory
  | isADirectory
  | nameTooLong
  | tooManyLinks
  | unusable (defect : PathDefect)
deriving DecidableEq, Repr

namespace AccessError

def message : AccessError → String
  | absent => "[Errno 2] No such file or directory"
  | denied => "[Errno 13] Permission denied"
  | notADirectory => "[Errno 20] Not a directory"
  | isADirectory => "[Errno 21] Is a directory"
  | nameTooLong => "[Errno 36] File name too long"
  | tooManyLinks => "[Errno 40] Too many levels of symbolic links"
  | unusable defect => defect.message

/-- Whether it leaves open what is there. Other errors mean that nothing is. -/
def leavesOpen : AccessError → Bool
  | denied | nameTooLong => true
  | _ => false

end AccessError

namespace FileTree

def emptyDirectory : FileTree := directory .all []

/-- What stands at a place, without following links. -/
def at? : FileTree → Place → Option FileTree
  | tree, [] => some tree
  | directory _ entries, name :: rest => (entries.lookup name).bind (at? · rest)
  | _, _ :: _ => none

mutual

/-- How many links there are. -/
def links : FileTree → Nat
  | file _ _ => 0
  | special _ _ => 0
  | link _ => 1
  | directory _ entries => linksAmong entries

def linksAmong : List (String × FileTree) → Nat
  | [] => 0
  | (_, tree) :: rest => tree.links + linksAmong rest

end

mutual

/-- How many directories there are. -/
def directories : FileTree → Nat
  | file _ _ => 0
  | special _ _ => 0
  | link _ => 0
  | directory _ entries => directoriesAmong entries + 1

def directoriesAmong : List (String × FileTree) → Nat
  | [] => 0
  | (_, tree) :: rest => tree.directories + directoriesAmong rest

end

theorem directoriesAmong_perm {first second : List (String × FileTree)}
    (same : first.Perm second) : directoriesAmong first = directoriesAmong second := by
  induction same with
  | nil => rfl
  | cons entry _ ih => rw [directoriesAmong, directoriesAmong, ih]
  | swap entry other rest =>
    simp only [directoriesAmong]
    omega
  | trans _ _ ihFirst ihSecond => exact ihFirst.trans ihSecond

/-- How many links one path may lead through when a file is looked for. -/
def mostLinks : Nat := 40

/-- How many bytes a name may have. -/
def longestName : Nat := 255

/-- The names that the target of a link leads through. A single dot among them, or a slash at
the end, is a step of its own, which only a directory allows. -/
def stepsOf (target : String) : List String :=
  (Text.pieces '/' target).filter (· ≠ "") ++
    (if target.toList.getLast? = some '/' then ["."] else [])

/-- Where the target of a link starts. -/
def startOf (target : String) (here : Place) : Place :=
  if (Path.parse target).isAbsolute then [] else here

/-- What names lead to from a place. Every name on the way has to be there, under a directory that
may be searched. A link at the end is followed too, if asked for. -/
def lookUp (tree : FileTree) (follows : Bool) (links : Nat) (here : Place) :
    List String → Except AccessError FileTree
  | [] => match tree.at? here with
    | some found => .ok found
    | none => .error .absent
  | name :: rest =>
    match tree.at? here with
    | some (.directory rights _) =>
      if rights.search = false then .error .denied
      else if name = ".." then tree.lookUp follows links here.dropLast rest
      else if name = "." then tree.lookUp follows links here rest
      else
        match tree.at? (here ++ [name]), links with
        | none, _ => .error (if longestName < name.utf8ByteSize then .nameTooLong else .absent)
        | some (.link target), links =>
          if rest = [] ∧ follows = false then .ok (.link target)
          else
            match links with
            | 0 => .error .tooManyLinks
            | fewer + 1 => tree.lookUp follows fewer (startOf target here) (stepsOf target ++ rest)
        | some _, links => tree.lookUp follows links (here ++ [name]) rest
    | some _ => .error .notADirectory
    | none => .error .absent
termination_by names => (links, names.length)

end FileTree

/-- A file system and the directory in which one works. -/
structure Disk where
  tree : FileTree
  directory : Place
deriving Repr

namespace Disk

/-- Where relative paths start. -/
def base (disk : Disk) (path : Path) : Place :=
  if path.isAbsolute then [] else disk.directory

/-- How many bytes a whole path may have. -/
def longestPath : Nat := 4095

def lookUp (disk : Disk) (follows : Bool) (path : Path) : Except AccessError FileTree :=
  match path.defect? with
  | some defect => .error (.unusable defect)
  | none =>
    if longestPath < path.render.utf8ByteSize then .error .nameTooLong
    else disk.tree.lookUp follows FileTree.mostLinks (disk.base path) path.steps

/-- What a path leads to. -/
def locate (disk : Disk) (path : Path) : Except AccessError FileTree := disk.lookUp true path

/-- What stands at the end of a path, a link not followed. -/
def lookAt (disk : Disk) (path : Path) : Except AccessError FileTree := disk.lookUp false path

def read (disk : Disk) (path : Path) : Except AccessError (List UInt8) :=
  match disk.locate path with
  | .ok (.file readable content) | .ok (.special readable content) =>
    if readable then .ok content else .error .denied
  | .ok (.directory rights _) => .error (if rights.list then .isADirectory else .denied)
  | .ok (.link _) => .error .tooManyLinks
  | .error error => .error error

/-- Where names lead from a path, whether or not anything is there. Links are followed where they
can be looked at. The target of a link may lead through further links, down to a depth. -/
def follow (disk : Disk) (depth : Nat) (here : Path) : List String → Path
  | [] => here
  | name :: rest =>
    if name = ".." then disk.follow depth here.parent rest
    else
      match disk.lookAt (here.child name), depth with
      | .ok (.link target), inner + 1 =>
        let found :=
          disk.follow inner ((Path.parse target).startFrom here) (Path.parse target).names
        disk.follow (inner + 1) found rest
      | _, depth => disk.follow depth (here.child name) rest
termination_by names => (depth, names.length)

/-- The place that a path stands for, as far as its names tell. -/
def placeOf (disk : Disk) (path : Path) : Place :=
  path.names.foldl Place.step (disk.base path)

/-- The place that a path leads to. Links that lead back to themselves apart, no link leads through
more links than there are. -/
def resolve (disk : Disk) (path : Path) : Place :=
  disk.placeOf (disk.follow disk.tree.links (path.startFrom .current) path.names)

end Disk
end DeclarationLint
