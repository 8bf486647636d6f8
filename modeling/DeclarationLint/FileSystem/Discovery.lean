import DeclarationLint.FileSystem
import DeclarationLint.Journal
import DeclarationLint.Text.Quoted

/-!
# Finding source files

A directory stands for all C files below it, in the order of their paths name by name. Links
are not followed, and directories with names that are usual for generated or foreign code are
not entered. A directory that cannot be listed is passed over with a notice, but an entry that
cannot be looked at ends the search. A file stands for itself.
-/
namespace DeclarationLint

/-- Something that is worth telling and stops nothing. -/
inductive Notice where
  | noSources (target : String)
  | unlistable (path : String)
  | unreadable (path : String) (error : AccessError)
deriving DecidableEq, Repr

namespace Notice

def level : Notice → String
  | noSources _ | unlistable _ => "WARNING"
  | unreadable _ _ => "ERROR"

/-- The part of the program that gives the notice. -/
def channel : Notice → String
  | noSources _ | unlistable _ => "declint.traversal"
  | unreadable _ _ => "declint.context"

def message : Notice → String
  | noSources target => "No C files found under " ++ target
  | unlistable path =>
    s!"Cannot read directory {path}: {AccessError.denied.message}: {Text.quoted path}"
  | unreadable path error =>
    s!"Failed to read file {path}: {error.message}: {Text.quoted path}"

end Notice

inductive DiscoveryError where
  | missingRoot (place : Place)
  | rootNotADirectory (place : Place)
  | linkLoop (place : Place)
  | missingTarget (target : String)
  | inaccessible (path : String) (error : AccessError)
  | unusablePath (defect : PathDefect)
deriving DecidableEq, Repr

def DiscoveryError.message : DiscoveryError → String
  | missingRoot place => "Root directory does not exist: " ++ place.render
  | rootNotADirectory place => "Root path is not a directory: " ++ place.render
  | linkLoop place => "Symlink loop from " ++ Text.quoted place.render
  | missingTarget target => "Target path is neither a file nor a directory: " ++ target
  | inaccessible path error => s!"{error.message}: {Text.quoted path}"
  | unusablePath defect => defect.message

namespace Discovery

/-- Build output, dependencies, version control and tools. -/
def defaultIgnored : List String :=
  ["build", "Build", "dist", "out", "bin", "obj",
   "node_modules", "vendor", "third_party", "external", "deps",
   ".git", ".svn", ".hg",
   ".vscode", ".idea", "venv", ".venv", "__pycache__", ".cache"]

structure Options where
  headers : Bool
  ignored : List String
deriving DecidableEq, Repr

def Options.standard (headers : Bool) : Options := ⟨headers, defaultIgnored⟩

/-- The order in which directories list their entries, which may be any. -/
structure Listing where
  order : Place → List (String × FileTree) → List (String × FileTree)
  perm (here : Place) (entries : List (String × FileTree)) : (order here entries).Perm entries

/-- Entries come in the order in which the tree has them. -/
def Listing.stored : Listing := ⟨fun _ entries => entries, fun _ _ => .refl _⟩

/-- A directory that is still to be read. -/
structure OpenDirectory where
  place : Place
  rights : Rights
  entries : List (String × FileTree)

/-- Why an entry of a directory with these rights cannot be looked at, if it cannot. -/
def barrier? (rights : Rights) (place : Place) : Option AccessError :=
  if Disk.longestPath < place.toPath.render.utf8ByteSize then some .nameTooLong
  else if rights.search then none
  else some .denied

/-- A search on its way. -/
structure Search where
  /-- What is still to be read, the next directory in front. -/
  pending : List OpenDirectory
  found : List Place

namespace Search

/-- Takes one entry of a directory into account. Links and special files are passed over, and
directories are read later. -/
def take (options : Options) (here : Place) (search : Search) : String × FileTree → Search
  | (_, .link _) | (_, .special _ _) => search
  | (name, .directory rights entries) =>
    if name ∈ options.ignored then search
    else { search with pending := ⟨here ++ [name], rights, entries⟩ :: search.pending }
  | (name, .file _ _) =>
    if isSourceName options.headers name then
      { search with found := (here ++ [name]) :: search.found }
    else search

/-- Looks at one entry of a directory, which ends the search if it cannot be looked at. -/
def visit (options : Options) (directory : OpenDirectory) (search : Search)
    (entry : String × FileTree) : Except DiscoveryError Search :=
  let place := directory.place ++ [entry.1]
  match barrier? directory.rights place with
  | some error => .error (.inaccessible place.render error)
  | none => .ok (take options directory.place search entry)

def visitAll (options : Options) (directory : OpenDirectory)
    (entries : List (String × FileTree)) (search : Search) : Except DiscoveryError Search :=
  entries.foldlM (visit options directory) search

/-- How many directories may still be read: the pending ones and all below them. -/
def left (search : Search) : Nat :=
  search.pending.foldr (fun next more => FileTree.directoriesAmong next.entries + 1 + more) 0

theorem left_take_le (options : Options) (here : Place) (search : Search)
    (entry : String × FileTree) :
    (take options here search entry).left ≤ search.left + entry.2.directories := by
  obtain ⟨name, tree⟩ := entry
  cases tree with
  | link | special => simp [take]
  | file =>
    rw [take]
    split <;> simp [left]
  | directory rights entries =>
    rw [take]
    split
    · simp
    · simp [left, FileTree.directories]
      omega

theorem left_visitAll_le {options : Options} {directory : OpenDirectory}
    {entries : List (String × FileTree)} {search after : Search}
    (visited : visitAll options directory entries search = .ok after) :
    after.left ≤ search.left + FileTree.directoriesAmong entries := by
  induction entries generalizing search with
  | nil =>
    obtain rfl := Except.ok.inj visited
    exact Nat.le_add_right _ _
  | cons entry rest ih =>
    rw [visitAll, List.foldlM_cons, visit] at visited
    cases barrier : barrier? directory.rights (directory.place ++ [entry.1]) with
    | some error =>
      simp only [barrier] at visited
      cases visited
    | none =>
      simp only [barrier] at visited
      have first := left_take_le options directory.place search entry
      have others := ih visited
      rw [FileTree.directoriesAmong]
      omega

theorem left_cons (next : OpenDirectory) (rest : List OpenDirectory) (found : List Place) :
    left ⟨next :: rest, found⟩ =
      FileTree.directoriesAmong next.entries + 1 + left ⟨rest, found⟩ := by
  simp [left]

/-- Reads the pending directories until none is left. One that cannot be listed is passed over. -/
def run (listing : Listing) (options : Options) :
    Search → Journal Notice DiscoveryError (List Place)
  | ⟨[], found⟩ => pure found
  | ⟨next :: rest, found⟩ =>
    if next.rights.list then
      match _visited : visitAll options next (listing.order next.place next.entries)
          ⟨rest, found⟩ with
      | .error error => Journal.fail error
      | .ok search => run listing options search
    else do
      Journal.write (.unlistable next.place.render)
      run listing options ⟨rest, found⟩
termination_by search => search.left
decreasing_by
  · have added := left_visitAll_le _visited
    rw [FileTree.directoriesAmong_perm (listing.perm next.place next.entries)] at added
    have held := left_cons next rest found
    omega
  · have held := left_cons next rest found
    omega

end Search

/-- Why nothing can be searched at the place to which a root leads. -/
def rootError (place : Place) : AccessError → DiscoveryError
  | .tooManyLinks => .linkLoop place
  | error =>
    if error.leavesOpen then .inaccessible place.render error else .missingRoot place

/-- All C files below a directory, in order. -/
def findListed (listing : Listing) (options : Options) (disk : Disk) (root : Path) :
    Journal Notice DiscoveryError (List Place) :=
  match root.defect? with
  | some defect => Journal.fail (.unusablePath defect)
  | none =>
    let place := disk.resolve root
    match disk.locate place.toPath with
    | .ok (.directory rights entries) => do
      let found ← Search.run listing options ⟨[⟨place, rights, entries⟩], []⟩
      pure (found.mergeSort Place.isAtMost)
    | .ok _ => Journal.fail (.rootNotADirectory place)
    | .error error => Journal.fail (rootError place error)

def find (options : Options) (disk : Disk) (root : Path) :
    Journal Notice DiscoveryError (List Place) :=
  findListed .stored options disk root

/-- The files that one target stands for. -/
def expand (options : Options) (disk : Disk) (target : Path) :
    Journal Notice DiscoveryError (List Place) :=
  match disk.locate target with
  | .ok (.directory _ _) => do
    let found ← find options disk target
    if found = [] then Journal.write (.noSources target.render)
    pure found
  | .ok (.file _ _) => pure [disk.resolve target]
  | .ok _ => Journal.fail (.missingTarget target.render)
  | .error error =>
    Journal.fail
      (if error.leavesOpen then .inaccessible target.render error
      else .missingTarget target.render)

/-- Puts files behind those that are there already, except for those among them. -/
def addNew (files found : List Place) : List Place :=
  found.foldl (fun files place => if place ∈ files then files else files ++ [place]) files

def gather (options : Options) (disk : Disk) (files : List Place) (target : Path) :
    Journal Notice DiscoveryError (List Place) := do
  let found ← expand options disk target
  pure (addNew files found)

/-- The files that targets stand for, each once, where it first occurs. -/
def collect (options : Options) (disk : Disk) (targets : List Path) :
    Journal Notice DiscoveryError (List Place) :=
  targets.foldlM (gather options disk) []

end Discovery
end DeclarationLint
