import DeclarationLint.FileSystem.Discovery
import DeclarationLint.Lint
import DeclarationLint.SyntaxTree.SourceFile

/-!
# Linting paths

Files are read and parsed one after the other, then linted together. A file that cannot be
read is skipped with a notice; a file that can be parsed only in part is linted all the same;
a tree that lacks what it has to have ends the run, and so does a text that is no path.
-/
namespace DeclarationLint

/-- What turns the content of a file into a syntax tree. It never fails: what it cannot parse
it marks in the tree. -/
abbrev Parser := List UInt8 → SyntaxTree

/-- A file that was read and parsed. -/
structure ParsedFile where
  source : SourceFile
  hasParseErrors : Bool
deriving Repr

namespace ParsedFile

/-- Reads and parses a file. Its path as given is its identifier. -/
def load (disk : Disk) (parser : Parser) (path : Path) :
    Journal Notice Fault (Option ParsedFile) :=
  match disk.read path with
  | .error (.unusable defect) => Journal.fail (.unusablePath defect)
  | .error error => do
    Journal.write (.unreadable path.render error)
    pure none
  | .ok content => do
    let tree := parser content
    let source ← Journal.ofExcept
      ((tree.toSourceFile path.render content).mapError Fault.malformedTree)
    pure (some ⟨source, tree.hasError⟩)

/-- All files that can be read, in order. -/
def loadAll (disk : Disk) (parser : Parser) (paths : List Path) :
    Journal Notice Fault (List ParsedFile) := do
  let loaded ← paths.mapM (load disk parser)
  pure loaded.reduceOption

end ParsedFile

structure LintResult where
  issues : List Issue
  numberOfFiles : Nat
  /-- The files that were parsed only in part. -/
  filesWithParseErrors : List String
deriving Repr

/-- What a run over these files comes to, with the issues found in them. -/
def LintResult.ofFiles (files : List ParsedFile) (issues : List Issue) : LintResult where
  issues := issues
  numberOfFiles := files.length
  filesWithParseErrors := (files.filter ParsedFile.hasParseErrors).map (·.source.identifier)

/-- How a run over paths went: what it told on the way, the cache it left, and its result. -/
structure PathsRun where
  notices : List Notice
  cache : SettingsCache
  linted : Journal Event Fault LintResult

def lintPaths (config : Config) (disk : Disk) (parser : Parser) (paths : List Path)
    (cache : SettingsCache) : PathsRun :=
  let loaded := ParsedFile.loadAll disk parser paths
  match loaded.result with
  | .error fault => ⟨loaded.entries, cache, Journal.fail fault⟩
  | .ok files =>
    let (after, linted) := lintFiles config (files.map ParsedFile.source) cache
    ⟨loaded.entries, after, ⟨linted.entries, linted.result.map (LintResult.ofFiles files)⟩⟩

end DeclarationLint
