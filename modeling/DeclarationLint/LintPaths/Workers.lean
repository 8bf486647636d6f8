import DeclarationLint.LintPaths
import DeclarationLint.Pool

/-!
# Linting paths on several workers

Files are read and parsed by one pool of workers. When all are done, the files that could be read
are linted by another pool. To load a file is one action, which shares what is told on the way with
the others. To lint a file is one action for each rule, and what is shared is the cache.
-/
namespace DeclarationLint

/-- A worker who loads a file tells what there is to tell behind what the others have told. -/
def loadingJobs (disk : Disk) (parser : Parser) (paths : List Path) :
    List (List (Action (List Notice) Fault ParsedFile)) :=
  paths.map fun path =>
    [fun told =>
      let loaded := ParsedFile.load disk parser path
      (told ++ loaded.entries, loaded.result.map Option.toList)]

/-- A worker who applies a rule has the cache for itself as long as it asks for the settings of its
file, and needs it for nothing else. -/
def lintingJobs (config : Config) (files : List SourceFile) :
    List (List (Action SettingsCache Fault Issue)) :=
  files.map fun file =>
    config.rules.map fun rule cache =>
      let (after, ran) := rule.run config.runSettings cache file
      (after, ran.result)

/-- What a run over paths may come to, with so many workers. One worker alone takes no pools. -/
inductive LintsTo (config : Config) (disk : Disk) (parser : Parser) (workers : Nat)
    (paths : List Path) (cache : SettingsCache) : Except Fault LintResult → Prop where
  | alone (single : workers ≤ 1) :
      LintsTo config disk parser workers paths cache
        (lintPaths config disk parser paths cache).linted.result
  | unloaded {fault : Fault} (several : 1 < workers)
      (loading : Pool.Yields workers [] (loadingJobs disk parser paths) (.error fault)) :
      LintsTo config disk parser workers paths cache (.error fault)
  | loaded {files : List ParsedFile} {result : Except Fault (List Issue)} (several : 1 < workers)
      (loading : Pool.Yields workers [] (loadingJobs disk parser paths) (.ok files))
      (linting : Pool.Yields workers cache (lintingJobs config (files.map ParsedFile.source))
        result) :
      LintsTo config disk parser workers paths cache (result.map (LintResult.ofFiles files))

end DeclarationLint
