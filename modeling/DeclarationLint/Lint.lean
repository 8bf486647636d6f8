import DeclarationLint.Config

/-!
# Linting files

Every rule of a configuration on every file, with one cache for all. The cache is handed on
from rule to rule and from file to file; the first fault ends the run, and the cache that it
leaves is as good as any other.
-/
namespace DeclarationLint

/-- A stage of a run: it takes the cache, leaves the cache, and gives issues or a fault. -/
abbrev Stage := SettingsCache → SettingsCache × Journal Event Fault (List Issue)

/-- Carries out stages one after the other and puts their issues together. -/
def runStages : List Stage → Stage
  | [], cache => (cache, pure [])
  | stage :: rest, cache =>
    match stage cache with
    | (after, ⟨events, .error fault⟩) => (after, ⟨events, .error fault⟩)
    | (after, ⟨events, .ok issues⟩) =>
      let (last, others) := runStages rest after
      (last, ⟨events ++ others.entries, others.result.map (issues ++ ·)⟩)

def lintFile (config : Config) (file : SourceFile) : Stage :=
  runStages (config.rules.map fun rule cache => rule.run config.runSettings cache file)

def lintFiles (config : Config) (files : List SourceFile) : Stage :=
  runStages (files.map (lintFile config))

end DeclarationLint
