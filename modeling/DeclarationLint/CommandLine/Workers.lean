import DeclarationLint.CommandLine
import DeclarationLint.LintPaths.Workers

/-!
# Analyses on several workers

A request may ask for any number of workers. They take part once it is settled which files there are
and which rules are to be applied to them, and are gone when the report is printed.
-/
namespace DeclarationLint.CommandLine

/-- How an analysis may end, with as many workers as are asked for. -/
inductive Analyzes (env : Environment) (request : AnalyzeRequest) :
    Except Failure Finished → Prop where
  | refused {failure : Failure} (refusal : (prepare env.disk request).result = .error failure) :
      Analyzes env request (.error failure)
  | linted {config : Config} {paths : List Path} {result : Except Fault LintResult}
      (prepared : (prepare env.disk request).result = .ok (config, paths))
      (ran : LintsTo config env.disk env.parser request.workers paths .empty result) :
      Analyzes env request (conclude env request.format result)

end DeclarationLint.CommandLine
