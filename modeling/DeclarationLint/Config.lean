import DeclarationLint.Rule.StatementCount

/-!
# Configurations

Which rules a run applies, in order, and with which settings. No two rules of a
configuration have the same identifier.
-/
namespace DeclarationLint

inductive ConfigError where
  | duplicateRule (identifier : String)
  | unknownRule (identifier : String)
deriving DecidableEq, Repr

def ConfigError.message : ConfigError → String
  | duplicateRule identifier => "Duplicate rule identifier: " ++ identifier
  | unknownRule identifier => "Unknown rule: " ++ identifier

structure Config where
  rules : List Rule
  runSettings : RunSettings
  nodup : (rules.map Rule.identifier).Nodup

/-- The first identifier that has occurred before. -/
def firstRepeated? : List String → List String → Option String
  | _, [] => none
  | seen, identifier :: rest =>
    if identifier ∈ seen then some identifier else firstRepeated? (identifier :: seen) rest

theorem firstRepeated?_eq_none {seen identifiers : List String}
    (fresh : firstRepeated? seen identifiers = none) :
    identifiers.Nodup ∧ ∀ identifier ∈ identifiers, identifier ∉ seen := by
  induction identifiers generalizing seen with
  | nil => simp
  | cons head rest ih =>
    simp only [firstRepeated?] at fresh
    split at fresh
    · cases fresh
    · rename_i absent
      obtain ⟨nodup, unseen⟩ := ih fresh
      refine ⟨List.nodup_cons.mpr ⟨fun member => ?_, nodup⟩, ?_⟩
      · exact unseen head member (by simp)
      · intro identifier member
        rcases List.mem_cons.mp member with equal | later
        · exact equal ▸ absent
        · exact fun old => unseen identifier later (by simp [old])

namespace Config

/-- The rules that come with the program. -/
def builtinRules : List Rule := [Rule.StatementCount.rule]

def make (rules : List Rule) (runSettings : RunSettings) : Except ConfigError Config :=
  match repeated : firstRepeated? [] (rules.map Rule.identifier) with
  | some identifier => .error (.duplicateRule identifier)
  | none => .ok ⟨rules, runSettings, (firstRepeated?_eq_none repeated).1⟩

/-- All built-in rules with the given settings. -/
def standard (runSettings : RunSettings) : Config :=
  ⟨builtinRules, runSettings, by simp [builtinRules]⟩

def rule (config : Config) (identifier : String) : Except ConfigError Rule :=
  match config.rules.find? (·.identifier = identifier) with
  | some rule => .ok rule
  | none => .error (.unknownRule identifier)

/-- The rules named, in the order named, or all rules if none is named. -/
def enabledRules (config : Config) (only : List String) : Except ConfigError (List Rule) :=
  if only = [] then .ok config.rules else only.mapM config.rule

end Config
end DeclarationLint
