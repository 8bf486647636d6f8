import DeclarationLint.Proofs.Statement
import DeclarationLint.Rule

/-!
# The walk as a list of visits

A walk goes down the tree of declarations as its visits tell it to. Here it is laid flat: the
agenda of a walk is the list of declarations it visits as long as no visit fails, and walking
is working through the agenda (`walkAll_eq_visitEach`). What a whole walk does can then be
told from what its single visits do.
-/
namespace DeclarationLint

namespace Journal

variable {ω ε α β : Type}

theorem bind_eq_ok {first : Journal ω ε α} {next : α → Journal ω ε β} {value : β}
    (success : (first >>= next).result = .ok value) :
    ∃ middle, first.result = .ok middle ∧ (next middle).result = .ok value ∧
      (first >>= next).entries = first.entries ++ (next middle).entries := by
  cases outcome : first.result with
  | error error =>
    rw [bind_of_error outcome] at success
    cases success
  | ok middle =>
    rw [bind_of_ok outcome] at success ⊢
    exact ⟨middle, rfl, success, rfl⟩

theorem bind_congr_of_ok {first : Journal ω ε α} {next other : α → Journal ω ε β}
    (same : ∀ value, first.result = .ok value → next value = other value) :
    first >>= next = first >>= other := by
  cases outcome : first.result with
  | error error => rw [bind_of_error outcome, bind_of_error outcome]
  | ok value => rw [bind_of_ok outcome, bind_of_ok outcome, same value outcome]

end Journal

namespace Rule

variable (rule : Rule) (settings : Settings) (runSettings : RunSettings)

/-- Whether the walk goes on into the members of a declaration. After a visit that fails the
walk is over, and either answer would do. -/
def descends (declaration : Declaration) : Bool :=
  if declaration.kind.isVisited then
    match (rule.visitOne settings runSettings declaration).result with
    | .ok answer => answer
    | .error _ => true
  else true

mutual

/-- The declarations that a walk visits, in order. -/
def agenda : Declaration → List Declaration
  | ⟨kind, name, span, body, members⟩ =>
    (if kind.isVisited then [⟨kind, name, span, body, members⟩] else []) ++
      if rule.descends settings runSettings ⟨kind, name, span, body, members⟩ then
        agendaAll members
      else []

def agendaAll : List Declaration → List Declaration
  | [] => []
  | declaration :: rest => agenda declaration ++ agendaAll rest

end

/-- Visits declarations one after the other, until a visit fails. -/
def visitEach : List Declaration → Journal Finding Fault Unit
  | [] => pure ()
  | declaration :: rest => do
    let _ ← rule.visitOne settings runSettings declaration
    visitEach rest

variable {rule settings runSettings}

theorem visitOne_eq (declaration : Declaration) :
    rule.visitOne settings runSettings declaration =
      ⟨.visit declaration ::
          (rule.perform ⟨settings, runSettings, some declaration⟩
            (rule.visit declaration)).entries,
        (rule.perform ⟨settings, runSettings, some declaration⟩
          (rule.visit declaration)).result⟩ := rfl

/-- A walk goes on into a declaration if no visit of it can answer otherwise. -/
theorem descends_of_answers {declaration : Declaration}
    (answers : ∀ answer,
      (rule.visitOne settings runSettings declaration).result = .ok answer → answer = true) :
    rule.descends settings runSettings declaration = true := by
  unfold descends
  split
  · split
    · rename_i answer outcome
      exact answers answer outcome
    · rfl
  · rfl

theorem visitEach_append (first second : List Declaration) :
    rule.visitEach settings runSettings (first ++ second) =
      (do rule.visitEach settings runSettings first
          rule.visitEach settings runSettings second) := by
  induction first with
  | nil => simp [visitEach]
  | cons declaration rest ih => simp [visitEach, ih]

theorem visitEach_congr {other : Settings} {declarations : List Declaration}
    (same : ∀ declaration ∈ declarations, rule.visitOne settings runSettings declaration =
      rule.visitOne other runSettings declaration) :
    rule.visitEach settings runSettings declarations =
      rule.visitEach other runSettings declarations := by
  induction declarations with
  | nil => rfl
  | cons declaration rest ih =>
    rw [visitEach, visitEach, same declaration (by simp),
      ih fun later member => same later (List.mem_cons_of_mem _ member)]

mutual

theorem walk_eq_visitEach (declaration : Declaration) :
    rule.walk settings runSettings declaration =
      rule.visitEach settings runSettings (rule.agenda settings runSettings declaration) := by
  obtain ⟨kind, name, span, body, members⟩ := declaration
  have inside := walkAll_eq_visitEach members
  by_cases visited : kind.isVisited = true
  · rw [walk, agenda, if_pos visited, if_pos visited, List.singleton_append, visitEach]
    refine Journal.bind_congr_of_ok fun answer outcome => ?_
    have descent : rule.descends settings runSettings ⟨kind, name, span, body, members⟩ =
        answer := by
      rw [descends, if_pos visited, outcome]
    rw [descent]
    cases answer with
    | true => exact inside
    | false => rfl
  · have descent : rule.descends settings runSettings ⟨kind, name, span, body, members⟩ =
        true := by
      rw [descends, if_neg visited]
    rw [walk, agenda, if_neg visited, if_neg visited, descent, pure_bind]
    exact inside

theorem walkAll_eq_visitEach (declarations : List Declaration) :
    rule.walkAll settings runSettings declarations =
      rule.visitEach settings runSettings
        (rule.agendaAll settings runSettings declarations) := by
  cases declarations with
  | nil => rfl
  | cons declaration rest =>
    rw [walkAll, agendaAll, visitEach_append, walk_eq_visitEach declaration,
      walkAll_eq_visitEach rest]

end

/-- Visits that all succeed leave their findings one after the other. -/
theorem visitEach_ok {declarations : List Declaration}
    (success : (rule.visitEach settings runSettings declarations).result = .ok ()) :
    (∀ declaration ∈ declarations, ∃ answer,
        (rule.visitOne settings runSettings declaration).result = .ok answer) ∧
      (rule.visitEach settings runSettings declarations).entries =
        declarations.flatMap fun declaration =>
          (rule.visitOne settings runSettings declaration).entries := by
  induction declarations with
  | nil => exact ⟨by simp, rfl⟩
  | cons declaration rest ih =>
    rw [visitEach] at success ⊢
    obtain ⟨answer, first, others, entries⟩ := Journal.bind_eq_ok success
    obtain ⟨succeed, written⟩ := ih others
    refine ⟨?_, by rw [entries, written, List.flatMap_cons]⟩
    intro visited member
    rcases List.mem_cons.mp member with rfl | later
    · exact ⟨answer, first⟩
    · exact succeed visited later

/-- A check with a result has worked through its agenda. -/
theorem visitEach_of_check_ok {file : SourceFile} {issues : List Issue}
    (success : (rule.check runSettings settings file).result = .ok issues) :
    (rule.visitEach settings runSettings
        (rule.agendaAll settings runSettings file.declarations)).result = .ok () ∧
      issues = (rule.visitEach settings runSettings
        (rule.agendaAll settings runSettings file.declarations)).entries.filterMap
          Finding.issue? := by
  rw [check, walkAll_eq_visitEach, outcome] at success
  cases walked : (rule.visitEach settings runSettings
      (rule.agendaAll settings runSettings file.declarations)).result with
  | error fault =>
    rw [walked] at success
    cases success
  | ok done =>
    rw [walked] at success
    exact ⟨rfl, (Except.ok.inj success).symm⟩

/-- A check with a result has the issues of all visits on the agenda. -/
theorem check_ok {file : SourceFile} {issues : List Issue}
    (success : (rule.check runSettings settings file).result = .ok issues) :
    (∀ declaration ∈ rule.agendaAll settings runSettings file.declarations, ∃ answer,
        (rule.visitOne settings runSettings declaration).result = .ok answer) ∧
      issues = (rule.agendaAll settings runSettings file.declarations).flatMap
        fun declaration =>
          (rule.visitOne settings runSettings declaration).entries.filterMap Finding.issue? := by
  obtain ⟨walked, collected⟩ := visitEach_of_check_ok success
  obtain ⟨succeed, entries⟩ := visitEach_ok walked
  exact ⟨succeed, by rw [collected, entries, List.filterMap_flatMap]⟩

mutual

/-- A rule that never closes a declaration visits all declarations of the visited kinds. -/
theorem agenda_eq_preorder
    (always : ∀ declaration, rule.descends settings runSettings declaration = true)
    (declaration : Declaration) :
    rule.agenda settings runSettings declaration =
      declaration.preorder.filter (·.kind.isVisited) := by
  obtain ⟨kind, name, span, body, members⟩ := declaration
  rw [agenda, Declaration.preorder, always, if_pos rfl, agendaAll_eq_preorderAll always members]
  by_cases visited : kind.isVisited = true <;> simp [visited]

theorem agendaAll_eq_preorderAll
    (always : ∀ declaration, rule.descends settings runSettings declaration = true)
    (declarations : List Declaration) :
    rule.agendaAll settings runSettings declarations =
      (Declaration.preorderAll declarations).filter (·.kind.isVisited) := by
  cases declarations with
  | nil => rfl
  | cons declaration rest =>
    rw [agendaAll, Declaration.preorderAll, List.filter_append,
      agenda_eq_preorder always declaration, agendaAll_eq_preorderAll always rest]

end

end Rule
end DeclarationLint
