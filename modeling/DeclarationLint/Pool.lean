import Mathlib.Logic.Relation

/-!
# Worker pools

Jobs wait for workers, who take them in order and carry out the actions of a job one after the
other. All workers share one state, and whose turn it is is left open. An action that fails ends
its job and no other. The results are asked for in the order of the jobs. Once a failure is met
that way, the jobs that still wait are called off, and when the others are done, the failure is
that of all.
-/
namespace DeclarationLint

/-- Has the shared state for itself, and gives values or fails. -/
abbrev Action (σ ε α : Type) := σ → σ × Except ε (List α)

/-- How far a job has come. -/
inductive Progress (σ ε α : Type) where
  | waiting
  | working (left : List (Action σ ε α)) (found : List α)
  | done (result : Except ε (List α))
  | cancelled

namespace Progress

variable {σ ε α : Type}

def isWorking : Progress σ ε α → Bool
  | working _ _ => true
  | _ => false

def isOver : Progress σ ε α → Bool
  | done _ | cancelled => true
  | _ => false

/-- Where a job stands after an action, with the actions left and what was found before. -/
def afterAction (left : List (Action σ ε α)) (found : List α) :
    Except ε (List α) → Progress σ ε α
  | .ok more => working left (found ++ more)
  | .error error => done (.error error)

end Progress

structure Job (σ ε α : Type) where
  actions : List (Action σ ε α)
  progress : Progress σ ε α

structure Pool (σ ε α : Type) where
  state : σ
  jobs : List (Job σ ε α)

namespace Pool

variable {σ ε α : Type}

def start (state : σ) (jobs : List (List (Action σ ε α))) : Pool σ ε α :=
  ⟨state, jobs.map (⟨·, .waiting⟩)⟩

/-- How many workers have a job. -/
def busy (jobs : List (Job σ ε α)) : Nat := jobs.countP (·.progress.isWorking)

/-- The failure that is met if the results are asked for now, one after the other. -/
def firstFailure? : List (Job σ ε α) → Option ε
  | [] => none
  | job :: rest =>
    match job.progress with
    | .done (.ok _) => firstFailure? rest
    | .done (.error error) => some error
    | .waiting | .working _ _ | .cancelled => none

/-- What can happen next, with so many workers. -/
inductive Step (workers : Nat) : Pool σ ε α → Pool σ ε α → Prop where
  | take {state : σ} {before after : List (Job σ ε α)} {actions : List (Action σ ε α)}
      (inOrder : ∀ job ∈ before, job.progress ≠ .waiting)
      (free : busy (before ++ after) < workers) :
      Step workers ⟨state, before ++ ⟨actions, .waiting⟩ :: after⟩
        ⟨state, before ++ ⟨actions, .working actions []⟩ :: after⟩
  | act {state : σ} {before after : List (Job σ ε α)} {actions left : List (Action σ ε α)}
      {action : Action σ ε α} {found : List α} :
      Step workers ⟨state, before ++ ⟨actions, .working (action :: left) found⟩ :: after⟩
        ⟨(action state).1,
          before ++ ⟨actions, .afterAction left found (action state).2⟩ :: after⟩
  | finish {state : σ} {before after : List (Job σ ε α)} {actions : List (Action σ ε α)}
      {found : List α} :
      Step workers ⟨state, before ++ ⟨actions, .working [] found⟩ :: after⟩
        ⟨state, before ++ ⟨actions, .done (.ok found)⟩ :: after⟩
  | cancel {state : σ} {before after : List (Job σ ε α)} {actions : List (Action σ ε α)}
      (failed : ∃ error, firstFailure? before = some error) :
      Step workers ⟨state, before ++ ⟨actions, .waiting⟩ :: after⟩
        ⟨state, before ++ ⟨actions, .cancelled⟩ :: after⟩

/-- No job is left to do, and this is what the jobs come to together. -/
inductive EndsWith (pool : Pool σ ε α) : Except ε (List α) → Prop where
  | returns {found : List (List α)}
      (done : pool.jobs.map Job.progress = found.map fun each => .done (.ok each)) :
      EndsWith pool (.ok found.flatten)
  | fails {error : ε} (ended : ∀ job ∈ pool.jobs, job.progress.isOver = true)
      (failed : firstFailure? pool.jobs = some error) : EndsWith pool (.error error)

/-- Jobs that start from this state may end like this. -/
def Yields (workers : Nat) (state : σ) (jobs : List (List (Action σ ε α)))
    (result : Except ε (List α)) : Prop :=
  ∃ last, Relation.ReflTransGen (Step workers) (start state jobs) last ∧ last.EndsWith result

end Pool
end DeclarationLint
