import DeclarationLint.Pool
import DeclarationLint.Proofs.FirstFailure
import Mathlib.Algebra.GroupWithZero.Nat

/-!
# Workers make no difference

If the state that workers share has no part in what their actions come to, it does not matter how
the turns fall. The pool comes to an end, and it ends with what the jobs come to one after the
other. The invariant that carries this is that the state is sound and that every job, with the
actions that are left of it, comes to what it comes to on its own.
-/
namespace DeclarationLint

variable {σ ε α : Type} {sound : σ → Prop} {origin : σ}

namespace Action

/-- What the action comes to from this state. -/
def result (origin : σ) (action : Action σ ε α) : Except ε (List α) := (action origin).2

/-- From any sound state the action comes to what it comes to from this one, and it keeps the state
sound. -/
def Steady (sound : σ → Prop) (origin : σ) (action : Action σ ε α) : Prop :=
  ∀ state, sound state → (action state).2 = result origin action ∧ sound (action state).1

end Action

/-- What the actions of one job come to, each from the same state. -/
def carryOut (origin : σ) (actions : List (Action σ ε α)) : Except ε (List α) :=
  (actions.mapM (Action.result origin)).map List.flatten

/-- What jobs come to one after the other. -/
def carryOutAll (origin : σ) (jobs : List (List (Action σ ε α))) : Except ε (List α) :=
  (jobs.mapM (carryOut origin)).map List.flatten

theorem carryOut_cons_of_error {action : Action σ ε α} {error : ε}
    (failed : Action.result origin action = .error error) (left : List (Action σ ε α)) :
    carryOut origin (action :: left) = .error error := by
  rw [carryOut, mapM_cons_of_error failed]
  rfl

theorem carryOut_cons_of_ok {action : Action σ ε α} {found : List α}
    (success : Action.result origin action = .ok found) (left : List (Action σ ε α)) :
    carryOut origin (action :: left) = (carryOut origin left).map (found ++ ·) := by
  rw [carryOut, carryOut, mapM_cons_of_ok success]
  cases left.mapM (Action.result origin) <;> rfl

theorem carryOut_singleton (action : Action σ ε α) :
    carryOut origin [action] = Action.result origin action := by
  cases ended : Action.result origin action with
  | error error => rw [carryOut_cons_of_error ended]
  | ok found =>
    rw [carryOut_cons_of_ok ended]
    exact congrArg Except.ok (List.append_nil found)

namespace Progress

/-- What a job comes to in the end, told from how far it has come. -/
def outcome (origin : σ) (actions : List (Action σ ε α)) :
    Progress σ ε α → Except ε (List α)
  | working left found => (carryOut origin left).map (found ++ ·)
  | done result => result
  | waiting | cancelled => carryOut origin actions

/-- The actions that may still be carried out. -/
def ahead (actions : List (Action σ ε α)) : Progress σ ε α → List (Action σ ε α)
  | waiting => actions
  | working left _ => left
  | done _ | cancelled => []

/-- How many steps are left at most. -/
def stepsLeft (actions : List (Action σ ε α)) : Progress σ ε α → Nat
  | waiting => actions.length + 2
  | working left _ => left.length + 1
  | done _ | cancelled => 0

variable (actions left : List (Action σ ε α)) (found : List α)

theorem outcome_afterAction (action : Action σ ε α) :
    outcome origin actions (afterAction left found (Action.result origin action)) =
      outcome origin actions (working (action :: left) found) := by
  cases ended : Action.result origin action with
  | error error =>
    rw [afterAction, outcome, outcome, carryOut_cons_of_error ended]
    rfl
  | ok more =>
    rw [afterAction, outcome, outcome, carryOut_cons_of_ok ended]
    cases carryOut origin left with
    | error error => rfl
    | ok others => exact congrArg Except.ok (List.append_assoc found more others)

theorem ahead_afterAction_subset (result : Except ε (List α)) :
    ahead actions (afterAction left found result) ⊆ left := by
  cases result <;> simp [afterAction, ahead]

theorem stepsLeft_afterAction_le (result : Except ε (List α)) :
    stepsLeft actions (afterAction left found result) ≤ left.length + 1 := by
  cases result <;> simp [afterAction, stepsLeft]

end Progress

namespace Pool

section Over

variable {before after jobs : List (Job σ ε α)} {error : ε}

theorem firstFailure?_append (failed : firstFailure? before = some error)
    (after : List (Job σ ε α)) : firstFailure? (before ++ after) = some error := by
  fun_induction firstFailure? before with
  | case2 job rest found done ih => rw [List.cons_append, firstFailure?, done, ih failed]
  | case3 job rest other done =>
    rw [List.cons_append, firstFailure?, done]
    exact failed
  | _ => cases failed

/-- A failure that is met does not lie behind a job that is still to be done. -/
theorem firstFailure?_before {actions : List (Action σ ε α)} {progress : Progress σ ε α}
    (undone : progress.isOver = false)
    (failed : firstFailure? (before ++ ⟨actions, progress⟩ :: after) = some error) :
    firstFailure? before = some error := by
  induction before with
  | nil =>
    rw [List.nil_append, firstFailure?] at failed
    cases progress with
    | waiting | working => cases failed
    | done | cancelled => cases undone
  | cons job rest ih =>
    rw [List.cons_append, firstFailure?] at failed
    rw [firstFailure?]
    split at failed
    · exact ih failed
    · exact failed
    all_goals cases failed

/-- Jobs of which none was called off have all succeeded if no failure is met. -/
theorem exists_done_of_no_failure (ended : ∀ job ∈ jobs, job.progress.isOver = true)
    (kept : ∀ job ∈ jobs, job.progress ≠ .cancelled) (none : firstFailure? jobs = none) :
    ∃ found : List (List α), jobs.map Job.progress = found.map fun each => .done (.ok each) := by
  induction jobs with
  | nil => exact ⟨[], rfl⟩
  | cons job rest ih =>
    have here := ended job List.mem_cons_self
    rw [firstFailure?] at none
    cases progress : job.progress with
    | waiting | working => simp [progress, Progress.isOver] at here
    | cancelled => exact absurd progress (kept job List.mem_cons_self)
    | done result =>
      rw [progress] at none
      cases result with
      | error error => cases none
      | ok each =>
        obtain ⟨found, others⟩ := ih (fun job member => ended job (List.mem_cons_of_mem _ member))
          (fun job member => kept job (List.mem_cons_of_mem _ member)) none
        exact ⟨each :: found, by rw [List.map_cons, List.map_cons, progress, others]⟩

/-- Every job comes to what it comes to on its own. -/
def Expected (origin : σ) (jobs : List (Job σ ε α)) : Prop :=
  ∀ job ∈ jobs, job.progress.outcome origin job.actions = carryOut origin job.actions

theorem mapM_of_firstFailure (expected : Expected origin jobs)
    (failed : firstFailure? jobs = some error) :
    (jobs.map Job.actions).mapM (carryOut origin) = .error error := by
  induction jobs with
  | nil => cases failed
  | cons job rest ih =>
    have here := expected job List.mem_cons_self
    rw [firstFailure?] at failed
    rw [List.map_cons]
    split at failed
    · rename_i found done
      rw [done] at here
      rw [mapM_cons_of_ok here.symm,
        ih (fun job member => expected job (List.mem_cons_of_mem _ member)) failed]
      rfl
    · rename_i other done
      rw [done] at here
      rw [mapM_cons_of_error here.symm, Option.some.inj failed]
    all_goals cases failed

theorem mapM_of_done (expected : Expected origin jobs) {found : List (List α)}
    (done : jobs.map Job.progress = found.map fun each => .done (.ok each)) :
    (jobs.map Job.actions).mapM (carryOut origin) = .ok found := by
  induction jobs generalizing found with
  | nil =>
    rw [List.map_nil, eq_comm, List.map_eq_nil_iff] at done
    rw [done]
    rfl
  | cons job rest ih =>
    obtain ⟨each, others, rfl, here, later⟩ := List.map_eq_cons_iff.mp done.symm
    have ended := expected job List.mem_cons_self
    rw [← here] at ended
    rw [List.map_cons, mapM_cons_of_ok ended.symm,
      ih (fun job member => expected job (List.mem_cons_of_mem _ member)) later.symm]
    rfl

end Over

variable {workers : Nat} {given : List (List (Action σ ε α))} {pool next last : Pool σ ε α}

/-- The state is sound, and all jobs come to what they come to on their own. No job is called off
unless a failure is met. -/
structure OnTrack (sound : σ → Prop) (origin : σ) (given : List (List (Action σ ε α)))
    (pool : Pool σ ε α) : Prop where
  stateSound : sound pool.state
  actions_eq : pool.jobs.map Job.actions = given
  steady : ∀ job ∈ pool.jobs, ∀ action ∈ job.progress.ahead job.actions,
    Action.Steady sound origin action
  expected : Expected origin pool.jobs
  cancelled : ∀ job ∈ pool.jobs, job.progress = .cancelled →
    ∃ error, firstFailure? pool.jobs = some error

theorem onTrack_start {state : σ} (stateSound : sound state)
    (steady : ∀ actions ∈ given, ∀ action ∈ actions, Action.Steady sound origin action) :
    (start state given).OnTrack sound origin given where
  stateSound := stateSound
  actions_eq := by simp [start, Function.comp_def]
  steady job member := by
    obtain ⟨actions, inGiven, rfl⟩ := List.mem_map.mp member
    exact steady actions inGiven
  expected job member := by
    obtain ⟨actions, -, rfl⟩ := List.mem_map.mp member
    rfl
  cancelled job member calledOff := by
    obtain ⟨actions, -, rfl⟩ := List.mem_map.mp member
    cases calledOff

/-- One job goes on, and what it comes to stays the same. -/
theorem OnTrack.update {state after' : σ} {before after : List (Job σ ε α)}
    {actions : List (Action σ ε α)} {progress later : Progress σ ε α}
    (onTrack : OnTrack sound origin given ⟨state, before ++ ⟨actions, progress⟩ :: after⟩)
    (undone : progress.isOver = false) (soundAfter : sound after')
    (same : later.outcome origin actions = progress.outcome origin actions)
    (fewer : later.ahead actions ⊆ progress.ahead actions)
    (calledOff : later = .cancelled → ∃ error, firstFailure? before = some error) :
    OnTrack sound origin given ⟨after', before ++ ⟨actions, later⟩ :: after⟩ := by
  have others : ∀ job ∈ before ++ ⟨actions, later⟩ :: after,
      job = ⟨actions, later⟩ ∨ job ∈ before ++ ⟨actions, progress⟩ :: after := by
    intro job member
    simp only [List.mem_append, List.mem_cons] at member ⊢
    tauto
  have there : (⟨actions, progress⟩ : Job σ ε α) ∈ before ++ ⟨actions, progress⟩ :: after := by
    simp
  refine ⟨soundAfter, by simpa using onTrack.actions_eq, ?_, ?_, ?_⟩
  · intro job member action ahead
    rcases others job member with rfl | kept
    · exact onTrack.steady _ there action (fewer ahead)
    · exact onTrack.steady job kept action ahead
  · intro job member
    rcases others job member with rfl | kept
    · exact same.trans (onTrack.expected _ there)
    · exact onTrack.expected job kept
  · intro job member cancelled
    have failed : ∃ error, firstFailure? before = some error := by
      rcases others job member with rfl | kept
      · exact calledOff cancelled
      · obtain ⟨error, failed⟩ := onTrack.cancelled job kept cancelled
        exact ⟨error, firstFailure?_before undone failed⟩
    obtain ⟨error, failed⟩ := failed
    exact ⟨error, firstFailure?_append failed _⟩

theorem OnTrack.step (onTrack : pool.OnTrack sound origin given)
    (step : Step workers pool next) : next.OnTrack sound origin given := by
  cases step with
  | take inOrder free =>
    refine onTrack.update rfl onTrack.stateSound ?_ (List.Subset.refl _) (by simp)
    simp only [Progress.outcome, List.nil_append]
    cases carryOut origin _ <;> rfl
  | @act state before after actions left action found =>
    -- Whatever the others did to the state, the action comes to what it comes to from the origin.
    obtain ⟨ends, soundAfter⟩ := onTrack.steady _
      (List.mem_append_right before List.mem_cons_self) action List.mem_cons_self state
      onTrack.stateSound
    rw [ends]
    apply onTrack.update rfl soundAfter (Progress.outcome_afterAction ..)
    · exact fun other member =>
        List.mem_cons_of_mem _ (Progress.ahead_afterAction_subset _ _ _ _ member)
    · cases Action.result origin action <;> simp [Progress.afterAction]
  | finish =>
    refine onTrack.update rfl onTrack.stateSound ?_ (List.Subset.refl _) (by simp)
    simp [Progress.outcome, carryOut, Except.map, pure, Except.pure]
  | cancel failed =>
    exact onTrack.update rfl onTrack.stateSound rfl (List.nil_subset _) fun _ => failed

theorem OnTrack.reaches (onTrack : pool.OnTrack sound origin given)
    (reaches : Relation.ReflTransGen (Step workers) pool last) :
    last.OnTrack sound origin given := by
  induction reaches with
  | refl => exact onTrack
  | tail _ step ih => exact ih.step step

theorem OnTrack.endsWith (onTrack : pool.OnTrack sound origin given)
    {result : Except ε (List α)} (ends : pool.EndsWith result) :
    result = carryOutAll origin given := by
  rw [carryOutAll, ← onTrack.actions_eq]
  cases ends with
  | returns done => rw [mapM_of_done onTrack.expected done, Except.map]
  | fails ended failed => rw [mapM_of_firstFailure onTrack.expected failed, Except.map]

theorem OnTrack.exists_endsWith (onTrack : pool.OnTrack sound origin given)
    (ended : ∀ job ∈ pool.jobs, job.progress.isOver = true) : ∃ result, pool.EndsWith result := by
  cases failure : firstFailure? pool.jobs with
  | some error => exact ⟨_, .fails ended failure⟩
  | none =>
    have kept : ∀ job ∈ pool.jobs, job.progress ≠ .cancelled := by
      intro job member calledOff
      obtain ⟨error, failed⟩ := onTrack.cancelled job member calledOff
      cases failure.symm.trans failed
    obtain ⟨found, done⟩ := exists_done_of_no_failure ended kept failure
    exact ⟨_, .returns done⟩

theorem busy_eq_zero {jobs : List (Job σ ε α)}
    (idle : ¬ ∃ job ∈ jobs, job.progress.isWorking = true) : busy jobs = 0 := by
  apply List.countP_eq_zero.mpr
  intro job member working
  exact idle ⟨job, member, working⟩

/-- A pool with a worker goes on until all jobs are over. -/
theorem exists_step (someone : 1 ≤ workers)
    (unfinished : ∃ job ∈ pool.jobs, job.progress.isOver = false) :
    ∃ next, Step workers pool next := by
  obtain ⟨state, jobs⟩ := pool
  by_cases working : ∃ job ∈ jobs, job.progress.isWorking = true
  · obtain ⟨⟨actions, progress⟩, member, isWorking⟩ := working
    obtain ⟨before, after, rfl⟩ := List.append_of_mem member
    cases progress with
    | waiting | done | cancelled => cases isWorking
    | working left found =>
      cases left with
      | nil => exact ⟨_, .finish⟩
      | cons action left => exact ⟨_, .act⟩
  · -- All workers are free, so the first job that waits can be taken.
    have waiting : ∃ job ∈ jobs, job.progress = .waiting := by
      obtain ⟨job, member, undone⟩ := unfinished
      refine ⟨job, member, ?_⟩
      cases progress : job.progress with
      | waiting => rfl
      | working => exact absurd ⟨job, member, by rw [progress]; rfl⟩ working
      | done | cancelled =>
        rw [progress] at undone
        cases undone
    obtain ⟨⟨actions, progress⟩, before, after, rfl, inOrder, rfl⟩ :=
      exists_isFirst_iff.mpr waiting
    have idle := busy_eq_zero working
    unfold busy at idle
    rw [List.countP_append, List.countP_cons] at idle
    refine ⟨_, .take inOrder ?_⟩
    unfold busy
    rw [List.countP_append]
    omega

/-- How many steps are left at most. -/
def stepsLeft (pool : Pool σ ε α) : Nat :=
  (pool.jobs.map fun job => job.progress.stepsLeft job.actions).sum

theorem stepsLeft_lt_of_step (step : Step workers pool next) :
    next.stepsLeft < pool.stepsLeft := by
  cases step with
  | take | finish | cancel => simp [stepsLeft, Progress.stepsLeft]
  | @act state before after actions left action found =>
    have fewer := Progress.stepsLeft_afterAction_le actions left found (action state).2
    simp only [stepsLeft, List.map_append, List.map_cons, List.sum_append, List.sum_cons]
    rw [Progress.stepsLeft.eq_2, List.length_cons]
    omega

/-- Whatever turns the workers take, they come to an end, and to this result. -/
structure Settles (workers : Nat) (pool : Pool σ ε α) (result : Except ε (List α)) : Prop where
  terminates : WellFounded fun next pool : Pool σ ε α => Step workers pool next
  ends : ∀ last, Relation.ReflTransGen (Step workers) pool last →
    (¬ ∃ next, Step workers last next) → last.EndsWith result
  agrees : ∀ last other, Relation.ReflTransGen (Step workers) pool last →
    last.EndsWith other → other = result

/-- Any number of workers settles on what the jobs come to one after the other. -/
theorem settles_start (someone : 1 ≤ workers) {state : σ} (stateSound : sound state)
    (steady : ∀ actions ∈ given, ∀ action ∈ actions, Action.Steady sound origin action) :
    Settles workers (start state given) (carryOutAll origin given) := by
  have onTrack : ∀ last, Relation.ReflTransGen (Step workers) (start state given) last →
      last.OnTrack sound origin given := fun last reaches =>
    (onTrack_start stateSound steady).reaches reaches
  refine ⟨Subrelation.wf stepsLeft_lt_of_step (measure stepsLeft).wf, ?_, ?_⟩
  · intro last reaches stuck
    have ended : ∀ job ∈ last.jobs, job.progress.isOver = true := by
      intro job member
      by_contra undone
      exact stuck (exists_step someone ⟨job, member, by simpa using undone⟩)
    obtain ⟨result, ends⟩ := (onTrack last reaches).exists_endsWith ended
    rw [← (onTrack last reaches).endsWith ends]
    exact ends
  · intro last other reaches ends
    exact (onTrack last reaches).endsWith ends

/-- Whoever goes on as long as possible comes to where nothing is left to do. -/
theorem exists_stuck (terminates : WellFounded fun next pool : Pool σ ε α => Step workers pool next)
    (pool : Pool σ ε α) :
    ∃ last, Relation.ReflTransGen (Step workers) pool last ∧ ¬ ∃ next, Step workers last next := by
  induction pool using terminates.induction with
  | _ pool ih =>
    by_cases further : ∃ next, Step workers pool next
    · obtain ⟨next, step⟩ := further
      obtain ⟨last, reaches, stuck⟩ := ih next step
      exact ⟨last, .head step reaches, stuck⟩
    · exact ⟨pool, .refl, further⟩

/-- A pool that settles yields what it settles on, and nothing else. -/
theorem Settles.yields_iff {state : σ} {settled result : Except ε (List α)}
    (settles : Settles workers (start state given) settled) :
    Yields workers state given result ↔ result = settled := by
  constructor
  · rintro ⟨last, reaches, ends⟩
    exact settles.agrees last result reaches ends
  · rintro rfl
    obtain ⟨last, reaches, stuck⟩ := exists_stuck settles.terminates (start state given)
    exact ⟨last, reaches, settles.ends last reaches stuck⟩

end Pool
end DeclarationLint
