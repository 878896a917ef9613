/-
# Concurrent completions over the PostgreSQL repositories

`PostgresDeploymentRepository` and `PostgresTaskRepository` (`deployment_repo.py`,
`task_repo.py`) read a row into a new domain object and write one back with an unconditional
`UPDATE ... WHERE id = ...`: what a method does to an object read from them stays local until
`update`, and domain events are not stored. `handle_task_completion` awaits five repository
calls: read the task, update it, read the deployment, list the deployment's tasks, update the
deployment. Calls for different tasks interleave at those awaits. A call is a `CompletionPc`,
its program counter with the objects it holds, and `CompletionSystem.step` runs one call up
to its next repository call and makes it.

A call writes back the deployment it read, with its own step result: when it read the row
before another call wrote it, its update overwrites that call's result and status. Two calls
completing the two running tasks of an EXECUTING deployment can so leave it EXECUTING, with
one new step result for the two of them, although every task of it has succeeded
(`concurrent_completions_lose_result`).

The status change is the one the in-memory service makes (`afterCompletion_eq`).

Key definitions: `completionTransition`, `CompletionPc`, `completionStep`,
`CompletionSystem.run`.
Key theorems: `DeploymentDomainService.afterCompletion_eq`,
`CompletionSystem.concurrent_completions_lose_result`.
-/
import Orchestrator.Service.ServiceFacts

namespace Orchestrator

/-- The status change `handle_task_completion` makes once it has listed the deployment's
tasks, as a method of the deployment. -/
def completionTransition (allTasks : List Task) : DeploymentM Unit := fun d =>
  if (allTasks.all fun t => t.isTerminal || t.status = .succeeded) &&
      !(allTasks.any fun t => t.status = .failed) then Deployment.startVerification d
  else if (allTasks.any fun t => t.status = .failed) && d.intent.rollbackOnFailure then
    Deployment.startRollback d
  else .ok () d

/-- The in-memory service makes the same status change, on the stored object. -/
theorem DeploymentDomainService.afterCompletion_eq {s : State} {d : Deployment}
    (allTasks : List Task) (hd : s.deployments.getById d.id = some d) :
    DeploymentDomainService.afterCompletion d allTasks s =
      ServiceM.onDeployment d (completionTransition allTasks) s := by
  unfold DeploymentDomainService.afterCompletion completionTransition
  split_ifs <;> simp [ServiceM.onDeployment, *, Store.put_eq_self hd]

/-- `succeed` on a RUNNING task returns, keeping what identifies the task. -/
theorem Task.succeed_of_running (o : List (String × String)) (now : ℕ) {t : Task}
    (h : t.status = .running) : ∃ t', Task.succeed o now t = .ok () t' ∧
      t'.status = .succeeded ∧ t'.id = t.id ∧ t'.deploymentId = t.deploymentId ∧
      t'.stepId = t.stepId := by
  rw [Task.succeed_apply, if_pos (by rw [h]; decide)]
  exact ⟨_, rfl, rfl, rfl, rfl, rfl⟩

/-- `record_step_result` of a success appends it and changes no status. -/
theorem Deployment.recordStepResult_of_success (d : Deployment) (r : StepResult)
    (h : r.success = true) : ∃ d', d.recordStepResult r = .ok () d' ∧ d'.id = d.id ∧
      d'.status = d.status ∧ d'.stepResults = d.stepResults ++ [r] := by
  rw [Deployment.recordStepResult_apply, h]
  exact ⟨_, rfl, rfl, rfl, rfl⟩

/-- While a listed task still runs and none failed, there is no status change. -/
theorem completionTransition_of_running {allTasks : List Task}
    (hrun : ∃ u ∈ allTasks, u.status = .running) (hnf : ∀ u ∈ allTasks, u.status ≠ .failed)
    (d : Deployment) : completionTransition allTasks d = .ok () d := by
  obtain ⟨u, hu, hs⟩ := hrun
  have hall : (allTasks.all fun t => t.isTerminal || t.status = .succeeded) = false :=
    List.all_eq_false.mpr ⟨u, hu, by simp [Task.isTerminal, hs]⟩
  have hany : (allTasks.any fun t => t.status = .failed) = false :=
    List.any_eq_false.mpr fun v hv => by simpa using hnf v hv
  simp [completionTransition, hall, hany]

/-- Once every listed task succeeded, verification starts. -/
theorem completionTransition_of_succeeded {allTasks : List Task}
    (h : ∀ u ∈ allTasks, u.status = .succeeded) (d : Deployment) :
    completionTransition allTasks d = Deployment.startVerification d := by
  have hall : (allTasks.all fun t => t.isTerminal || t.status = .succeeded) = true :=
    List.all_eq_true.mpr fun u hu => by simp [h u hu]
  have hany : (allTasks.any fun t => t.status = .failed) = false :=
    List.any_eq_false.mpr fun u hu => by simp [h u hu]
  simp [completionTransition, hall, hany]

/-- The arguments of a `handle_task_completion` call; an absent output is `[]`. -/
structure CompletionCall where
  taskId : String
  success : Bool
  output : List (String × String)
  error : String
  deriving DecidableEq, Repr

/-- Where a call of `handle_task_completion` stands: at the await of its next repository
call, with the objects it holds. -/
inductive CompletionPc
  /-- Before `task_repo.get_by_id`. -/
  | start
  /-- `succeed` or `fail` ran on the task read; before `task_repo.update`. -/
  | taskCompleted (task : Task)
  /-- Before `deployment_repo.get_by_id`. -/
  | taskSaved (task : Task)
  /-- `record_step_result` ran on the deployment read; before `list_by_deployment`. -/
  | resultRecorded (task : Task) (deployment : Deployment)
  /-- The status change ran; before `deployment_repo.update`. -/
  | transitioned (deployment : Deployment)
  /-- Returned, or raised. -/
  | finished
  deriving DecidableEq, Repr

/-- One step of a call: from `pc`, run up to the next repository call and make it. A method
that raises ends the call; `_publish_events` goes with the last update. -/
def completionStep (env : Env) (call : CompletionCall) (s : State) :
    CompletionPc → State × CompletionPc
  | .start =>
    match s.tasks.getById call.taskId with
    | none => (s, .finished)
    | some t =>
      let now := env.utcNow s.clock
      match (if call.success then Task.succeed call.output now else Task.fail call.error now) t with
      | .ok () t' => ({ s with clock := s.clock + 1 }, .taskCompleted t')
      | .error _ _ => ({ s with clock := s.clock + 1 }, .finished)
  | .taskCompleted t => ({ s with tasks := s.tasks.put t }, .taskSaved t)
  | .taskSaved t =>
    match s.deployments.getById t.deploymentId with
    | none => (s, .finished)
    | some d =>
      match d.recordStepResult
          (DeploymentDomainService.stepResult t call.success call.output call.error) with
      | .ok () d' => (s, .resultRecorded t d')
      | .error _ _ => (s, .finished)
  | .resultRecorded t d =>
    match completionTransition (s.tasks.items.filter (·.deploymentId = t.deploymentId)) d with
    | .ok () d' => (s, .transitioned d')
    | .error _ _ => (s, .finished)
  | .transitioned d =>
    ({ s with deployments := s.deployments.put { d with domainEvents := [] },
              published := s.published ++ d.domainEvents.map .domainEvent }, .finished)
  | .finished => (s, .finished)

/-- The calls of `handle_task_completion` in flight over one database. -/
structure CompletionSystem where
  state : State
  calls : List (CompletionCall × CompletionPc)

namespace CompletionSystem

/-- Call `i` runs to its next repository call and makes it. -/
def step (env : Env) (sys : CompletionSystem) (i : ℕ) : CompletionSystem :=
  match sys.calls[i]? with
  | none => sys
  | some (call, pc) =>
    let (s, pc') := completionStep env call sys.state pc
    ⟨s, sys.calls.set i (call, pc')⟩

/-- A schedule: which call moves at each step. -/
def run (env : Env) (sys : CompletionSystem) (schedule : List ℕ) : CompletionSystem :=
  schedule.foldl (step env) sys

/-- **A completion overwrites another's step result.** Let an EXECUTING deployment have two
RUNNING tasks `t₁` and `t₂`, every other task of it having succeeded, and let two calls
complete them with success. The first call reads the deployment and lists its tasks while
`t₂` still runs, so it changes no status; the second completes `t₂`, reads the deployment,
finds every task succeeded and stores it VERIFYING with its own result; then the first call
writes back its own snapshot. The deployment ends EXECUTING with a single new step result, the
first call's, although every task of it has succeeded. -/
theorem concurrent_completions_lose_result (env : Env) (s : State) {d : Deployment}
    {t₁ t₂ : Task} (hd : s.deployments.getById d.id = some d) (hexec : d.status = .executing)
    (ht₁ : s.tasks.getById t₁.id = some t₁) (ht₂ : s.tasks.getById t₂.id = some t₂)
    (hne : t₁.id ≠ t₂.id) (hdep₁ : t₁.deploymentId = d.id) (hdep₂ : t₂.deploymentId = d.id)
    (hrun₁ : t₁.status = .running) (hrun₂ : t₂.status = .running)
    (hrest : ∀ u ∈ s.tasks.items, u.deploymentId = d.id → u.id ≠ t₁.id → u.id ≠ t₂.id →
      u.status = .succeeded)
    (o₁ o₂ : List (String × String)) :
    let sys := run env ⟨s, [(⟨t₁.id, true, o₁, ""⟩, .start), (⟨t₂.id, true, o₂, ""⟩, .start)]⟩
      [0, 0, 0, 0, 1, 1, 1, 1, 1, 0]
    (∀ u ∈ sys.state.tasks.items, u.deploymentId = d.id → u.status = .succeeded) ∧
      ∃ d' r, sys.state.deployments.getById d.id = some d' ∧ d'.status = .executing ∧
        d'.stepResults = d.stepResults ++ [r] ∧ r.stepId = t₁.stepId := by
  intro sys
  obtain ⟨t₁', hm₁, hs₁, hid₁, hdep₁', hstep₁⟩ := Task.succeed_of_running o₁ (env.utcNow s.clock) hrun₁
  obtain ⟨t₂', hm₂, hs₂, hid₂, hdep₂', -⟩ := Task.succeed_of_running o₂ (env.utcNow (s.clock + 1)) hrun₂
  obtain ⟨d₁, hr₁, hid₁d, hst₁, hres₁⟩ :=
    d.recordStepResult_of_success (DeploymentDomainService.stepResult t₁' true o₁ "") rfl
  obtain ⟨d₂, hr₂, -, hst₂, -⟩ :=
    d.recordStepResult_of_success (DeploymentDomainService.stepResult t₂' true o₂ "") rfl
  have hd₁ : s.deployments.getById t₁'.deploymentId = some d := by rw [hdep₁', hdep₁]; exact hd
  have hd₂ : s.deployments.getById t₂'.deploymentId = some d := by rw [hdep₂', hdep₂]; exact hd
  have hlook₂ : (s.tasks.put t₁').getById t₂.id = some t₂ := by
    rw [Store.getById_put_ne _ _ (by rw [hid₁]; exact hne)]; exact ht₂
  -- every task of the deployment once both are stored
  have hdone : ∀ u ∈ ((s.tasks.put t₁').put t₂').items, u.deploymentId = d.id →
      u.status = .succeeded := by
    intro u hu hud
    rcases (Store.mem_put _ _ _).mp hu with rfl | ⟨hu, hu₂⟩
    · exact hs₂
    rcases (Store.mem_put _ _ _).mp hu with rfl | ⟨hu, hu₁⟩
    · exact hs₁
    exact hrest u hu hud (hid₁ ▸ hu₁) (hid₂ ▸ hu₂)
  -- what the first call lists: `t₂` still runs, and no task failed
  have hl₁ : completionTransition ((s.tasks.put t₁').items.filter
      (·.deploymentId = t₁'.deploymentId)) d₁ = .ok () d₁ := by
    refine completionTransition_of_running ⟨t₂, ?_, hrun₂⟩ (fun u hu => ?_) d₁
    · exact List.mem_filter.mpr ⟨((Store.getById_eq_some_iff _ _ _).mp hlook₂).1,
        by simp [hdep₁', hdep₁, hdep₂]⟩
    · obtain ⟨hu, hud⟩ := List.mem_filter.mp hu
      rcases (Store.mem_put _ _ _).mp hu with rfl | ⟨hu, hu₁⟩
      · rw [hs₁]; decide
      by_cases hu₂ : u.id = t₂.id
      · have : u = t₂ := Option.some_injective _
          (((Store.getById_eq_some_iff _ _ _).mpr ⟨hu, hu₂⟩).symm.trans ht₂)
        rw [this, hrun₂]; decide
      · rw [hrest u hu (by simpa [hdep₁', hdep₁] using hud) (hid₁ ▸ hu₁) hu₂]; decide
  -- what the second call lists: every task succeeded
  have hl₂ : completionTransition (((s.tasks.put t₁').put t₂').items.filter
      (·.deploymentId = t₂'.deploymentId)) d₂ = Deployment.startVerification d₂ :=
    completionTransition_of_succeeded (fun u hu => by
      obtain ⟨hu, hud⟩ := List.mem_filter.mp hu
      exact hdone u hu (by simpa [hdep₂', hdep₂] using hud)) d₂
  obtain ⟨d₂', hv₂⟩ : ∃ d₂', Deployment.startVerification d₂ = .ok () d₂' := by
    rw [Deployment.startVerification, Deployment.transitionTo_apply, hst₂, hexec, if_pos (by decide)]
    exact ⟨_, rfl⟩
  simp only [sys, run, List.foldl, step, completionStep, List.getElem?_cons_zero,
    List.getElem?_cons_succ, List.set_cons_zero, List.set_cons_succ, ht₁, hlook₂, if_true, hm₁, hm₂,
    hd₁, hd₂, hr₁, hr₂, hl₁, hl₂, hv₂]
  -- the first call's update is the last write of the deployment
  refine ⟨hdone, { d₁ with domainEvents := [] }, _, by rw [← hid₁d]; exact Store.getById_put_self _ _,
    hst₁.trans hexec, hres₁, hstep₁⟩

/-- Two running tasks of an EXECUTING deployment, completed concurrently. -/
theorem concurrent_completions_two_tasks :
    let d : Deployment :=
      { id := "d1", name := "deploy-staging-aws", intent := { targetProviders := [.aws] },
        status := .executing }
    let t₁ : Task :=
      { id := "t1", deploymentId := "d1", stepId := "s1", name := "deploy-vpc", status := .running,
        workerId := some "w1", idempotencyKey := "k1", createdAt := 0 }
    let t₂ : Task := { t₁ with id := "t2", stepId := "s2", workerId := some "w2", idempotencyKey := "k2" }
    let s : State := ⟨⟨[d], by decide⟩, ⟨[t₁, t₂], by decide⟩, [], 0, 0⟩
    let env : Env := ⟨fun _ => "", fun _ => 0⟩
    let sys := run env ⟨s, [(⟨t₁.id, true, [], ""⟩, .start), (⟨t₂.id, true, [], ""⟩, .start)]⟩
      [0, 0, 0, 0, 1, 1, 1, 1, 1, 0]
    (∀ u ∈ sys.state.tasks.items, u.deploymentId = d.id → u.status = .succeeded) ∧
      ∃ d' r, sys.state.deployments.getById d.id = some d' ∧ d'.status = .executing ∧
        d'.stepResults = d.stepResults ++ [r] ∧ r.stepId = t₁.stepId := by
  intro d t₁ t₂ s env
  exact @concurrent_completions_lose_result env s d t₁ t₂ rfl rfl rfl rfl (by decide) rfl rfl rfl rfl
    (by decide) [] []

end CompletionSystem

end Orchestrator
