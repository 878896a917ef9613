/-
# Step results and progress

`progress_percentage` is `len(step_results) / len(plan.steps) * 100` for a deployment with a
non-empty plan, so it stays within `[0, 100]` exactly while the deployment holds no more step
results than its plan has steps (`Deployment.progressPercentage_le_hundred_iff`).

Nothing keeps that bound. `record_step_result` appends its result before anything is checked,
and `handle_task_completion` calls it for every completion whose task method returns
(`DeploymentDomainService.handleTaskCompletion_appends`), whichever step the task belongs to
and whatever results that step already has. So from any state, a returning completion on a
deployment whose results already cover its plan pushes its progress over 100
(`DeploymentDomainService.handleTaskCompletion_overcounts`). A task that failed can be
retried, acquired, started and completed again, and when `rollback_on_failure` is off the
deployment is still EXECUTING to record the second result: after `execute_deployment` of a
one-step plan, the run fail, retry, acquire, start, succeed leaves two results and a progress
of 200 (`QueueEvent.retried_step_counts_twice`).

Key definitions: `Deployment.progressPercentage`.
Key theorems: `DeploymentDomainService.handleTaskCompletion_appends`,
`DeploymentDomainService.handleTaskCompletion_overcounts`, `QueueEvent.retried_step_counts_twice`.
-/
import Orchestrator.Workers.TaskQueue
import Orchestrator.Service.Completion
import Mathlib.Algebra.Order.Field.Rat
import Mathlib.Tactic.Positivity

namespace Orchestrator

/-- `progress_percentage`, in exact arithmetic: 0 without a plan or without steps. -/
def Deployment.progressPercentage (d : Deployment) : ℚ :=
  match d.plan with
  | none => 0
  | some p => if p.steps = [] then 0 else (d.stepResults.length : ℚ) / p.steps.length * 100

theorem Deployment.progressPercentage_nonneg (d : Deployment) : 0 ≤ d.progressPercentage := by
  unfold progressPercentage
  split
  · exact le_rfl
  · split_ifs
    · exact le_rfl
    · exact mul_nonneg (div_nonneg (Nat.cast_nonneg _) (Nat.cast_nonneg _)) (by positivity)

theorem Deployment.progressPercentage_of_plan (d : Deployment) (p : ExecutionPlan)
    (hp : d.plan = some p) (hs : p.steps ≠ []) :
    d.progressPercentage = (d.stepResults.length : ℚ) / p.steps.length * 100 := by
  unfold progressPercentage
  rw [hp]
  exact if_neg hs

/-- **Progress is at most 100 exactly while the results do not outnumber the steps.** -/
theorem Deployment.progressPercentage_le_hundred_iff (d : Deployment) (p : ExecutionPlan)
    (hp : d.plan = some p) (hs : p.steps ≠ []) :
    d.progressPercentage ≤ 100 ↔ d.stepResults.length ≤ p.steps.length := by
  have hpos : (0 : ℚ) < p.steps.length := by exact_mod_cast List.length_pos.mpr hs
  rw [d.progressPercentage_of_plan p hp hs, div_mul_eq_mul_div, div_le_iff₀ hpos, mul_comm,
    mul_le_mul_left (by positivity : (0 : ℚ) < 100)]
  exact_mod_cast Iff.rfl

namespace DeploymentDomainService

open ServiceM

variable (svc : DeploymentDomainService)

theorem map_publishEvents_apply {α : Type} (f : Deployment → α) (d : Deployment) (s : State) :
    (f <$> publishEvents d) s = .ok (f d.collectEvents.2)
      { s with deployments := s.deployments.put d.collectEvents.2,
               published := s.published ++ d.collectEvents.1.map .domainEvent } := rfl

/-- After `record_step_result` returned: the status change, the save and the publishing keep
the deployment's step results and its plan. -/
theorem afterCompletion_stepResults (d : Deployment) (allTasks : List Task) (s : State) :
    ∃ d', ((do let d ← afterCompletion d allTasks; saveDeployment d; let _ ← publishEvents d)
        s).state.deployments.getById d.id = some d' ∧
      d'.stepResults = d.stepResults ∧ d'.plan = d.plan := by
  have key : ∀ c : DeploymentCall, (∀ p, c ≠ .setPlan p) →
      (c.run d).state.stepResults = d.stepResults →
      ∃ d', ((do let d ← onDeployment d c.run; saveDeployment d; let _ ← publishEvents d)
        s).state.deployments.getById d.id = some d' ∧
        d'.stepResults = d.stepResults ∧ d'.plan = d.plan := by
    intro c hc hres
    have hid := (c.identity_run d).1
    have hplan := c.plan_run_of_ne_setPlan hc d
    simp only [onDeployment_bind]
    rcases hm : c.run d with ⟨⟨⟩, d'⟩ | ⟨e, d'⟩ <;>
      simp only [hm, EStateM.Result.state] at hid hres hplan
    · exact ⟨d'.collectEvents.2, by simp [map_publishEvents_apply, hid, Deployment.collectEvents],
        hres, hplan⟩
    · exact ⟨_, hid ▸ Store.getById_put_self _ _, hres, hplan⟩
  unfold afterCompletion
  dsimp only
  split_ifs
  · exact key .startVerification (fun _ h => nomatch h)
      (by simpa using DeploymentCall.startVerification.stepResults_run d)
  · exact key .startRollback (fun _ h => nomatch h)
      (by simpa using DeploymentCall.startRollback.stepResults_run d)
  · exact ⟨d.collectEvents.2, by simp [map_publishEvents_apply, Deployment.collectEvents], rfl, rfl⟩

/-- **Every completion whose task method returns appends one step result** to the stored
deployment of its task: `record_step_result` appends before it checks anything, and what
follows keeps the results and the plan, whether it returns or raises. -/
theorem handleTaskCompletion_appends {k : String} {success : Bool} {o : List (String × String)}
    {err : String} {s : State} {t t' : Task} {d : Deployment}
    (ht : s.tasks.getById k = some t)
    (hm : (if success then Task.succeed o (svc.env.utcNow s.clock)
      else Task.fail err (svc.env.utcNow s.clock)) t = .ok () t')
    (hd : s.deployments.getById t'.deploymentId = some d) :
    ∃ d', (svc.handleTaskCompletion k success o err s).state.deployments.getById
        t'.deploymentId = some d' ∧
      d'.stepResults = d.stepResults ++ [stepResult t' success o err] ∧ d'.plan = d.plan := by
  have hkey : d.id = t'.deploymentId := ((Store.getById_eq_some_iff _ _ _).mp hd).2
  have hres := (DeploymentCall.recordStepResult (stepResult t' success o err)).stepResults_run d
  have hid := (DeploymentCall.recordStepResult (stepResult t' success o err)).identity_run d |>.1
  have hplan :=
    (DeploymentCall.recordStepResult (stepResult t' success o err)).plan_run_of_ne_setPlan
      (fun _ h => nomatch h) d
  simp only [handleTaskCompletion, getTask_bind, ht, now_bind, onTask_bind, hm, saveTask_bind,
    Store.put_put, getDeployment_bind, hd, onDeployment_bind]
  simp only [DeploymentCall.run] at hres hid hplan
  rcases hr : Deployment.recordStepResult (stepResult t' success o err) d with
    ⟨⟨⟩, d₁⟩ | ⟨e, d₁⟩ <;>
    simp only [hr, EStateM.Result.state_ok, EStateM.Result.state_error] at hres hid hplan ⊢
  · simp only [listByDeployment_bind]
    obtain ⟨d', hd', hres', hplan'⟩ := afterCompletion_stepResults d₁ _ _
    exact ⟨d', hkey ▸ hid ▸ hd', hres'.trans hres, hplan'.trans hplan⟩
  · exact ⟨d₁, hkey ▸ hid ▸ Store.getById_put_self _ _, hres, hplan⟩

/-- **Nothing stops a step from being counted again.** From any state, a completion whose task
method returns, on a task of a deployment that already holds as many step results as its plan
has steps, leaves that deployment, whether the call returns or raises, with one result more and
a progress over 100: `handle_task_completion` never asks whether the task's step has a result
yet. -/
theorem handleTaskCompletion_overcounts {k : String} {success : Bool}
    {o : List (String × String)} {err : String} {s : State} {t t' : Task} {d : Deployment}
    {p : ExecutionPlan} (ht : s.tasks.getById k = some t)
    (hm : (if success then Task.succeed o (svc.env.utcNow s.clock)
      else Task.fail err (svc.env.utcNow s.clock)) t = .ok () t')
    (hd : s.deployments.getById t'.deploymentId = some d) (hp : d.plan = some p)
    (hs : p.steps ≠ []) (hfull : p.steps.length ≤ d.stepResults.length) :
    ∃ d', (svc.handleTaskCompletion k success o err s).state.deployments.getById
        t'.deploymentId = some d' ∧
      d'.stepResults.length = d.stepResults.length + 1 ∧ 100 < d'.progressPercentage := by
  obtain ⟨d', hd', hres, hplan⟩ := svc.handleTaskCompletion_appends ht hm hd
  have hlen : d'.stepResults.length = d.stepResults.length + 1 := by simp [hres]
  refine ⟨d', hd', hlen, lt_of_not_le fun hle => ?_⟩
  have := (d'.progressPercentage_le_hundred_iff p (hplan.trans hp) hs).mp hle
  omega

/-- A one-step deployment whose step failed once is completed again by its retried task. -/
theorem handleTaskCompletion_overcounts_retried_step :
    let svc : DeploymentDomainService := ⟨⟨fun _ => "t1", id⟩, .ruleBased fun _ => ""⟩
    let step : ExecutionStep :=
      { stepId := "s1", name := "deploy-vpc", description := "", provider := .aws,
        resourceSpec := { resourceType := .network, provider := .aws, region := "us-east-1",
                          name := "vpc" },
        terraformAction := "create", idempotencyKey := "k1" }
    let p : ExecutionPlan := { planId := "p1", steps := [step] }
    let d : Deployment :=
      { id := "d1", name := "deploy-staging-aws",
        intent := { targetProviders := [.aws], rollbackOnFailure := false },
        status := .executing, plan := some p,
        stepResults := [{ stepId := "s1", success := false, errorMessage := "boom" }] }
    let t : Task :=
      { id := "t1", deploymentId := "d1", stepId := "s1", name := "deploy-vpc",
        status := .running, workerId := some "w1", idempotencyKey := "k1", attemptNumber := 2,
        createdAt := 0 }
    let t' : Task := { t with status := .succeeded, version := 2, completedAt := some 3 }
    let s : State := ⟨⟨[d], by decide⟩, ⟨[t], by decide⟩, [], 1, 3⟩
    s.tasks.getById "t1" = some t ∧
      (if true then Task.succeed [] (svc.env.utcNow s.clock)
        else Task.fail "" (svc.env.utcNow s.clock)) t = .ok () t' ∧
      s.deployments.getById t'.deploymentId = some d ∧ d.plan = some p ∧ p.steps ≠ [] ∧
      p.steps.length ≤ d.stepResults.length ∧
      ∃ d', (svc.handleTaskCompletion "t1" true [] "" s).state.deployments.getById
          t'.deploymentId = some d' ∧
        d'.stepResults.length = d.stepResults.length + 1 ∧ 100 < d'.progressPercentage := by
  intro svc step p d t t' s
  have ht : s.tasks.getById "t1" = some t := rfl
  have hm : (if true then Task.succeed [] (svc.env.utcNow s.clock)
      else Task.fail "" (svc.env.utcNow s.clock)) t = .ok () t' := rfl
  have hd : s.deployments.getById t'.deploymentId = some d := rfl
  have hs : p.steps ≠ [] := List.cons_ne_nil _ _
  exact ⟨ht, hm, hd, rfl, hs, le_rfl,
    svc.handleTaskCompletion_overcounts ht hm hd rfl hs le_rfl⟩

end DeploymentDomainService

namespace QueueEvent

/-- **A retried step is counted twice.** A deployment with `rollback_on_failure` off and a
one-step plan, executed; its task is acquired, started and completed with a failure, then
retried, acquired, started and completed with a success. The deployment ends VERIFYING with
two step results for its one step, and a progress of 200. -/
theorem retried_step_counts_twice :
    let step : ExecutionStep :=
      { stepId := "s1", name := "deploy-vpc", description := "", provider := .aws,
        resourceSpec := { resourceType := .network, provider := .aws, region := "us-east-1",
                          name := "vpc" },
        terraformAction := "create", idempotencyKey := "k1" }
    let d : Deployment :=
      { id := "d1", name := "deploy-staging-aws",
        intent := { targetProviders := [.aws], rollbackOnFailure := false },
        status := .approved, plan := some { planId := "p1", steps := [step] } }
    let svc : DeploymentDomainService := ⟨⟨fun _ => "t1", fun n => n⟩, .ruleBased fun _ => ""⟩
    let s : State := ⟨⟨[d], by decide⟩, .empty, [], 0, 0⟩
    let run : List QueueEvent :=
      [.executeDeployment "d1", .acquireNext "w1", .start "t1", .complete "t1" false [] "boom",
        .retry "t1", .acquireNext "w1", .start "t1", .complete "t1" true [] ""]
    ∃ d' ∈ (stateAfter svc s run).deployments.getById "d1",
      d'.status = .verifying ∧ d'.stepResults.length = 2 ∧ d'.plan = d.plan ∧
      d'.progressPercentage = 200 := by
  intro step d svc s run
  obtain ⟨d', hd', hst, hlen, hplan⟩ : ∃ d' ∈ (stateAfter svc s run).deployments.getById "d1",
      d'.status = .verifying ∧ d'.stepResults.length = 2 ∧ d'.plan = d.plan := by
    decide
  refine ⟨d', hd', hst, hlen, hplan, ?_⟩
  rw [d'.progressPercentage_of_plan _ hplan (List.cons_ne_nil _ _), hlen]
  norm_num

end QueueEvent

end Orchestrator
