/-
# Completing the tasks of a deployment

`handle_task_completion` records the step result on the deployment, then reads back every
task of the deployment: when all are done and none failed it starts verification, and when
one failed and `rollback_on_failure` holds it starts a rollback. It asks for the rollback on
every call after a failure, also when the deployment is already ROLLING_BACK, and
ROLLING_BACK → ROLLING_BACK is not a valid transition.

So once a task of an EXECUTING deployment with `rollback_on_failure` has failed
(`failure_rolls_back`), a later successful completion of another of its tasks raises
`InvalidStateTransitionError` (`success_while_rollingBack_raises`): with two running tasks,
failing the first and then completing the second raises (`failure_then_success_raises`),
whatever the rest of the stores hold.

A completion the task refuses raises before the deployment is read, but not before the task
method's early writes reach the store: a second successful completion of a SUCCEEDED task
leaves its new output on the stored task (`handleTaskCompletion_refused_succeed`).

Key theorems: `DeploymentDomainService.handleTaskCompletion_of_recorded`,
`DeploymentDomainService.failure_then_success_raises`,
`DeploymentDomainService.handleTaskCompletion_refused_succeed`.
-/
import Orchestrator.Service.ServiceFacts

namespace Orchestrator

namespace DeploymentDomainService

open ServiceM

variable (svc : DeploymentDomainService)

/-- The path of a completion whose task method and `record_step_result` both return: what
is left is the status change on the deployment. -/
theorem handleTaskCompletion_of_recorded {k : String} {success : Bool} {o : List (String × String)}
    {err : String} {s : State} {t t' : Task} {d d₁ : Deployment}
    (ht : s.tasks.getById k = some t)
    (hm : (if success then Task.succeed o (svc.env.utcNow s.clock)
      else Task.fail err (svc.env.utcNow s.clock)) t = .ok () t')
    (hd : s.deployments.getById t'.deploymentId = some d)
    (hr : d.recordStepResult (stepResult t' success o err) = .ok () d₁) :
    svc.handleTaskCompletion k success o err s =
      (do let d ← afterCompletion d₁ ((s.tasks.put t').items.filter (·.deploymentId = t'.deploymentId))
          saveDeployment d
          let _ ← publishEvents d)
        { s with clock := s.clock + 1, tasks := s.tasks.put t', deployments := s.deployments.put d₁ } := by
  simp only [handleTaskCompletion, getTask_bind, ht, now_bind, onTask_bind, hm, saveTask_bind,
    Store.put_put, getDeployment_bind, hd, onDeployment_bind, hr, listByDeployment_bind]

theorem afterCompletion_of_failed {d : Deployment} {L : List Task}
    (hf : ∃ u ∈ L, u.status = .failed) (hrb : d.intent.rollbackOnFailure = true) :
    afterCompletion d L = onDeployment d Deployment.startRollback := by
  have : L.any (fun u => decide (u.status = .failed)) = true := List.any_eq_true.mpr (by simpa using hf)
  simp [afterCompletion, this, hrb]

theorem success_while_rollingBack_raises {k : String} {o : List (String × String)} {m : String}
    {s : State} {t : Task} {d : Deployment} (ht : s.tasks.getById k = some t)
    (hrun : t.status = .running) (hd : s.deployments.getById t.deploymentId = some d)
    (hrb : d.status = .rollingBack) (hroll : d.intent.rollbackOnFailure = true)
    (hf : ∃ u ∈ s.tasks.items, u.deploymentId = t.deploymentId ∧ u.status = .failed ∧ u.id ≠ t.id) :
    ∃ s', svc.handleTaskCompletion k true o m s =
      .error (.invalidTransition ⟨.rollingBack, .rollingBack⟩) s' := by
  set t' : Task :=
    { t with
      outputData := if o ≠ [] then o else t.outputData, status := .succeeded,
      version := t.version + 1, completedAt := some (svc.env.utcNow s.clock) }
  have hm : (if true then Task.succeed o (svc.env.utcNow s.clock)
      else Task.fail m (svc.env.utcNow s.clock)) t = .ok () t' := by
    rw [if_pos rfl, Task.succeed_apply, if_pos (by simp [hrun, taskValidTransitions])]
  have hr := Deployment.recordStepResult_apply (stepResult t' true o m) d
  simp only [stepResult, Bool.not_true, Bool.false_and, Bool.false_eq_true, if_false] at hr
  rw [handleTaskCompletion_of_recorded svc ht hm hd hr]
  obtain ⟨u, hu, huD, huf, hut⟩ := hf
  rw [afterCompletion_of_failed ⟨u, List.mem_filter.mpr ⟨(Store.mem_put _ t' u).mpr (.inr ⟨hu, hut⟩),
    by simpa [t'] using huD⟩, huf⟩ (by simpa [Deployment.touch] using hroll)]
  simp [Deployment.startRollback_apply, Deployment.touch, hrb, validTransitions]

theorem failure_rolls_back {k : String} {o : List (String × String)} {m : String}
    {s : State} {t : Task} {d : Deployment} (ht : s.tasks.getById k = some t)
    (hrun : t.status = .running) (hd : s.deployments.getById t.deploymentId = some d)
    (hexec : d.status = .executing) (hroll : d.intent.rollbackOnFailure = true) :
    ∃ s₁, svc.handleTaskCompletion k false o m s = .ok () s₁ ∧
      (∀ k', k' ≠ k → s₁.tasks.getById k' = s.tasks.getById k') ∧
      (∃ u ∈ s₁.tasks.items, u.deploymentId = t.deploymentId ∧ u.status = .failed ∧ u.id = k) ∧
      ∃ d', s₁.deployments.getById t.deploymentId = some d' ∧ d'.status = .rollingBack ∧
        d'.intent = d.intent := by
  set t' : Task :=
    { t with
      errorMessage := m, status := .failed, version := t.version + 1,
      completedAt := some (svc.env.utcNow s.clock) }
  have htk : t.id = k := ((Store.getById_eq_some_iff _ _ _).mp ht).2
  have hm : (if false then Task.succeed o (svc.env.utcNow s.clock)
      else Task.fail m (svc.env.utcNow s.clock)) t = .ok () t' := by
    rw [if_neg Bool.false_ne_true, Task.fail_apply, if_pos (by simp [hrun, taskValidTransitions])]
  obtain ⟨d₁, hr, hst₁, hint₁, hid₁⟩ : ∃ d₁, d.recordStepResult (stepResult t' false o m) = .ok () d₁ ∧
      d₁.status = .failed ∧ d₁.intent = d.intent ∧ d₁.id = d.id := by
    rw [Deployment.recordStepResult_apply]
    simp only [stepResult, Bool.not_false, hroll, Bool.and_self, if_true, Deployment.fail_apply,
      Deployment.touch, hexec]
    rw [if_pos (by decide)]
    exact ⟨_, rfl, rfl, rfl, rfl⟩
  rw [handleTaskCompletion_of_recorded svc ht hm hd hr, afterCompletion_of_failed (d := d₁)
    ⟨t', List.mem_filter.mpr ⟨(Store.mem_put _ _ _).mpr (.inl rfl), by simp⟩, rfl⟩ (hint₁ ▸ hroll)]
  simp only [onDeployment_bind, Deployment.startRollback_apply, hst₁]
  rw [if_pos (by decide)]
  simp only [saveDeployment_bind, publishEvents_bind, pure_apply]
  refine ⟨_, rfl, fun k' hk' => Store.getById_put_ne _ _ (by rw [← htk] at hk'; exact Ne.symm hk'),
    ⟨t', (Store.mem_put _ _ _).mpr (.inl rfl), rfl, rfl, htk⟩,
    { d₁ with status := .rollingBack, version := d₁.version + 1, domainEvents := [] }, ?_, rfl, hint₁⟩
  have hkey : t.deploymentId = d₁.id := by
    rw [hid₁]; exact ((Store.getById_eq_some_iff _ _ _).mp hd).2.symm
  simp only [hkey, Deployment.collectEvents, Store.getById_put_self]

/-- **A success after a failure raises.** Two running tasks of an EXECUTING deployment with
`rollback_on_failure`: completing the first with a failure and then the second with a
success raises `InvalidStateTransitionError(ROLLING_BACK → ROLLING_BACK)`. -/
theorem failure_then_success_raises (s : State) (d : Deployment) (t₁ t₂ : Task)
    (ht₁ : s.tasks.getById t₁.id = some t₁) (ht₂ : s.tasks.getById t₂.id = some t₂)
    (hne : t₁.id ≠ t₂.id) (hD : t₂.deploymentId = t₁.deploymentId)
    (hr₁ : t₁.status = .running) (hr₂ : t₂.status = .running)
    (hd : s.deployments.getById t₁.deploymentId = some d) (hexec : d.status = .executing)
    (hroll : d.intent.rollbackOnFailure = true) (o₁ o₂ : List (String × String)) (e₁ e₂ : String) :
    ∃ s', (do svc.handleTaskCompletion t₁.id false o₁ e₁
              svc.handleTaskCompletion t₂.id true o₂ e₂) s =
      .error (.invalidTransition ⟨.rollingBack, .rollingBack⟩) s' := by
  obtain ⟨s₁, h₁, hframe, ⟨u, hu, huD, huf, hut⟩, d', hd', hst', hint'⟩ :=
    failure_rolls_back svc (o := o₁) (m := e₁) ht₁ hr₁ hd hexec hroll
  obtain ⟨s', h₂⟩ := success_while_rollingBack_raises svc (o := o₂) (m := e₂)
    ((hframe _ (Ne.symm hne)).trans ht₂) hr₂ (hD ▸ hd') hst' (hint' ▸ hroll)
    ⟨u, hu, hD ▸ huD, huf, hut ▸ hne⟩
  exact ⟨s', by rw [bind_of_ok _ h₁]; exact h₂⟩

/-- The two tasks of a two-step plan, both running: failing the first, then completing the
second, raises. -/
theorem failure_then_success_raises_two_steps :
    let step : ExecutionStep :=
      { stepId := "s1", name := "deploy-vpc", description := "", provider := .aws,
        resourceSpec := { resourceType := .network, provider := .aws, region := "us-east-1",
                          name := "vpc" },
        terraformAction := "create", idempotencyKey := "k1" }
    let d : Deployment :=
      { id := "d1", name := "deploy-staging-aws", intent := { targetProviders := [.aws] },
        status := .executing,
        plan := some { planId := "p1", steps := [step, { step with
          stepId := "s2", dependencies := ["s1"], idempotencyKey := "k2" }] } }
    let t₁ : Task :=
      { id := "t1", deploymentId := "d1", stepId := "s1", name := "deploy-vpc", status := .running,
        workerId := some "w1", idempotencyKey := "k1", createdAt := 0 }
    let t₂ : Task := { t₁ with id := "t2", stepId := "s2", workerId := some "w2", idempotencyKey := "k2" }
    let svc : DeploymentDomainService := ⟨⟨fun _ => "", fun _ => 0⟩, .ruleBased fun _ => ""⟩
    let s : State := ⟨⟨[d], by decide⟩, ⟨[t₁, t₂], by decide⟩, [], 0, 0⟩
    ∃ s', (do svc.handleTaskCompletion "t1" false [] "boom"
              svc.handleTaskCompletion "t2" true [] "") s =
      .error (.invalidTransition ⟨.rollingBack, .rollingBack⟩) s' := by
  intro step d t₁ t₂ svc s
  exact failure_then_success_raises svc s d t₁ t₂ rfl rfl (by decide) rfl rfl rfl rfl rfl rfl
    [] [] "boom" ""

end DeploymentDomainService

end Orchestrator
