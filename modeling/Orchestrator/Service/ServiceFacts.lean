/-
# What a service operation leaves when it raises

Each primitive of `ServiceM` gets its `_bind` equation, true by `rfl`, so that an operation
runs symbolically under `simp only`. From them, one lemma per operation says what the stores
hold when it raises:

* `create_deployment`, `approve_deployment`, `rollback_deployment` and
  `execute_deployment` raise before they change anything, or by a transition check that
  leaves the stored deployment as it was: the state is unchanged;
* `plan_deployment` leaves the deployment in PLANNING when the planning engine raises, since
  `start_planning` already ran on the stored object;
* `handle_task_completion` changes at most the completed task and its deployment, and not
  that deployment's status.

So the promise that a raising operation leaves the stores as they were does not hold
(`planner_raise_leaves_planning`); what holds is `ServiceCall.raiseLeaves`
(`ServiceCall.raise_leaves_stores`).

Key definitions: `ServiceCall.raiseLeaves`.
Key theorems: `DeploymentDomainService.handleTaskCompletion_apply`,
`ServiceCall.raise_leaves_stores`.
-/
import Orchestrator.Service.DeploymentService
import Orchestrator.Domain.DeploymentFacts
import Orchestrator.Domain.TaskFacts

namespace Orchestrator

namespace Store

variable {α : Type} {key : α → String}

@[simp] theorem put_put (s : Store α key) (x : α) : (s.put x).put x = s.put x :=
  put_of_getById _ _ (getById_put_self _ _)

/-- Writing back the object read under a key changes nothing. -/
theorem put_eq_self {s : Store α key} {k : String} {x : α} (h : s.getById k = some x) :
    s.put x = s :=
  put_of_getById _ _ (by rwa [((getById_eq_some_iff _ _ _).mp h).2])

end Store

namespace ServiceM

variable {α β : Type} (s : State)

@[simp] theorem getDeployment_bind (k : String) (f : Option Deployment → ServiceM α) :
    (getDeployment k >>= f) s = f (s.deployments.getById k) s := rfl

@[simp] theorem saveDeployment_bind (d : Deployment) (f : Unit → ServiceM α) :
    (saveDeployment d >>= f) s = f () { s with deployments := s.deployments.put d } := rfl

@[simp] theorem getTask_bind (k : String) (f : Option Task → ServiceM α) :
    (getTask k >>= f) s = f (s.tasks.getById k) s := rfl

@[simp] theorem saveTask_bind (t : Task) (f : Unit → ServiceM α) :
    (saveTask t >>= f) s = f () { s with tasks := s.tasks.put t } := rfl

@[simp] theorem listByDeployment_bind (k : String) (f : List Task → ServiceM α) :
    (listByDeployment k >>= f) s = f (s.tasks.items.filter (·.deploymentId = k)) s := rfl

@[simp] theorem publish_bind (p : Publication) (f : Unit → ServiceM α) :
    (publish p >>= f) s = f () { s with published := s.published ++ [p] } := rfl

@[simp] theorem newId_bind (env : Env) (f : String → ServiceM α) :
    (newId env >>= f) s = f (env.generateId s.nextId) { s with nextId := s.nextId + 1 } := rfl

@[simp] theorem now_bind (env : Env) (f : ℕ → ServiceM α) :
    (now env >>= f) s = f (env.utcNow s.clock) { s with clock := s.clock + 1 } := rfl

@[simp] theorem throw_bind (e : ServiceError) (f : α → ServiceM β) :
    (throw e >>= f) s = .error e s := rfl

@[simp] theorem pure_bind (a : α) (f : α → ServiceM β) : (pure a >>= f) s = f a s := rfl

@[simp] theorem pure_apply (a : α) : (pure a : ServiceM α) s = .ok a s := rfl

theorem bind_of_ok {x : ServiceM α} {f : α → ServiceM β} {s' : State} {a : α}
    (h : x s = .ok a s') : (x >>= f) s = f a s' := by
  change EStateM.bind x f s = _
  simp [EStateM.bind, h]

@[simp] theorem throw_apply (e : ServiceError) : (throw e : ServiceM α) s = .error e s := rfl

@[simp] theorem onDeployment_apply (d : Deployment) (m : DeploymentM Unit) :
    onDeployment d m s = match m d with
      | .ok () d' => .ok d' { s with deployments := s.deployments.put d' }
      | .error e d' => .error (.invalidTransition e) { s with deployments := s.deployments.put d' } :=
  rfl

@[simp] theorem onDeployment_bind (d : Deployment) (m : DeploymentM Unit)
    (f : Deployment → ServiceM α) :
    (onDeployment d m >>= f) s = match m d with
      | .ok () d' => f d' { s with deployments := s.deployments.put d' }
      | .error e d' => .error (.invalidTransition e) { s with deployments := s.deployments.put d' } := by
  change EStateM.bind _ f s = _
  simp only [EStateM.bind, onDeployment_apply]
  rcases m d with ⟨⟨⟩, d'⟩ | ⟨e, d'⟩ <;> rfl

@[simp] theorem onTask_bind (t : Task) (m : TaskM Unit) (f : Task → ServiceM α) :
    (onTask t m >>= f) s = match m t with
      | .ok () t' => f t' { s with tasks := s.tasks.put t' }
      | .error e t' => .error (.taskError e) { s with tasks := s.tasks.put t' } := by
  change EStateM.bind (fun s => match m t with
    | .ok () t' => .ok t' { s with tasks := s.tasks.put t' }
    | .error e t' => .error (.taskError e) { s with tasks := s.tasks.put t' }) f s = _
  simp only [EStateM.bind]
  rcases m t with ⟨⟨⟩, t'⟩ | ⟨e, t'⟩ <;> rfl

@[simp] theorem onLocalTask_bind (t : Task) (m : TaskM Unit) (f : Task → ServiceM α) :
    (onLocalTask t m >>= f) s = match m t with
      | .ok () t' => f t' s
      | .error e _ => .error (.taskError e) s := by
  change EStateM.bind (fun s => match m t with
    | .ok () t' => .ok t' s
    | .error e _ => .error (.taskError e) s) f s = _
  simp only [EStateM.bind]
  rcases m t with ⟨⟨⟩, t'⟩ | ⟨e, t'⟩ <;> rfl

@[simp] theorem publishEvents_apply (d : Deployment) :
    publishEvents d s = .ok d.collectEvents.2
      { s with deployments := s.deployments.put d.collectEvents.2,
               published := s.published ++ d.collectEvents.1.map .domainEvent } := rfl

@[simp] theorem publishEvents_bind (d : Deployment) (f : Deployment → ServiceM α) :
    (publishEvents d >>= f) s = f d.collectEvents.2
      { s with deployments := s.deployments.put d.collectEvents.2,
               published := s.published ++ d.collectEvents.1.map .domainEvent } := rfl

@[simp] theorem generatePlan_bind (engine : PlanningEngine) (i : DeploymentIntent)
    (f : ExecutionPlan → ServiceM α) :
    (generatePlan engine i >>= f) s = match engine.generatePlan i s.nextId with
      | .ok (p, n) => f p { s with nextId := n }
      | .error m => .error (.planningFailed m) s := by
  change EStateM.bind (fun s => match engine.generatePlan i s.nextId with
    | .ok (p, n) => .ok p { s with nextId := n }
    | .error m => .error (.planningFailed m) s) f s = _
  simp only [EStateM.bind]
  rcases engine.generatePlan i s.nextId with m | ⟨p, n⟩ <;> rfl

end ServiceM

/-! ### The tasks `execute_deployment` creates -/

/-- The tasks `execute_deployment`'s loop creates for `steps`, with ids drawn from `n` and
creation times read from `c` on, each enqueued. -/
def enqueuedTasks (env : Env) (deploymentId : String) : ℕ → ℕ → List ExecutionStep → List Task
  | _, _, [] => []
  | n, c, step :: steps =>
    { DeploymentDomainService.newTask (env.generateId n) (env.utcNow c) deploymentId step with
        status := .queued, version := 2 } :: enqueuedTasks env deploymentId (n + 1) (c + 1) steps

namespace DeploymentDomainService

open ServiceM

variable (svc : DeploymentDomainService) {α : Type}

theorem createTask_bind (D : String) (step : ExecutionStep) (f : Task → ServiceM α) (s : State) :
    (svc.createTask D step >>= f) s =
      f { newTask (svc.env.generateId s.nextId) (svc.env.utcNow s.clock) D step with
            status := .queued, version := 2 }
        { s with nextId := s.nextId + 1, clock := s.clock + 1,
                 tasks := s.tasks.put { newTask (svc.env.generateId s.nextId)
                   (svc.env.utcNow s.clock) D step with status := .queued, version := 2 } } := by
  simp only [createTask, bind_assoc, newId_bind, now_bind, onLocalTask_bind, Task.enqueue,
    Task.transitionTo_apply]
  rfl

/-- **`execute_deployment`'s loop never raises**: it stores one enqueued task per step, with
fresh ids, in order. -/
theorem createTasks_bind (D : String) : ∀ (steps : List ExecutionStep) (s : State)
    (f : List Task → ServiceM α), (svc.createTasks D steps >>= f) s =
      f (enqueuedTasks svc.env D s.nextId s.clock steps)
        { s with nextId := s.nextId + steps.length, clock := s.clock + steps.length,
                 tasks := (enqueuedTasks svc.env D s.nextId s.clock steps).foldl Store.put s.tasks }
  | [], s, f => rfl
  | step :: steps, s, f => by
    simp only [createTasks, bind_assoc, createTask_bind, createTasks_bind D steps,
      ServiceM.pure_bind, enqueuedTasks, List.foldl_cons, List.length_cons]
    congr 2 <;> omega

/-- **What `execute_deployment` does once `start_execution` returns**: the deployment stored
and published, and one enqueued task per step of its plan. -/
theorem executeDeployment_eq {k : String} {s : State} {d d' : Deployment} {p : ExecutionPlan}
    (hd : s.deployments.getById k = some d) (hp : d.plan = some p)
    (hx : Deployment.startExecution d = .ok () d') :
    svc.executeDeployment k s = .ok (enqueuedTasks svc.env k s.nextId s.clock p.steps)
      { s with deployments := (s.deployments.put d').put d'.collectEvents.2,
               tasks := (enqueuedTasks svc.env k s.nextId s.clock p.steps).foldl Store.put s.tasks,
               published := s.published ++ d'.collectEvents.1.map .domainEvent,
               nextId := s.nextId + p.steps.length, clock := s.clock + p.steps.length } := by
  simp only [executeDeployment, getDeployment_bind, hd, hp, onDeployment_bind, hx,
    saveDeployment_bind, Store.put_put, createTasks_bind, publishEvents_bind, pure_apply]


/-! ### What a raising operation leaves -/

variable {s s' : State} {e : ServiceError}

theorem createDeployment_error {i : DeploymentIntent} {u t : String}
    (h : svc.createDeployment i u t s = .error e s') : s' = s := by
  simp only [createDeployment] at h
  rcases hp : i.targetProviders.head? with _ | p <;> simp only [hp, throw_apply] at h
  · exact (EStateM.Result.error.inj h).2.symm
  · simp only [newId_bind, saveDeployment_bind, publish_bind] at h
    cases h

theorem approveDeployment_error {k a : String} (h : approveDeployment k a s = .error e s') :
    s' = s := by
  simp only [approveDeployment, getDeployment_bind] at h
  rcases hd : s.deployments.getById k with _ | d <;> simp only [hd, throw_apply] at h
  · exact (EStateM.Result.error.inj h).2.symm
  · simp only [onDeployment_bind, Deployment.approve_apply] at h
    split_ifs at h
    · simp at h
    · cases h; simp [Store.put_eq_self hd]

theorem rollbackDeployment_error {k : String} (h : rollbackDeployment k s = .error e s') :
    s' = s := by
  simp only [rollbackDeployment, getDeployment_bind] at h
  rcases hd : s.deployments.getById k with _ | d <;> simp only [hd, throw_apply] at h
  · exact (EStateM.Result.error.inj h).2.symm
  · simp only [onDeployment_bind, Deployment.startRollback_apply] at h
    split_ifs at h
    · simp at h
    · cases h; simp [Store.put_eq_self hd]

theorem executeDeployment_error {k : String} (h : svc.executeDeployment k s = .error e s') :
    s' = s := by
  simp only [executeDeployment, getDeployment_bind] at h
  rcases hd : s.deployments.getById k with _ | d <;> simp only [hd, throw_apply] at h
  · exact (EStateM.Result.error.inj h).2.symm
  rcases hp : d.plan with _ | p <;> simp only [hp, throw_apply] at h
  · exact (EStateM.Result.error.inj h).2.symm
  · simp only [onDeployment_bind, Deployment.startExecution_apply] at h
    split_ifs at h
    · simp only [saveDeployment_bind, createTasks_bind, publishEvents_bind] at h
      cases h
    · cases h; simp [Store.put_eq_self hd]

/-- `plan_deployment` raises with the stores unchanged, or because the planning engine
raised after `start_planning` moved the stored deployment to PLANNING. -/
theorem planDeployment_error {acquired : Bool} {k : String}
    (h : svc.planDeployment acquired k s = .error e s') :
    s' = s ∨ ∃ d m, s.deployments.getById k = some d ∧ e = .planningFailed m ∧
      s' = { s with
        deployments := s.deployments.put { d with status := .planning, version := d.version + 1 } } := by
  simp only [planDeployment] at h
  cases acquired
  · simp only [Bool.not_false, if_true, throw_bind] at h
    exact .inl (EStateM.Result.error.inj h).2.symm
  simp only [Bool.not_true, Bool.false_eq_true, if_false, ServiceM.pure_bind,
    getDeployment_bind] at h
  rcases hd : s.deployments.getById k with _ | d <;> simp only [hd, throw_apply] at h
  · exact .inl (EStateM.Result.error.inj h).2.symm
  simp only [onDeployment_bind, Deployment.startPlanning, Deployment.transitionTo_apply,
    Deployment.touch] at h
  split_ifs at h
  · simp only [generatePlan_bind] at h
    rcases hg : svc.planningEngine.generatePlan d.intent s.nextId with m | ⟨p, n⟩ <;>
      simp only [hg] at h
    · cases h; exact .inr ⟨d, m, rfl, rfl, rfl⟩
    · simp only [onDeployment_bind, Deployment.setPlan_apply, if_true] at h
      simp at h
  · cases h; simp [Store.put_eq_self hd]

/-- `handle_task_completion` raises having changed at most the completed task and its
deployment, and not the deployment's status: when `record_step_result` has failed the
deployment, `start_rollback` from FAILED cannot raise. -/
theorem handleTaskCompletion_error {k : String} {success : Bool} {o : List (String × String)}
    {err : String} (h : svc.handleTaskCompletion k success o err s = .error e s') :
    ∃ t, s.tasks.getById k = some t ∧
      (∀ k', k' ≠ k → s'.tasks.getById k' = s.tasks.getById k') ∧
      (∀ k', k' ≠ t.deploymentId → s'.deployments.getById k' = s.deployments.getById k') ∧
      (s'.deployments.getById t.deploymentId).map (·.status) =
        (s.deployments.getById t.deploymentId).map (·.status) := by
  simp only [handleTaskCompletion, getTask_bind] at h
  rcases ht : s.tasks.getById k with _ | t <;> simp only [ht] at h
  · cases h
  refine ⟨t, rfl, ?_⟩
  have htk : t.id = k := ((Store.getById_eq_some_iff _ _ _).mp ht).2
  set call : TaskCall := if success then .succeed o (svc.env.utcNow s.clock)
    else .fail err (svc.env.utcNow s.clock) with hcall
  have hrun : (if success then Task.succeed o (svc.env.utcNow s.clock)
      else Task.fail err (svc.env.utcNow s.clock)) = call.run := by
    cases success <;> rfl
  obtain ⟨hid, hdep, -⟩ := TaskCall.identity_run call t
  simp only [now_bind, onTask_bind, hrun] at h
  rcases hm : call.run t with ⟨⟨⟩, t'⟩ | ⟨e', t'⟩ <;> simp only [hm, EStateM.Result.state] at h hid hdep
  · simp only [saveTask_bind, Store.put_put, getDeployment_bind] at h
    rcases hd : s.deployments.getById t'.deploymentId with _ | d <;> simp only [hd] at h
    · cases h
    have hdk : d.id = t.deploymentId := by
      rw [← hdep]; exact ((Store.getById_eq_some_iff _ _ _).mp hd).2
    set r := stepResult t' success o err
    obtain ⟨hid1, -⟩ := DeploymentCall.identity_run (.recordStepResult r) d
    have hrec := Deployment.recordStepResult_status r d
    -- what is left when the deployment's status is the one it was read with
    have finish : ∀ (d1 : Deployment) (s'' : State), d1.id = d.id → s''.tasks = s.tasks.put t' →
        s''.deployments = s.deployments.put d1 → d1.status = d.status →
        (∀ k', k' ≠ k → s''.tasks.getById k' = s.tasks.getById k') ∧
        (∀ k', k' ≠ t.deploymentId → s''.deployments.getById k' = s.deployments.getById k') ∧
        (s''.deployments.getById t.deploymentId).map (·.status) =
          (s.deployments.getById t.deploymentId).map (·.status) := by
      intro d1 s'' hid1 hts hds hst
      rw [hts, hds]
      refine ⟨fun k' hk' => Store.getById_put_ne _ _ (by rw [hid, htk]; exact Ne.symm hk'),
        fun k' hk' => Store.getById_put_ne _ _ (by rw [hid1, hdk]; exact Ne.symm hk'), ?_⟩
      rw [← hdep, hd, show t'.deploymentId = d1.id by rw [hid1, hdk, hdep]]
      simp [hst]
    simp only [onDeployment_bind] at h
    rcases hr : d.recordStepResult r with ⟨⟨⟩, d1⟩ | ⟨e', d1⟩ <;>
      simp only [DeploymentCall.run, hr, EStateM.Result.state, EStateM.Result.isOk, true_and,
        Bool.false_eq_true, false_and, or_false] at h hid1 hrec
    · have hfailed : success = false → t'.status = .failed := by
        rintro rfl
        simp only [hcall, Bool.false_eq_true, if_false, TaskCall.run, Task.fail_apply] at hm
        split_ifs at hm
        cases hm; rfl
      have hmem : t' ∈ (s.tasks.put t').items.filter (·.deploymentId = t'.deploymentId) :=
        List.mem_filter.mpr ⟨(Store.mem_put _ _ _).mpr (.inl rfl), by simp⟩
      simp only [listByDeployment_bind, afterCompletion] at h
      split_ifs at h with h1 h2
      · simp only [onDeployment_bind, Deployment.startVerification, Deployment.transitionTo_apply] at h
        split_ifs at h
        · simp only [saveDeployment_bind, publishEvents_bind, pure_apply] at h; cases h
        cases h
        refine finish _ _ hid1 rfl (Store.put_put _ _) (hrec.resolve_right fun ⟨_, hs, _⟩ => ?_)
        replace hs : success = false := hs
        have : ((s.tasks.put t').items.filter (·.deploymentId = t'.deploymentId)).any
            (fun t => decide (t.status = .failed)) = true :=
          List.any_eq_true.mpr ⟨t', hmem, by simp [hfailed hs]⟩
        simp_all
      · simp only [onDeployment_bind, Deployment.startRollback_apply] at h
        split_ifs at h
        · simp only [saveDeployment_bind, publishEvents_bind, pure_apply] at h; cases h
        cases h
        refine finish _ _ hid1 rfl (Store.put_put _ _) (hrec.resolve_right fun ⟨hf, _⟩ => ?_)
        simp_all [validTransitions]
      · simp only [ServiceM.pure_bind, saveDeployment_bind, publishEvents_bind, pure_apply] at h; cases h
    · cases h
      exact finish _ _ hid1 rfl rfl hrec
  · cases h
    refine ⟨fun k' hk' => Store.getById_put_ne _ _ (by rw [hid, htk]; exact Ne.symm hk'), fun _ _ => rfl, rfl⟩

end DeploymentDomainService

namespace ServiceCall

/-- What a raising call may leave changed in the stores: nothing, except the deployment a
failed planning left in PLANNING, and the completed task and its deployment (but not its
status) for `handle_task_completion`. -/
def raiseLeaves : ServiceCall → ServiceError → State → State → Prop
  | .planDeployment _ k, e, s, s' => s'.tasks = s.tasks ∧
    (s'.deployments = s.deployments ∨ ∃ d m, s.deployments.getById k = some d ∧
      e = .planningFailed m ∧
      s'.deployments = s.deployments.put { d with status := .planning, version := d.version + 1 })
  | .handleTaskCompletion k .., _, s, s' => ∃ t, s.tasks.getById k = some t ∧
    (∀ k', k' ≠ k → s'.tasks.getById k' = s.tasks.getById k') ∧
    (∀ k', k' ≠ t.deploymentId → s'.deployments.getById k' = s.deployments.getById k') ∧
    (s'.deployments.getById t.deploymentId).map (·.status) =
      (s.deployments.getById t.deploymentId).map (·.status)
  | _, _, s, s' => s'.deployments = s.deployments ∧ s'.tasks = s.tasks

theorem error_of_discard {α : Type} {x : ServiceM α} {s s' : State} {e : ServiceError}
    (h : (do let _ ← x : ServiceM Unit) s = .error e s') : x s = .error e s' := by
  change EStateM.bind x _ s = _ at h
  simp only [EStateM.bind] at h
  split at h
  · cases h
  · cases h; assumption

/-- **What a raising service operation leaves.** -/
theorem raise_leaves_stores (svc : DeploymentDomainService) (c : ServiceCall) (s s' : State)
    (e : ServiceError) (h : c.run svc s = .error e s') : c.raiseLeaves e s s' := by
  cases c with
  | createDeployment i u t =>
    obtain rfl := svc.createDeployment_error (error_of_discard h); exact ⟨rfl, rfl⟩
  | planDeployment a k =>
    rcases svc.planDeployment_error (error_of_discard h) with rfl | ⟨d, m, hd, rfl, rfl⟩
    · exact ⟨rfl, .inl rfl⟩
    · exact ⟨rfl, .inr ⟨d, m, hd, rfl, rfl⟩⟩
  | executeDeployment k =>
    obtain rfl := svc.executeDeployment_error (error_of_discard h); exact ⟨rfl, rfl⟩
  | handleTaskCompletion k success o err => exact svc.handleTaskCompletion_error h
  | approveDeployment k a =>
    obtain rfl := DeploymentDomainService.approveDeployment_error (error_of_discard h)
    exact ⟨rfl, rfl⟩
  | rollbackDeployment k =>
    obtain rfl := DeploymentDomainService.rollbackDeployment_error (error_of_discard h)
    exact ⟨rfl, rfl⟩

/-- A planning engine that raises: `plan_deployment` raises, leaving the deployment in
PLANNING. -/
theorem raise_leaves_planner_down :
    let svc : DeploymentDomainService := ⟨⟨fun _ => "", fun _ => 0⟩, ⟨fun _ _ => .error "down"⟩⟩
    let s : State :=
      ⟨⟨[{ id := "d1", name := "deploy-staging-aws", intent := { targetProviders := [.aws] } }],
        by decide⟩, .empty, [], 0, 0⟩
    (ServiceCall.planDeployment true "d1").run svc s =
        .error (.planningFailed "down") ((ServiceCall.planDeployment true "d1").run svc s).state ∧
      (ServiceCall.planDeployment true "d1").raiseLeaves (.planningFailed "down") s
        ((ServiceCall.planDeployment true "d1").run svc s).state := by
  intro svc s
  exact ⟨rfl, raise_leaves_stores svc (.planDeployment true "d1") s _ (.planningFailed "down") rfl⟩

/-- A planning engine that raises leaves the deployment in PLANNING. -/
theorem planner_raise_leaves_planning :
    ¬ ∀ (svc : DeploymentDomainService) (c : ServiceCall) (s s' : State) (e : ServiceError),
      c.run svc s = .error e s' → s'.deployments = s.deployments ∧ s'.tasks = s.tasks := by
  intro h
  let d : Deployment := { id := "d1", name := "deploy-staging-aws", intent := { targetProviders := [.aws] } }
  let svc : DeploymentDomainService := ⟨⟨fun _ => "", fun _ => 0⟩, ⟨fun _ _ => .error "down"⟩⟩
  have hst := congrArg (fun st => (st.getById "d1").map (·.status))
    (h svc (.planDeployment true "d1") ⟨⟨[d], by decide⟩, .empty, [], 0, 0⟩ _ _ rfl).1
  exact absurd hst (by decide)

end ServiceCall

end Orchestrator
