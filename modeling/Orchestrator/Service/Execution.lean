/-
# execute_deployment creates tasks once per deployment

Over any run of service calls from a fresh process, each made on what the one before left,
returned or raised, and with `generate_id` drawing fresh ids:

* the `execute_deployment` calls that return name pairwise distinct deployments
  (`ServiceCall.executed`): `start_execution` needs PLANNED or APPROVED, leaves
  EXECUTING, and no call moves a deployment back a stage;
* the task repository holds at most one task per deployment and step, and its tasks have
  pairwise distinct idempotency keys.

The proof is an invariant of the state (`ExecutionInvariant`): stored deployments and their
plans carry only ids already drawn, the plans of two deployments share none, and each task
comes from a step of its deployment's plan, that deployment being past execution. Every
operation but creating, planning and executing only moves stored deployments on and keeps
each task's identity (`Frame`); those three draw fresh ids.

Key definitions: `ServiceCall.runAll`, `ServiceCall.executed`, `Frame`,
`ExecutionInvariant`.
Key theorems: `ExecutionInvariant.run`, `ServiceCall.execute_once_tasks_unique`.
-/
import Orchestrator.Service.ServiceFacts

namespace Orchestrator

open RuleBasedPlanningEngine (drawnIds)

/-! ### Fresh ids -/

/-- `generate_id` gave `x` before its `n`-th call. -/
def Drawn (generateId : ℕ → String) (n : ℕ) (x : String) : Prop := ∃ k < n, generateId k = x

section Fresh

variable {generateId : ℕ → String}

theorem Drawn.mono {n m : ℕ} {x : String} (h : Drawn generateId n x) (hnm : n ≤ m) :
    Drawn generateId m x :=
  let ⟨k, hk, hx⟩ := h; ⟨k, by omega, hx⟩

/-- An id drawn at the counter or later was not drawn before it. -/
theorem not_drawn_of_le (hg : Function.Injective generateId) {n j : ℕ} (h : n ≤ j) :
    ¬ Drawn generateId n (generateId j) :=
  fun ⟨_, hk, hx⟩ => by have := hg hx; omega

/-- The plans an engine returns carry fresh ids: the ids of their steps are distinct, each
drawn at a counter between the one the engine is given and the one it returns. -/
def PlanningEngine.DrawsFresh (engine : PlanningEngine) (generateId : ℕ → String) : Prop :=
  ∀ intent n p m, engine.generatePlan intent n = .ok (p, m) → n ≤ m ∧
    (p.steps.flatMap drawnIds).Nodup ∧
    ∀ x ∈ p.steps.flatMap drawnIds, ∃ k, n ≤ k ∧ k < m ∧ generateId k = x

theorem PlanningEngine.ruleBased_drawsFresh (hg : Function.Injective generateId) :
    (PlanningEngine.ruleBased generateId).DrawsFresh generateId := by
  intro intent n p m h
  obtain ⟨L, hL, hm⟩ := RuleBasedPlanningEngine.drawnIds_generatePlan generateId n intent
  simp only [PlanningEngine.ruleBased, Except.ok.injEq] at h
  rw [h] at hL hm
  refine ⟨by omega, hL ▸ RuleBasedPlanningEngine.nodup_range'_map hg n L, fun x hx => ?_⟩
  obtain ⟨k, hk, rfl⟩ := List.mem_map.mp (hL ▸ hx)
  rw [List.mem_range'_1] at hk
  exact ⟨k, hk.1, by omega, rfl⟩

end Fresh

/-! ### What most operations leave -/

/-- Each deployment stored in `st` is followed on (`Deployment.Follows`) under its key in
`st'`, and `st'` stores under no other key. -/
structure DeploymentsFollow (st st' : Store Deployment Deployment.id) : Prop where
  forth : ∀ k d, st.getById k = some d → ∃ d', st'.getById k = some d' ∧ d.Follows d'
  back : ∀ k d', st'.getById k = some d' → ∃ d, st.getById k = some d ∧ d.Follows d'

namespace DeploymentsFollow

variable {st st' st'' : Store Deployment Deployment.id}

theorem refl (st : Store Deployment Deployment.id) : DeploymentsFollow st st :=
  ⟨fun _ d h => ⟨d, h, .refl d⟩, fun _ d h => ⟨d, h, .refl d⟩⟩

theorem trans (h₁ : DeploymentsFollow st st') (h₂ : DeploymentsFollow st' st'') :
    DeploymentsFollow st st'' where
  forth k d h :=
    let ⟨_, h', hf⟩ := h₁.forth k d h
    let ⟨d'', h'', hf'⟩ := h₂.forth k _ h'
    ⟨d'', h'', hf.trans hf'⟩
  back k d'' h :=
    let ⟨_, h', hf'⟩ := h₂.back k d'' h
    let ⟨d, h₀, hf⟩ := h₁.back k _ h'
    ⟨d, h₀, hf.trans hf'⟩

/-- Storing what follows on from the deployment stored under its id. -/
theorem of_put {d d' : Deployment} (hf : d.Follows d') (h : st.getById d'.id = some d) :
    DeploymentsFollow st (st.put d') where
  forth k x hx := by
    rw [Store.getById_put]
    split
    · subst k; exact ⟨d', rfl, Option.some_injective _ (hx.symm.trans h) ▸ hf⟩
    · exact ⟨x, hx, .refl x⟩
  back k y hy := by
    rw [Store.getById_put] at hy
    split at hy
    · subst k; cases hy; exact ⟨d, h, hf⟩
    · exact ⟨y, hy, .refl y⟩

/-- Storing once more what follows on from the deployment just stored. -/
theorem put {d d' : Deployment} (h : DeploymentsFollow st (st'.put d)) (hf : d.Follows d') :
    DeploymentsFollow st ((st'.put d).put d') :=
  h.trans (of_put hf (hf.id_eq ▸ Store.getById_put_self _ _))

end DeploymentsFollow

/-- `t'` is `t` under the same id, deployment, step and idempotency key. -/
def Task.SameIdentity (t t' : Task) : Prop :=
  t'.id = t.id ∧ t'.deploymentId = t.deploymentId ∧ t'.stepId = t.stepId ∧
    t'.idempotencyKey = t.idempotencyKey

/-- What no task call changes. -/
theorem TaskCall.sameIdentity_run (c : TaskCall) (t : Task) : t.SameIdentity (c.run t).state :=
  let ⟨hid, hdep, hstep, hkey, _⟩ := c.identity_run t
  ⟨hid, hdep, hstep, hkey⟩

/-- Each task stored in `st'` is one stored in `st`, as far as its identity goes. -/
def TasksKeep (st st' : Store Task Task.id) : Prop :=
  ∀ t' ∈ st'.items, ∃ t ∈ st.items, t.SameIdentity t'

theorem Task.SameIdentity.trans {t₁ t₂ t₃ : Task} (h₁ : t₁.SameIdentity t₂)
    (h₂ : t₂.SameIdentity t₃) : t₁.SameIdentity t₃ :=
  ⟨h₂.1.trans h₁.1, h₂.2.1.trans h₁.2.1, h₂.2.2.1.trans h₁.2.2.1, h₂.2.2.2.trans h₁.2.2.2⟩

theorem TasksKeep.refl (st : Store Task Task.id) : TasksKeep st st :=
  fun t ht => ⟨t, ht, rfl, rfl, rfl, rfl⟩

theorem TasksKeep.trans {st st' st'' : Store Task Task.id} (h₁ : TasksKeep st st')
    (h₂ : TasksKeep st' st'') : TasksKeep st st'' := fun t'' ht'' =>
  let ⟨_, ht', h'⟩ := h₂ t'' ht''
  let ⟨t, ht, h⟩ := h₁ _ ht'
  ⟨t, ht, h.trans h'⟩

/-- Storing a task under the identity of a stored one. -/
theorem TasksKeep.of_put {st : Store Task Task.id} {t t' : Task} (ht : t ∈ st.items)
    (h : t.SameIdentity t') : TasksKeep st (st.put t') := fun u hu => by
  rcases (Store.mem_put _ _ _).mp hu with rfl | ⟨hu, -⟩
  · exact ⟨t, ht, h⟩
  · exact ⟨u, hu, rfl, rfl, rfl, rfl⟩

/-- **What every operation but creating, planning and executing leaves**: the stored
deployments followed on, each task's identity kept, and no id drawn. -/
structure Frame (s s' : State) : Prop where
  deployments : DeploymentsFollow s.deployments s'.deployments
  tasks : TasksKeep s.tasks s'.tasks
  nextId : s'.nextId = s.nextId

theorem Frame.refl (s : State) : Frame s s := ⟨.refl _, .refl _, rfl⟩

theorem Frame.trans {s₁ s₂ s₃ : State} (h₁ : Frame s₁ s₂) (h₂ : Frame s₂ s₃) : Frame s₁ s₃ :=
  ⟨h₁.deployments.trans h₂.deployments, h₁.tasks.trans h₂.tasks, h₂.nextId.trans h₁.nextId⟩

/-- Storing what follows on from the deployment stored under its id. -/
theorem Frame.of_putDeployment {s s' : State} {d d' : Deployment}
    (hs : s'.deployments = s.deployments.put d') (ht : s'.tasks = s.tasks)
    (hn : s'.nextId = s.nextId) (hf : d.Follows d') (h : s.deployments.getById d'.id = some d) :
    Frame s s' :=
  ⟨hs ▸ .of_put hf h, ht ▸ .refl _, hn⟩

/-! ### Continuations that stay in the frame -/

/-- A continuation on a deployment that, run from a state the frame of `s₀` reaches and that
stores the deployment it is given, ends in the frame of `s₀`, returned or raised. -/
def KeepsFrame {α : Type} (s₀ : State) (f : Deployment → ServiceM α) : Prop :=
  ∀ d s, Frame s₀ s → s.deployments.getById d.id = some d → Frame s₀ (f d s).state

namespace KeepsFrame

open ServiceM

variable {α : Type} {s₀ : State} {f : Deployment → ServiceM α}

theorem pure (a : α) : KeepsFrame s₀ fun _ => (Pure.pure a : ServiceM α) := fun _ _ h _ => h

/-- `_publish_events`, whose `collect_events` leaves the deployment stored. -/
theorem publishEvents : KeepsFrame s₀ ServiceM.publishEvents := fun d _ h hd =>
  h.trans (.of_putDeployment rfl rfl rfl (Deployment.follows_collectEvents d) hd)

theorem publishEvents_bind (hf : KeepsFrame s₀ f) :
    KeepsFrame s₀ fun d => ServiceM.publishEvents d >>= f := fun d s h hd => by
  dsimp only
  rw [ServiceM.publishEvents_bind]
  exact hf _ _ (h.trans (.of_putDeployment rfl rfl rfl (Deployment.follows_collectEvents d) hd))
    (Store.getById_put_self _ _)

/-- `update` of the stored deployment writes what is already there. -/
theorem saveDeployment_bind (hf : KeepsFrame s₀ f) :
    KeepsFrame s₀ fun d => saveDeployment d >>= fun _ => f d := fun d s h hd => by
  dsimp only
  rw [ServiceM.saveDeployment_bind, Store.put_eq_self hd]
  exact hf d s h hd

theorem listByDeployment_bind {g : Deployment → List Task → ServiceM α} (k : String)
    (hg : ∀ all, KeepsFrame s₀ fun d => g d all) :
    KeepsFrame s₀ fun d => listByDeployment k >>= g d := fun d s h hd =>
  hg _ d s h hd

/-- A method other than `set_plan` on the stored deployment. -/
theorem onDeployment_bind (c : DeploymentCall) (hc : ∀ p, c ≠ .setPlan p)
    (hf : KeepsFrame s₀ f) : KeepsFrame s₀ fun d => onDeployment d c.run >>= f :=
  fun d s h hd => by
  have h1 := Deployment.follows_run c hc d
  dsimp only
  rw [ServiceM.onDeployment_bind]
  rcases hr : c.run d with ⟨⟨⟩, d'⟩ | ⟨e, d'⟩ <;> simp only [hr, EStateM.Result.state] at h1 ⊢
  · exact hf d' _ (h.trans (.of_putDeployment rfl rfl rfl h1 (h1.id_eq ▸ hd)))
      (Store.getById_put_self _ _)
  · exact h.trans (.of_putDeployment rfl rfl rfl h1 (h1.id_eq ▸ hd))

theorem afterCompletion_bind (allTasks : List Task) (hf : KeepsFrame s₀ f) :
    KeepsFrame s₀ fun d => DeploymentDomainService.afterCompletion d allTasks >>= f :=
  fun d s h hd => by
  dsimp only [DeploymentDomainService.afterCompletion]
  split_ifs
  · exact onDeployment_bind .startVerification (by simp) hf d s h hd
  · exact onDeployment_bind .startRollback (by simp) hf d s h hd
  · exact hf d s h hd

end KeepsFrame

namespace DeploymentDomainService

open ServiceM

variable (svc : DeploymentDomainService)

theorem approveDeployment_frame (k a : String) (s : State) :
    Frame s (approveDeployment k a s).state := by
  simp only [approveDeployment, getDeployment_bind]
  rcases hd : s.deployments.getById k with _ | d
  · exact .refl s
  · obtain ⟨-, rfl⟩ := (Store.getById_eq_some_iff _ _ _).mp hd
    exact KeepsFrame.onDeployment_bind (.approve a) (by simp)
      (.saveDeployment_bind .publishEvents) d s (.refl s) hd

theorem rollbackDeployment_frame (k : String) (s : State) :
    Frame s (rollbackDeployment k s).state := by
  simp only [rollbackDeployment, getDeployment_bind]
  rcases hd : s.deployments.getById k with _ | d
  · exact .refl s
  · obtain ⟨-, rfl⟩ := (Store.getById_eq_some_iff _ _ _).mp hd
    exact KeepsFrame.onDeployment_bind .startRollback (by simp)
      (.saveDeployment_bind .publishEvents) d s (.refl s) hd

/-- `handle_task_completion` keeps the completed task's identity and moves its deployment
on. -/
theorem handleTaskCompletion_frame (k : String) (success : Bool) (o : List (String × String))
    (err : String) (s : State) : Frame s (svc.handleTaskCompletion k success o err s).state := by
  simp only [handleTaskCompletion, getTask_bind]
  rcases ht : s.tasks.getById k with _ | t
  · exact .refl s
  have htm : t ∈ s.tasks.items := ((Store.getById_eq_some_iff _ _ _).mp ht).1
  set call : TaskCall := if success then .succeed o (svc.env.utcNow s.clock)
    else .fail err (svc.env.utcNow s.clock)
  have hrun : (if success then Task.succeed o (svc.env.utcNow s.clock)
      else Task.fail err (svc.env.utcNow s.clock)) = call.run := by
    cases success <;> rfl
  have hid := call.sameIdentity_run t
  simp only [now_bind, onTask_bind, hrun]
  rcases hm : call.run t with ⟨⟨⟩, t'⟩ | ⟨e', t'⟩ <;>
    simp only [hm, EStateM.Result.state] at hid ⊢
  · simp only [saveTask_bind, Store.put_put, getDeployment_bind]
    have h1 : Frame s { s with clock := s.clock + 1, tasks := s.tasks.put t' } :=
      ⟨.refl _, .of_put htm hid, rfl⟩
    rcases hd : s.deployments.getById t'.deploymentId with _ | d
    · exact h1
    obtain ⟨-, hdk⟩ := (Store.getById_eq_some_iff _ _ _).mp hd
    exact KeepsFrame.onDeployment_bind (.recordStepResult (stepResult t' success o err)) (by simp)
      (.listByDeployment_bind _ fun all => .afterCompletion_bind all
        (.saveDeployment_bind (.publishEvents_bind (.pure ())))) d _ h1 (hdk ▸ hd)
  · exact ⟨.refl _, .of_put htm hid, rfl⟩

/-- **What a returning `execute_deployment` does**: the deployment had a plan and was PLANNED or
APPROVED; it is now past execution, every stored deployment has followed on, and one enqueued
task per step of the plan is stored, with ids drawn from the counter on. -/
theorem executeDeployment_ok {k : String} {s s' : State} {ts : List Task}
    (h : svc.executeDeployment k s = .ok ts s') :
    ∃ d p, s.deployments.getById k = some d ∧ d.plan = some p ∧ d.status.stage < 5 ∧
      DeploymentsFollow s.deployments s'.deployments ∧
      (∃ d', s'.deployments.getById k = some d' ∧ 5 ≤ d'.status.stage) ∧
      s'.tasks = (enqueuedTasks svc.env k s.nextId s.clock p.steps).foldl Store.put s.tasks ∧
      s'.nextId = s.nextId + p.steps.length := by
  simp only [executeDeployment, getDeployment_bind] at h
  rcases hd : s.deployments.getById k with _ | d <;> simp only [hd, throw_apply] at h
  · cases h
  rcases hp : d.plan with _ | p <;> simp only [hp, throw_apply] at h
  · cases h
  obtain ⟨-, rfl⟩ := (Store.getById_eq_some_iff _ _ _).mp hd
  simp only [onDeployment_bind, Deployment.startExecution_apply] at h
  split_ifs at h with hv
  simp only [saveDeployment_bind, createTasks_bind, publishEvents_bind, pure_apply] at h
  cases h
  have hst : d.status.stage < 5 := by revert hv; cases d.status <;> decide
  refine ⟨d, p, rfl, hp, hst, ?_, ⟨_, Store.getById_put_self _ _, by exact le_refl 5⟩, rfl, rfl⟩
  apply DeploymentsFollow.put _ (Deployment.follows_collectEvents _)
  apply DeploymentsFollow.put _ (.refl _)
  exact .of_put (d := d) ⟨rfl, hst.le, rfl⟩ hd

/-- **What `plan_deployment` does**: it stays in the frame (it raises before `start_planning`
returns, or the engine raised after it), or it took a PENDING deployment, had the engine draw a
plan at the counter, and stored the deployment with that plan under its key, with no other key
and no task changed. -/
theorem planDeployment_cases (acquired : Bool) (k : String) (s : State) :
    Frame s (svc.planDeployment acquired k s).state ∨
    ∃ d p m d', s.deployments.getById k = some d ∧ d.status = .pending ∧
      svc.planningEngine.generatePlan d.intent s.nextId = .ok (p, m) ∧
      (svc.planDeployment acquired k s).state.deployments.getById k = some d' ∧
      d'.plan = some p ∧
      (∀ k', k' ≠ k →
        (svc.planDeployment acquired k s).state.deployments.getById k' =
          s.deployments.getById k') ∧
      (svc.planDeployment acquired k s).state.tasks = s.tasks ∧
      (svc.planDeployment acquired k s).state.nextId = m := by
  simp only [planDeployment]
  cases acquired
  · exact .inl (.refl s)
  simp only [Bool.not_true, Bool.false_eq_true, if_false, ServiceM.pure_bind, getDeployment_bind]
  rcases hd : s.deployments.getById k with _ | d
  · exact .inl (.refl s)
  obtain ⟨-, rfl⟩ := (Store.getById_eq_some_iff _ _ _).mp hd
  simp only [onDeployment_bind, Deployment.startPlanning, Deployment.transitionTo_apply,
    Deployment.touch]
  split_ifs with hv
  · have hpend : d.status = .pending := by revert hv; cases d.status <;> decide
    simp only [generatePlan_bind]
    rcases hg : svc.planningEngine.generatePlan d.intent s.nextId with m | ⟨p, m⟩ <;> dsimp only
    · refine .inl (.of_putDeployment rfl rfl rfl ?_ hd)
      exact ⟨rfl, by simp [hpend, DeploymentStatus.stage], rfl⟩
    · simp only [onDeployment_bind, Deployment.setPlan_apply, if_true, saveDeployment_bind,
        publishEvents_apply, EStateM.Result.state]
      refine .inr ⟨d, p, m, _, rfl, hpend, hg, Store.getById_put_self _ _, rfl,
        fun k' hk' => ?_, trivial, rfl⟩
      simp only [Store.getById_put, Deployment.collectEvents, Ne.symm hk', if_false]
  · exact .inl (.of_putDeployment rfl rfl rfl (.refl d) hd)

/-- **What `create_deployment` does**: it raises with nothing changed, or it stores a
deployment without a plan under the id it draws. -/
theorem createDeployment_cases (i : DeploymentIntent) (u t : String) (s : State) :
    (svc.createDeployment i u t s).state = s ∨
    ∃ d, d.id = svc.env.generateId s.nextId ∧ d.plan = none ∧
      (svc.createDeployment i u t s).state.deployments = s.deployments.put d ∧
      (svc.createDeployment i u t s).state.tasks = s.tasks ∧
      (svc.createDeployment i u t s).state.nextId = s.nextId + 1 := by
  simp only [createDeployment]
  rcases i.targetProviders.head? with _ | p
  · exact .inl rfl
  · exact .inr ⟨_, rfl, rfl, rfl, rfl, rfl⟩

end DeploymentDomainService

namespace ServiceCall

variable (svc : DeploymentDomainService)

/-- The state after the calls, each made on what the one before left, returned or raised. -/
def runAll : State → List ServiceCall → State
  | s, [] => s
  | s, c :: cs => runAll (c.run svc s).state cs

/-- The deployments of the run's `execute_deployment` calls that returned, in order: the calls
that created tasks. -/
def executed : State → List ServiceCall → List String
  | _, [] => []
  | s, c :: cs =>
    (match c with
     | .executeDeployment k => if (c.run svc s).isOk then [k] else []
     | _ => []) ++ executed (c.run svc s).state cs

theorem state_discard {α : Type} (x : ServiceM α) (s : State) :
    ((do let _ ← x : ServiceM Unit) s).state = (x s).state := by
  change (EStateM.bind x _ s).state = _
  simp only [EStateM.bind]
  cases x s <;> rfl

theorem isOk_discard {α : Type} (x : ServiceM α) (s : State) :
    ((do let _ ← x : ServiceM Unit) s).isOk = (x s).isOk := by
  change (EStateM.bind x _ s).isOk = _
  simp only [EStateM.bind]
  cases x s <;> rfl

/-- **What one call can do to what the invariant reads**, said once: stay in the frame, or
create a deployment without a plan under a fresh id, or plan a PENDING deployment with what
the engine drew, or, for a returning `execute_deployment`, move a deployment past execution
and store a task per step of its plan. -/
theorem run_cases (c : ServiceCall) (s : State) :
    Frame s (c.run svc s).state ∨
    (∃ d, d.id = svc.env.generateId s.nextId ∧ d.plan = none ∧
      (c.run svc s).state.deployments = s.deployments.put d ∧
      (c.run svc s).state.tasks = s.tasks ∧ (c.run svc s).state.nextId = s.nextId + 1) ∨
    (∃ k d p m d', s.deployments.getById k = some d ∧ d.status = .pending ∧
      svc.planningEngine.generatePlan d.intent s.nextId = .ok (p, m) ∧
      (c.run svc s).state.deployments.getById k = some d' ∧ d'.plan = some p ∧
      (∀ k', k' ≠ k → (c.run svc s).state.deployments.getById k' = s.deployments.getById k') ∧
      (c.run svc s).state.tasks = s.tasks ∧ (c.run svc s).state.nextId = m) ∨
    (∃ k d p, c = .executeDeployment k ∧ (c.run svc s).isOk ∧
      s.deployments.getById k = some d ∧ d.plan = some p ∧ d.status.stage < 5 ∧
      DeploymentsFollow s.deployments (c.run svc s).state.deployments ∧
      (∃ d', (c.run svc s).state.deployments.getById k = some d' ∧ 5 ≤ d'.status.stage) ∧
      (c.run svc s).state.tasks =
        (enqueuedTasks svc.env k s.nextId s.clock p.steps).foldl Store.put s.tasks ∧
      (c.run svc s).state.nextId = s.nextId + p.steps.length) := by
  cases c with
  | createDeployment i u t =>
    simp only [run, state_discard]
    rcases svc.createDeployment_cases i u t s with h | h
    · exact .inl (by rw [h]; exact .refl s)
    · exact .inr (.inl h)
  | planDeployment a k =>
    simp only [run, state_discard]
    rcases svc.planDeployment_cases a k s with h | h
    · exact .inl h
    · exact .inr (.inr (.inl ⟨k, h⟩))
  | executeDeployment k =>
    simp only [run, state_discard, isOk_discard]
    rcases hr : svc.executeDeployment k s with ⟨ts, s'⟩ | ⟨e, s'⟩
    · obtain ⟨d, p, h⟩ := svc.executeDeployment_ok hr
      exact .inr (.inr (.inr ⟨k, d, p, rfl, rfl, h⟩))
    · obtain rfl := svc.executeDeployment_error hr
      exact .inl (.refl _)
  | handleTaskCompletion k success o err => exact .inl (svc.handleTaskCompletion_frame k success o err s)
  | approveDeployment k a =>
    simp only [run, state_discard]
    exact .inl (DeploymentDomainService.approveDeployment_frame k a s)
  | rollbackDeployment k =>
    simp only [run, state_discard]
    exact .inl (DeploymentDomainService.rollbackDeployment_frame k s)

/-- A returning `execute_deployment` found its deployment before execution and leaves it
past. -/
theorem executeDeployment_run_ok {k : String} {s : State}
    (h : ((ServiceCall.executeDeployment k).run svc s).isOk) :
    ∃ d d', s.deployments.getById k = some d ∧ d.status.stage < 5 ∧
      ((ServiceCall.executeDeployment k).run svc s).state.deployments.getById k = some d' ∧
      5 ≤ d'.status.stage := by
  simp only [run, isOk_discard, state_discard] at h ⊢
  rcases hr : svc.executeDeployment k s with ⟨ts, s'⟩ | ⟨e, s'⟩ <;> rw [hr] at h
  · obtain ⟨d, p, hd, -, hs, -, ⟨d', hd', hs'⟩, -⟩ := svc.executeDeployment_ok hr
    exact ⟨d, d', hd, hs, hd', hs'⟩
  · cases h

end ServiceCall

/-! ### The invariant -/

/-- Where the stored deployments stand with the ids drawn before the counter reached `n`:
every key and every id of a plan's steps was drawn, a plan's ids are distinct, and the plans
of two deployments share none. -/
structure PlansFresh (generateId : ℕ → String) (deployments : Store Deployment Deployment.id)
    (n : ℕ) : Prop where
  key_drawn : ∀ k d, deployments.getById k = some d → Drawn generateId n k
  plan_nodup : ∀ k d p, deployments.getById k = some d → d.plan = some p →
    (p.steps.flatMap drawnIds).Nodup
  plan_drawn : ∀ k d p, deployments.getById k = some d → d.plan = some p →
    ∀ x ∈ p.steps.flatMap drawnIds, Drawn generateId n x
  plans_disjoint : ∀ k₁ k₂ d₁ d₂ p₁ p₂, k₁ ≠ k₂ → deployments.getById k₁ = some d₁ →
    deployments.getById k₂ = some d₂ → d₁.plan = some p₁ → d₂.plan = some p₂ →
    ∀ x ∈ p₁.steps.flatMap drawnIds, x ∉ p₂.steps.flatMap drawnIds

/-- Where the stored tasks stand: each comes from a step of its deployment's plan, that
deployment being past execution, and no two share a step of one deployment or an idempotency
key. -/
structure TasksPlanned (deployments : Store Deployment Deployment.id)
    (tasks : Store Task Task.id) : Prop where
  from_plan : ∀ t ∈ tasks.items, ∃ d p, deployments.getById t.deploymentId = some d ∧
    5 ≤ d.status.stage ∧ d.plan = some p ∧
    ∃ step ∈ p.steps, step.stepId = t.stepId ∧ step.idempotencyKey = t.idempotencyKey
  step_unique : ∀ t ∈ tasks.items, ∀ u ∈ tasks.items, t.deploymentId = u.deploymentId →
    t.stepId = u.stepId → t.id = u.id
  key_unique : ∀ t ∈ tasks.items, ∀ u ∈ tasks.items, t.idempotencyKey = u.idempotencyKey →
    t.id = u.id

/-- **The invariant of every state a run reaches.** -/
structure ExecutionInvariant (generateId : ℕ → String) (s : State) : Prop where
  plans : PlansFresh generateId s.deployments s.nextId
  tasks : TasksPlanned s.deployments s.tasks

theorem idempotencyKey_mem_drawnIds {steps : List ExecutionStep} {step : ExecutionStep}
    (h : step ∈ steps) : step.idempotencyKey ∈ steps.flatMap drawnIds :=
  List.mem_flatMap.mpr ⟨step, h, by simp [drawnIds]⟩

section Enqueued

variable (env : Env) (D : String)

theorem mem_enqueuedTasks {u : Task} : ∀ {n c : ℕ} {steps : List ExecutionStep},
    u ∈ enqueuedTasks env D n c steps → u.deploymentId = D ∧
      ∃ step ∈ steps, step.stepId = u.stepId ∧ step.idempotencyKey = u.idempotencyKey
  | _, _, [], h => absurd h (List.not_mem_nil _)
  | _, _, step :: _, h => by
    rcases List.mem_cons.mp h with rfl | h
    · exact ⟨rfl, step, List.mem_cons_self _ _, rfl, rfl⟩
    · obtain ⟨hD, s, hs, h1, h2⟩ := mem_enqueuedTasks h
      exact ⟨hD, s, List.mem_cons_of_mem _ hs, h1, h2⟩

theorem map_stepId_enqueuedTasks : ∀ (n c : ℕ) (steps : List ExecutionStep),
    (enqueuedTasks env D n c steps).map (·.stepId) = steps.map (·.stepId)
  | _, _, [] => rfl
  | n, c, step :: steps =>
    congrArg (step.stepId :: ·) (map_stepId_enqueuedTasks (n + 1) (c + 1) steps)

theorem map_idempotencyKey_enqueuedTasks : ∀ (n c : ℕ) (steps : List ExecutionStep),
    (enqueuedTasks env D n c steps).map (·.idempotencyKey) = steps.map (·.idempotencyKey)
  | _, _, [] => rfl
  | n, c, step :: steps =>
    congrArg (step.idempotencyKey :: ·) (map_idempotencyKey_enqueuedTasks (n + 1) (c + 1) steps)

end Enqueued

section Invariant

variable {generateId : ℕ → String} {st st' : Store Deployment Deployment.id}
  {ts ts' : Store Task Task.id} {n m : ℕ}

namespace PlansFresh

/-- Deployments that follow on keep their plans, and later counters see more ids drawn. -/
theorem follow (h : PlansFresh generateId st n) (hD : DeploymentsFollow st st') (hn : n ≤ m) :
    PlansFresh generateId st' m where
  key_drawn k d' hd' :=
    let ⟨d, hd, _⟩ := hD.back k d' hd'
    (h.key_drawn k d hd).mono hn
  plan_nodup k d' p hd' hp :=
    let ⟨d, hd, hf⟩ := hD.back k d' hd'
    h.plan_nodup k d p hd (hf.plan_eq.symm.trans hp)
  plan_drawn k d' p hd' hp x hx :=
    let ⟨d, hd, hf⟩ := hD.back k d' hd'
    (h.plan_drawn k d p hd (hf.plan_eq.symm.trans hp) x hx).mono hn
  plans_disjoint k₁ k₂ _ _ p₁ p₂ hk h₁ h₂ hp₁ hp₂ :=
    let ⟨d₁, hd₁, hf₁⟩ := hD.back k₁ _ h₁
    let ⟨d₂, hd₂, hf₂⟩ := hD.back k₂ _ h₂
    h.plans_disjoint k₁ k₂ d₁ d₂ p₁ p₂ hk hd₁ hd₂ (hf₁.plan_eq.symm.trans hp₁)
      (hf₂.plan_eq.symm.trans hp₂)

/-- `create_deployment` stores, under the id it draws, a deployment without a plan. -/
theorem put_new (h : PlansFresh generateId st n) {d : Deployment} (hid : d.id = generateId n)
    (hp : d.plan = none) : PlansFresh generateId (st.put d) (n + 1) where
  key_drawn k x hx := by
    rcases Store.getById_put_eq_some hx with ⟨rfl, -⟩ | ⟨-, hx⟩
    · exact ⟨n, n.lt_succ_self, hid.symm⟩
    · exact (h.key_drawn k x hx).mono n.le_succ
  plan_nodup k x q hx hq := by
    rcases Store.getById_put_eq_some hx with ⟨-, rfl⟩ | ⟨-, hx⟩
    · simp [hp] at hq
    · exact h.plan_nodup k x q hx hq
  plan_drawn k x q hx hq y hy := by
    rcases Store.getById_put_eq_some hx with ⟨-, rfl⟩ | ⟨-, hx⟩
    · simp [hp] at hq
    · exact (h.plan_drawn k x q hx hq y hy).mono n.le_succ
  plans_disjoint k₁ k₂ x₁ x₂ q₁ q₂ hk h₁ h₂ hq₁ hq₂ := by
    rcases Store.getById_put_eq_some h₁ with ⟨-, rfl⟩ | ⟨-, h₁⟩
    · simp [hp] at hq₁
    rcases Store.getById_put_eq_some h₂ with ⟨-, rfl⟩ | ⟨-, h₂⟩
    · simp [hp] at hq₂
    exact h.plans_disjoint k₁ k₂ x₁ x₂ q₁ q₂ hk h₁ h₂ hq₁ hq₂

/-- `plan_deployment` stores under one key a plan whose ids are drawn from the counter on. -/
theorem replan (hg : Function.Injective generateId) (h : PlansFresh generateId st n) {k : String}
    {d d' : Deployment} {p : ExecutionPlan} (hk : st.getById k = some d)
    (hk' : st'.getById k = some d') (hp : d'.plan = some p)
    (hother : ∀ k', k' ≠ k → st'.getById k' = st.getById k') (hnm : n ≤ m)
    (hnd : (p.steps.flatMap drawnIds).Nodup)
    (hfresh : ∀ x ∈ p.steps.flatMap drawnIds, ∃ j, n ≤ j ∧ j < m ∧ generateId j = x) :
    PlansFresh generateId st' m := by
  have get : ∀ k₀ x, st'.getById k₀ = some x → (k₀ = k ∧ x = d') ∨ st.getById k₀ = some x :=
    fun k₀ x hx => by
      by_cases hk₀ : k₀ = k
      · subst hk₀; rw [hk'] at hx; exact .inl ⟨rfl, (Option.some_injective _ hx).symm⟩
      · exact .inr ((hother k₀ hk₀).symm.trans hx)
  have old_fresh : ∀ k₀ x q, st.getById k₀ = some x → x.plan = some q →
      ∀ y ∈ q.steps.flatMap drawnIds, y ∉ p.steps.flatMap drawnIds := fun k₀ x q hx hq y hy hy' =>
    let ⟨_, hj, _, hjy⟩ := hfresh y hy'
    not_drawn_of_le hg hj (hjy ▸ h.plan_drawn k₀ x q hx hq y hy)
  refine ⟨fun k₀ x hx => ?_, fun k₀ x q hx hq => ?_, fun k₀ x q hx hq y hy => ?_,
    fun k₁ k₂ x₁ x₂ q₁ q₂ hk₁₂ h₁ h₂ hq₁ hq₂ => ?_⟩
  · rcases get k₀ x hx with ⟨rfl, -⟩ | hx
    · exact (h.key_drawn _ d hk).mono hnm
    · exact (h.key_drawn _ x hx).mono hnm
  · rcases get k₀ x hx with ⟨-, rfl⟩ | hx
    · rw [hp] at hq; cases hq; exact hnd
    · exact h.plan_nodup k₀ x q hx hq
  · rcases get k₀ x hx with ⟨-, rfl⟩ | hx
    · rw [hp] at hq; cases hq
      obtain ⟨j, -, hj, rfl⟩ := hfresh y hy
      exact ⟨j, hj, rfl⟩
    · exact (h.plan_drawn k₀ x q hx hq y hy).mono hnm
  · rcases get k₁ x₁ h₁ with ⟨rfl, rfl⟩ | h₁ <;> rcases get k₂ x₂ h₂ with ⟨rfl, rfl⟩ | h₂
    · exact absurd rfl hk₁₂
    · rw [hp] at hq₁; cases hq₁
      exact fun y hy hy' => old_fresh k₂ x₂ q₂ h₂ hq₂ y hy' hy
    · rw [hp] at hq₂; cases hq₂
      exact old_fresh k₁ x₁ q₁ h₁ hq₁
    · exact h.plans_disjoint k₁ k₂ x₁ x₂ q₁ q₂ hk₁₂ h₁ h₂ hq₁ hq₂

end PlansFresh

namespace TasksPlanned

/-- Deployments that follow on, and tasks that keep their identity. -/
theorem follow (h : TasksPlanned st ts) (hD : DeploymentsFollow st st') (hT : TasksKeep ts ts') :
    TasksPlanned st' ts' where
  from_plan t' ht' := by
    obtain ⟨t, ht, -, hdep, hstep, hkey⟩ := hT t' ht'
    obtain ⟨d, p, hd, hs, hp, step, hmem, h1, h2⟩ := h.from_plan t ht
    obtain ⟨d', hd', hf⟩ := hD.forth _ d hd
    exact ⟨d', p, hdep ▸ hd', hs.trans hf.stage_le, hf.plan_eq.trans hp, step, hmem,
      h1.trans hstep.symm, h2.trans hkey.symm⟩
  step_unique t' ht' u' hu' hd hs := by
    obtain ⟨t, ht, hid, hdep, hstep, -⟩ := hT t' ht'
    obtain ⟨u, hu, hid', hdep', hstep', -⟩ := hT u' hu'
    rw [hid, hid']
    exact h.step_unique t ht u hu (by rw [← hdep, ← hdep', hd]) (by rw [← hstep, ← hstep', hs])
  key_unique t' ht' u' hu' hk := by
    obtain ⟨t, ht, hid, -, -, hkey⟩ := hT t' ht'
    obtain ⟨u, hu, hid', -, -, hkey'⟩ := hT u' hu'
    rw [hid, hid']
    exact h.key_unique t ht u hu (by rw [← hkey, ← hkey', hk])

/-- A deployment stored under a key no task names. -/
theorem put_absent (h : TasksPlanned st ts) {d : Deployment} (hd : st.getById d.id = none) :
    TasksPlanned (st.put d) ts where
  from_plan t ht := by
    obtain ⟨x, p, hx, rest⟩ := h.from_plan t ht
    refine ⟨x, p, ?_, rest⟩
    rwa [Store.getById_put_ne _ _ fun he => by rw [he, hx] at hd; cases hd]
  step_unique := h.step_unique
  key_unique := h.key_unique

/-- Only the deployment under one key changes, and it was before execution: no task names
it. -/
theorem replan (h : TasksPlanned st ts) {k : String} {d : Deployment}
    (hk : st.getById k = some d) (hs : d.status.stage < 5)
    (hother : ∀ k', k' ≠ k → st'.getById k' = st.getById k') : TasksPlanned st' ts where
  from_plan t ht := by
    obtain ⟨x, p, hx, hxs, rest⟩ := h.from_plan t ht
    have hne : t.deploymentId ≠ k := by
      rintro rfl; rw [hk] at hx; cases hx; omega
    exact ⟨x, p, (hother _ hne).trans hx, hxs, rest⟩
  step_unique := h.step_unique
  key_unique := h.key_unique

/-- `execute_deployment` stores a task per step of the plan of a deployment before
execution, which it moves past execution. -/
theorem execute (h : TasksPlanned st ts) (hP : PlansFresh generateId st n)
    (hD : DeploymentsFollow st st') {k : String} {d : Deployment} {p : ExecutionPlan}
    (hk : st.getById k = some d) (hp : d.plan = some p) (hs : d.status.stage < 5)
    (hk' : ∃ d', st'.getById k = some d' ∧ 5 ≤ d'.status.stage) (env : Env) (c : ℕ) :
    TasksPlanned st' ((enqueuedTasks env k n c p.steps).foldl Store.put ts) := by
  have hnd := hP.plan_nodup k d p hk hp
  have hstepNodup : ((enqueuedTasks env k n c p.steps).map (·.stepId)).Nodup := by
    rw [map_stepId_enqueuedTasks]; exact RuleBasedPlanningEngine.nodup_stepId_of_drawnIds hnd
  have hkeyNodup : ((enqueuedTasks env k n c p.steps).map (·.idempotencyKey)).Nodup := by
    rw [map_idempotencyKey_enqueuedTasks]
    exact RuleBasedPlanningEngine.nodup_map_of_drawnIds _ (fun _ => by simp [drawnIds]) hnd
  -- the tasks already stored belong to deployments past execution, whose plans share no id
  -- with this one
  have hold : ∀ v ∈ ts.items, v.deploymentId ≠ k := fun v hv he => by
    obtain ⟨x, q, hx, hxs, -⟩ := h.from_plan v hv
    rw [he, hk] at hx; cases hx; omega
  have hkeys : ∀ v ∈ ts.items, ∀ u ∈ enqueuedTasks env k n c p.steps,
      v.idempotencyKey ≠ u.idempotencyKey := fun v hv u hu he => by
    obtain ⟨x, q, hx, -, hq, sv, hsv, -, hkv⟩ := h.from_plan v hv
    obtain ⟨-, su, hsu, -, hku⟩ := mem_enqueuedTasks env k hu
    exact hP.plans_disjoint _ _ x d q p (hold v hv) hx hk hq hp v.idempotencyKey
      (hkv ▸ idempotencyKey_mem_drawnIds hsv) (he ▸ hku ▸ idempotencyKey_mem_drawnIds hsu)
  obtain ⟨d', hd', hs'⟩ := hk'
  obtain ⟨_, hd'', hf⟩ := hD.forth k d hk
  rw [hd'] at hd''; cases hd''
  refine ⟨fun u hu => ?_, fun u hu v hv hdep hstep => ?_, fun u hu v hv hkey => ?_⟩
  · rcases Store.mem_foldl_put _ _ hu with hu | hu
    · obtain ⟨rfl, step, hmem, h1, h2⟩ := mem_enqueuedTasks env k hu
      exact ⟨d', p, hd', hs', hf.plan_eq.trans hp, step, hmem, h1, h2⟩
    · obtain ⟨x, q, hx, hxs, hq, rest⟩ := h.from_plan u hu
      obtain ⟨x', hx', hf'⟩ := hD.forth _ x hx
      exact ⟨x', q, hx', hxs.trans hf'.stage_le, hf'.plan_eq.trans hq, rest⟩
  · rcases Store.mem_foldl_put _ _ hu with hu | hu <;>
      rcases Store.mem_foldl_put _ _ hv with hv | hv
    · rw [List.inj_on_of_nodup_map hstepNodup hu hv hstep]
    · exact absurd (hdep.symm.trans (mem_enqueuedTasks env k hu).1) (hold v hv)
    · exact absurd (hdep.trans (mem_enqueuedTasks env k hv).1) (hold u hu)
    · exact h.step_unique u hu v hv hdep hstep
  · rcases Store.mem_foldl_put _ _ hu with hu | hu <;>
      rcases Store.mem_foldl_put _ _ hv with hv | hv
    · rw [List.inj_on_of_nodup_map hkeyNodup hu hv hkey]
    · exact absurd hkey.symm (hkeys v hv u hu)
    · exact absurd hkey (hkeys u hu v hv)
    · exact h.key_unique u hu v hv hkey

end TasksPlanned

end Invariant

namespace ExecutionInvariant

variable {svc : DeploymentDomainService}

theorem empty (generateId : ℕ → String) : ExecutionInvariant generateId State.empty where
  plans := ⟨fun _ _ h => (nomatch h), fun _ _ _ h => (nomatch h), fun _ _ _ h => (nomatch h),
    fun _ _ _ _ _ _ _ h => (nomatch h)⟩
  tasks := ⟨fun _ h => (nomatch h), fun _ h => (nomatch h), fun _ h => (nomatch h)⟩

/-- **One call keeps the invariant**, returned or raised. -/
theorem run (hg : Function.Injective svc.env.generateId)
    (hfresh : svc.planningEngine.DrawsFresh svc.env.generateId) {s : State}
    (h : ExecutionInvariant svc.env.generateId s) (c : ServiceCall) :
    ExecutionInvariant svc.env.generateId (c.run svc s).state := by
  rcases c.run_cases svc s with hf | ⟨d, hid, hp, hD, hT, hN⟩ |
    ⟨k, d, p, m, d', hk, hpend, hgen, hk', hp', hother, hT, hN⟩ |
    ⟨k, d, p, -, -, hk, hp, hs, hD, hk', hT, hN⟩
  · exact ⟨h.plans.follow hf.deployments hf.nextId.ge, h.tasks.follow hf.deployments hf.tasks⟩
  · have habs : s.deployments.getById d.id = none := by
      rcases hx : s.deployments.getById d.id with _ | x
      · rfl
      · exact absurd (hid ▸ h.plans.key_drawn _ x hx) (not_drawn_of_le hg le_rfl)
    refine ⟨?_, ?_⟩
    · rw [hD, hN]; exact h.plans.put_new hid hp
    · rw [hD, hT]; exact h.tasks.put_absent habs
  · obtain ⟨hnm, hnd, hfr⟩ := hfresh _ _ _ _ hgen
    refine ⟨?_, ?_⟩
    · rw [hN]; exact h.plans.replan hg hk hk' hp' hother hnm hnd hfr
    · rw [hT]; exact h.tasks.replan hk (by simp [hpend, DeploymentStatus.stage]) hother
  · refine ⟨h.plans.follow hD (by omega), ?_⟩
    rw [hT]; exact h.tasks.execute h.plans hD hk hp hs hk' svc.env s.clock

/-- **No call moves a stored deployment back a stage**, nor drops it. -/
theorem stage_run (hg : Function.Injective svc.env.generateId) {s : State}
    (h : ExecutionInvariant svc.env.generateId s) (c : ServiceCall)
    {k : String} {d : Deployment} (hd : s.deployments.getById k = some d) :
    ∃ d', (c.run svc s).state.deployments.getById k = some d' ∧
      d.status.stage ≤ d'.status.stage := by
  rcases c.run_cases svc s with hf | ⟨d₀, hid, -, hD, -⟩ |
    ⟨k₀, d₀, p, m, d', hk₀, hpend, -, hk', -, hother, -⟩ | ⟨_, _, _, -, -, -, -, -, hD, -⟩
  · obtain ⟨d', hd', hf'⟩ := hf.deployments.forth k d hd
    exact ⟨d', hd', hf'.stage_le⟩
  · refine ⟨d, ?_, le_rfl⟩
    rw [hD, Store.getById_put_ne _ _ fun he => ?_]
    · exact hd
    · exact not_drawn_of_le hg le_rfl (hid ▸ he ▸ h.plans.key_drawn k d hd)
  · by_cases hkk : k = k₀
    · subst hkk; rw [hk₀] at hd; cases hd
      exact ⟨d', hk', by simp [hpend, DeploymentStatus.stage]⟩
    · exact ⟨d, (hother k hkk).trans hd, le_rfl⟩
  · obtain ⟨d', hd', hf'⟩ := hD.forth k d hd
    exact ⟨d', hd', hf'.stage_le⟩

theorem runAll (hg : Function.Injective svc.env.generateId)
    (hfresh : svc.planningEngine.DrawsFresh svc.env.generateId) :
    ∀ (cs : List ServiceCall) {s : State}, ExecutionInvariant svc.env.generateId s →
      ExecutionInvariant svc.env.generateId (ServiceCall.runAll svc s cs)
  | [], _, h => h
  | c :: cs, _, h => runAll hg hfresh cs (h.run hg hfresh c)

/-- The `execute_deployment` calls of a run that return name distinct deployments, each one
before execution when the run starts. -/
theorem executed_nodup (hg : Function.Injective svc.env.generateId)
    (hfresh : svc.planningEngine.DrawsFresh svc.env.generateId) :
    ∀ (cs : List ServiceCall) {s : State}, ExecutionInvariant svc.env.generateId s →
      (ServiceCall.executed svc s cs).Nodup ∧ ∀ k ∈ ServiceCall.executed svc s cs, ∀ d,
        s.deployments.getById k = some d → d.status.stage < 5
  | [], _, _ => ⟨List.nodup_nil, fun _ h => absurd h (List.not_mem_nil _)⟩
  | c :: cs, s, h => by
    obtain ⟨ih, ihs⟩ := executed_nodup hg hfresh cs (h.run hg hfresh c)
    have later : ∀ k ∈ ServiceCall.executed svc (c.run svc s).state cs, ∀ d,
        s.deployments.getById k = some d → d.status.stage < 5 := fun k hk d hd =>
      let ⟨d', hd', hle⟩ := h.stage_run hg c hd
      lt_of_le_of_lt hle (ihs k hk d' hd')
    cases c with
    | executeDeployment k =>
      simp only [ServiceCall.executed]
      split_ifs with hok
      · obtain ⟨d, d', hd, hs, hd', hs'⟩ := ServiceCall.executeDeployment_run_ok svc hok
        refine ⟨List.nodup_cons.mpr ⟨fun hk => ?_, ih⟩, fun k₀ hk₀ d₀ hd₀ => ?_⟩
        · exact absurd (ihs k hk d' hd') (not_lt.mpr hs')
        · rcases List.mem_cons.mp hk₀ with rfl | hk₀
          · rw [hd] at hd₀; cases hd₀; exact hs
          · exact later k₀ hk₀ d₀ hd₀
      · exact ⟨ih, later⟩
    | _ => exact ⟨ih, later⟩

end ExecutionInvariant

namespace ServiceCall

/-- **`execute_deployment` creates tasks once per deployment.** Take the service as the
container wires it, with the rule-based planner, and a `generate_id` that never repeats. Over
any sequence of calls from a fresh process, each made on what the one before left, returned
or raised: the `execute_deployment` calls that return name pairwise distinct deployments,
the task repository holds at most one task per deployment and step, and no two stored tasks
share an idempotency key. -/
theorem execute_once_tasks_unique (env : Env) (hg : Function.Injective env.generateId)
    (cs : List ServiceCall) :
    let svc : DeploymentDomainService := ⟨env, .ruleBased env.generateId⟩
    let s := runAll svc State.empty cs
    (executed svc State.empty cs).Nodup ∧
      (∀ t ∈ s.tasks.items, ∀ u ∈ s.tasks.items,
        t.deploymentId = u.deploymentId → t.stepId = u.stepId → t = u) ∧
      ∀ t ∈ s.tasks.items, ∀ u ∈ s.tasks.items, t.idempotencyKey = u.idempotencyKey → t = u := by
  intro svc s
  have hg : Function.Injective svc.env.generateId := hg
  have hfresh : svc.planningEngine.DrawsFresh svc.env.generateId :=
    PlanningEngine.ruleBased_drawsFresh hg
  have hinv := ExecutionInvariant.runAll hg hfresh cs (.empty _)
  refine ⟨(ExecutionInvariant.executed_nodup hg hfresh cs (.empty _)).1,
    fun t ht u hu h₁ h₂ => ?_, fun t ht u hu h => ?_⟩
  · exact List.inj_on_of_nodup_map s.tasks.keys_nodup ht hu
      (hinv.tasks.step_unique t ht u hu h₁ h₂)
  · exact List.inj_on_of_nodup_map s.tasks.keys_nodup ht hu (hinv.tasks.key_unique t ht u hu h)

/-- Two executions of one planned deployment, over ids that never repeat. -/
theorem execute_once_twice_executed :
    let env : Env := ⟨fun k => ⟨List.replicate k 'a'⟩, id⟩
    let cs : List ServiceCall :=
      [.createDeployment { targetProviders := [.aws] } "alice" "t1", .planDeployment true "",
        .executeDeployment "", .executeDeployment ""]
    Function.Injective env.generateId ∧
      let svc : DeploymentDomainService := ⟨env, .ruleBased env.generateId⟩
      let s := runAll svc State.empty cs
      (executed svc State.empty cs).Nodup ∧
        (∀ t ∈ s.tasks.items, ∀ u ∈ s.tasks.items,
          t.deploymentId = u.deploymentId → t.stepId = u.stepId → t = u) ∧
        ∀ t ∈ s.tasks.items, ∀ u ∈ s.tasks.items, t.idempotencyKey = u.idempotencyKey → t = u := by
  intro env cs
  have hg : Function.Injective env.generateId := fun a b h => by
    simpa [env] using congrArg (fun s : String => s.data.length) h
  exact ⟨hg, execute_once_tasks_unique env hg cs⟩

end ServiceCall

end Orchestrator
