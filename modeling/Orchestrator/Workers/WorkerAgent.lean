/-
# Workers, and the order in which tasks start

`WorkerAgent` (`workers/base.py`) over the in-memory task repository, next to
`handle_task_completion`. A worker's `_poll_for_tasks` compares `_active_tasks` with
`max_concurrent`, calls `acquire_next` and spawns `_execute_task_lifecycle` for the task it
gets. The lifecycle adds the task to `_active_tasks`, waits on the semaphore, calls
`task.start()` and `update`, awaits `execute` under the task's deadline, records the outcome
with `succeed`, `timeout` or `fail`, updates, publishes `task.<status>`, and leaves the
semaphore and `_active_tasks`.

A `WorkerSystem` is the shared stores, the workers and the lifecycles spawned so far, each
with where it stands (`LifecyclePc`). A `WorkerEvent` is one worker's poll, one lifecycle
running to its next await, or one call of `handle_task_completion`; `WorkerSystem.run` takes
them in any order.

The planner resolves each step's dependencies "so the execution engine respects resource
ordering", and `execute_deployment` copies them into every task's `input_data`, but nothing on
this path reads them: after `execute_deployment` has enqueued a two-step plan, a worker starts
the first task, polls again and starts the second while the task of the step it depends on is
RUNNING (`start_before_dependency`). What the code gives is the order of `acquire_next`
(`acquireNext_eq`), kept over whole runs: when a lifecycle's `start` returns, no task created
before its task is still QUEUED (`start_follows_created_at`).

Key definitions: `WorkerSystem.step`, `WorkerSystem.run`, `WorkerSystem.Starts`.
Key theorems: `acquireNext_eq`, `WorkerSystem.start_follows_created_at`,
`WorkerSystem.start_before_dependency`.
-/
import Orchestrator.Service.ServiceFacts

namespace Orchestrator

/-! ### The lifecycle's task methods -/

/-- The outcome of `asyncio.wait_for(self.execute(task), timeout=task.timeout_seconds)`. -/
inductive ExecuteOutcome
  | result (output : List (String × String))
  | timedOut
  | raised (message : String)
  deriving DecidableEq, Repr

/-- `str(e)` of what a task method raises. -/
def TaskError.message : TaskError → String
  | .invalidTransition src dst => "Task cannot transition from " ++ src.value ++ " to " ++ dst.value
  | .maxRetriesExceeded message => message

/-- The `try` block after `execute`: `succeed(result)`, `timeout()` on `TimeoutError`, and
`fail(str(e))` on any other exception, one that `succeed` raises included. -/
def recordOutcome (now : ℕ) : ExecuteOutcome → TaskM Unit
  | .result output => fun t =>
    match Task.succeed output now t with
    | .ok () t' => .ok () t'
    | .error e t' => Task.fail e.message now t'
  | .timedOut => Task.timeout now
  | .raised message => Task.fail message now

namespace ServiceM

/-- `task.start()` and `update(task)`. The lifecycle's task is the stored object itself, which
no operation removes. -/
def startTask (env : Env) (taskId : String) : ServiceM Unit := do
  let some t ← getTask taskId | pure ()
  let time ← now env
  let t ← onTask t (Task.start time)
  saveTask t

/-- From `execute`'s outcome to `update(task)` and the `task.<status>` publication. -/
def finishTask (env : Env) (workerId taskId : String) (outcome : ExecuteOutcome) :
    ServiceM Unit := do
  let some t ← getTask taskId | pure ()
  let time ← now env
  let t ← onTask t (recordOutcome time outcome)
  saveTask t
  publish (.taskStatus t.id t.deploymentId workerId t.status)

end ServiceM

/-! ### Workers and their lifecycles -/

/-- A worker's `_active_tasks` and the free permits of its semaphore. -/
structure Worker where
  workerId : String
  maxConcurrent : ℕ
  activeTasks : List String
  permits : ℕ
  deriving DecidableEq, Repr

/-- `WorkerAgent(worker_id, max_concurrent=...)`: no active task, every permit free. -/
def Worker.init (workerId : String) (maxConcurrent : ℕ) : Worker :=
  ⟨workerId, maxConcurrent, [], maxConcurrent⟩

/-- Where a `_execute_task_lifecycle` stands. -/
inductive LifecyclePc
  /-- Created by `asyncio.create_task`, not yet run. -/
  | spawned
  /-- In `_active_tasks`, waiting in `async with self._semaphore`. -/
  | waitingPermit
  /-- `start` returned; awaiting `execute`. -/
  | executing
  | finished
  deriving DecidableEq, Repr

/-- A lifecycle: its worker's index and its task's id. -/
structure Lifecycle where
  worker : ℕ
  taskId : String
  pc : LifecyclePc
  deriving DecidableEq, Repr

/-- The lifecycle has not called `start`. -/
def Lifecycle.Pending (lc : Lifecycle) : Prop := lc.pc = .spawned ∨ lc.pc = .waitingPermit

/-- The shared stores, the workers, and every lifecycle spawned so far. -/
structure WorkerSystem where
  state : State
  workers : List Worker
  lifecycles : List Lifecycle

/-- What can happen next: a worker polls, a lifecycle runs to its next await (or gets
`execute`'s outcome), or `handle_task_completion` is called. -/
inductive WorkerEvent
  | poll (worker : ℕ)
  | resume (lifecycle : ℕ)
  | finish (lifecycle : ℕ) (outcome : ExecuteOutcome)
  | complete (taskId : String) (success : Bool) (output : List (String × String)) (error : String)
  deriving DecidableEq, Repr

namespace WorkerSystem

open ServiceM

variable (svc : DeploymentDomainService)

/-- `_poll_for_tasks` of worker `w`: below `max_concurrent` active tasks, `acquire_next`, and a
lifecycle spawned for the task it returns. What it raises, the loop catches. -/
def poll (sys : WorkerSystem) (w : ℕ) : WorkerSystem :=
  match sys.workers[w]? with
  | none => sys
  | some worker =>
    if worker.maxConcurrent ≤ worker.activeTasks.length then sys
    else match acquireNext worker.workerId sys.state with
      | .ok (some t) s => { sys with state := s, lifecycles := sys.lifecycles ++ [⟨w, t.id, .spawned⟩] }
      | .ok none s => { sys with state := s }
      | .error _ s => { sys with state := s }

/-- Lifecycle `j` has a permit of `worker`: `start` and `update`. When `start` raises, the
`async with` gives the permit back and the `finally` discards the task. -/
def startLifecycle (sys : WorkerSystem) (j : ℕ) (lc : Lifecycle) (worker : Worker) :
    WorkerSystem :=
  match startTask svc.env lc.taskId sys.state with
  | .ok () s =>
    ⟨s, sys.workers.set lc.worker { worker with permits := worker.permits - 1 },
      sys.lifecycles.set j { lc with pc := .executing }⟩
  | .error _ s =>
    ⟨s, sys.workers.set lc.worker { worker with activeTasks := worker.activeTasks.erase lc.taskId },
      sys.lifecycles.set j { lc with pc := .finished }⟩

/-- Lifecycle `j` runs to its next await: once spawned, `_active_tasks.add` and the semaphore;
once a permit is free, `start`. -/
def resume (sys : WorkerSystem) (j : ℕ) : WorkerSystem :=
  match sys.lifecycles[j]? with
  | none => sys
  | some lc =>
    match sys.workers[lc.worker]?, lc.pc with
    | some worker, .spawned =>
      let worker := { worker with activeTasks := worker.activeTasks.insert lc.taskId }
      if worker.permits = 0 then
        { sys with workers := sys.workers.set lc.worker worker,
                   lifecycles := sys.lifecycles.set j { lc with pc := .waitingPermit } }
      else startLifecycle svc { sys with workers := sys.workers.set lc.worker worker } j lc worker
    | some worker, .waitingPermit =>
      if worker.permits = 0 then sys else startLifecycle svc sys j lc worker
    | _, _ => sys

/-- Lifecycle `j`, executing, gets `execute`'s outcome: the method it calls, `update` and the
publication, then the permit back and the task discarded, whether that raised or not. -/
def finish (sys : WorkerSystem) (j : ℕ) (outcome : ExecuteOutcome) : WorkerSystem :=
  match sys.lifecycles[j]? with
  | none => sys
  | some lc =>
    match sys.workers[lc.worker]?, lc.pc with
    | some worker, .executing =>
      ⟨(finishTask svc.env worker.workerId lc.taskId outcome sys.state).state,
        sys.workers.set lc.worker { worker with permits := worker.permits + 1,
                                                activeTasks := worker.activeTasks.erase lc.taskId },
        sys.lifecycles.set j { lc with pc := .finished }⟩
    | _, _ => sys

/-- One event. -/
def step (sys : WorkerSystem) : WorkerEvent → WorkerSystem
  | .poll w => sys.poll w
  | .resume j => resume svc sys j
  | .finish j outcome => finish svc sys j outcome
  | .complete taskId success output error =>
    { sys with state := (svc.handleTaskCompletion taskId success output error sys.state).state }

/-- The events of a schedule, one after the other. -/
def run (sys : WorkerSystem) (events : List WorkerEvent) : WorkerSystem :=
  events.foldl (step svc) sys

/-- Event `e` from `sys` is the return of a lifecycle's `task.start()` on task `k`: the
lifecycle, on `k`, had not started and is executing after. -/
def Starts (sys : WorkerSystem) (e : WorkerEvent) (k : String) : Prop :=
  ∃ j lc, e = .resume j ∧ sys.lifecycles[j]? = some lc ∧ lc.taskId = k ∧ lc.pc ≠ .executing ∧
    ((step svc sys e).lifecycles[j]?).map Lifecycle.pc = some .executing

/-- The task under `k` may start in dependency order: every task of its deployment whose step
is among the `dependencies` of the task's step, as `_resolve_dependencies` set them "so the
execution engine respects resource ordering", has SUCCEEDED. -/
def DependenciesSucceeded (s : State) (k : String) : Prop :=
  ∀ t ∈ s.tasks.getById k, ∀ d ∈ s.deployments.getById t.deploymentId, ∀ p ∈ d.plan,
    ∀ step ∈ p.steps, step.stepId = t.stepId →
      ∀ u ∈ s.tasks.items, u.deploymentId = t.deploymentId → u.stepId ∈ step.dependencies →
        u.status = .succeeded

instance (s : State) (k : String) : Decidable (DependenciesSucceeded s k) :=
  inferInstanceAs <| Decidable <|
    ∀ t ∈ s.tasks.getById k, ∀ d ∈ s.deployments.getById t.deploymentId, ∀ p ∈ d.plan,
      ∀ step ∈ p.steps, step.stepId = t.stepId →
        ∀ u ∈ s.tasks.items, u.deploymentId = t.deploymentId → u.stepId ∈ step.dependencies →
          u.status = .succeeded

end WorkerSystem

/-! ### Tasks only move on -/

/-- `t'` is `t` after calls that neither enqueue nor retry it: the same id and creation time,
and QUEUED only if `t` was. -/
structure Task.Progresses (t t' : Task) : Prop where
  id_eq : t'.id = t.id
  createdAt_eq : t'.createdAt = t.createdAt
  queued : t'.status = .queued → t.status = .queued

theorem Task.Progresses.trans {t₁ t₂ t₃ : Task} (h₁ : t₁.Progresses t₂) (h₂ : t₂.Progresses t₃) :
    t₁.Progresses t₃ :=
  ⟨h₂.id_eq.trans h₁.id_eq, h₂.createdAt_eq.trans h₁.createdAt_eq, h₁.queued ∘ h₂.queued⟩

open Task in
/-- Only `enqueue` and `retry` move a task to QUEUED. -/
theorem TaskCall.progresses_run (c : TaskCall) (he : c ≠ .enqueue) (hr : c ≠ .retry) (t : Task) :
    t.Progresses (c.run t).state := by
  obtain ⟨hid, -, -, -, hc⟩ := c.identity_run t
  refine ⟨hid, hc, ?_⟩
  cases c
  case enqueue => exact absurd rfl he
  case retry => exact absurd rfl hr
  all_goals
    simp only [TaskCall.run, Task.acquire, Task.start, Task.timeout, Task.cancel,
      transitionTo_modify, succeed_apply, fail_apply]
    split_ifs <;> simp

/-- What the lifecycle records after `execute` moves its task on. -/
theorem recordOutcome_progresses (now : ℕ) (o : ExecuteOutcome) (t : Task) :
    t.Progresses (recordOutcome now o t).state := by
  cases o with
  | result output =>
    have h₁ := (TaskCall.succeed output now).progresses_run (by simp) (by simp) t
    simp only [recordOutcome]
    rcases hm : Task.succeed output now t with ⟨⟨⟩, t'⟩ | ⟨e, t'⟩ <;>
      simp only [TaskCall.run, hm, EStateM.Result.state] at h₁ ⊢
    · exact h₁
    · exact h₁.trans ((TaskCall.fail e.message now).progresses_run (by simp) (by simp) t')
  | timedOut => exact (TaskCall.timeout now).progresses_run (by simp) (by simp) t
  | raised m => exact (TaskCall.fail m now).progresses_run (by simp) (by simp) t

/-- **What the workers and the completions do to the task store**: each stored task stays
under its id with its creation time, and a task QUEUED after was QUEUED before. -/
structure TasksProgress (st st' : Store Task Task.id) : Prop where
  forth : ∀ {k t}, st.getById k = some t →
    ∃ t', st'.getById k = some t' ∧ t'.createdAt = t.createdAt
  queued : ∀ u' ∈ st'.items, u'.status = .queued →
    ∃ u ∈ st.items, u.status = .queued ∧ u.createdAt = u'.createdAt

namespace TasksProgress

variable {st st' : Store Task Task.id}

theorem refl (st : Store Task Task.id) : TasksProgress st st :=
  ⟨fun h => ⟨_, h, rfl⟩, fun u hu hq => ⟨u, hu, hq, rfl⟩⟩

theorem of_eq {st'' : Store Task Task.id} (h : TasksProgress st st') (he : st'' = st') :
    TasksProgress st st'' :=
  he ▸ h

/-- Storing what a stored task moved on to. -/
theorem of_put {t t' : Task} (ht : t ∈ st.items) (h : t.Progresses t') :
    TasksProgress st (st.put t') where
  forth {k u} hu := by
    by_cases hk : t'.id = k
    · have hut : u = t := Option.some_injective _
        (hu.symm.trans ((Store.getById_eq_some_iff _ _ _).mpr ⟨ht, h.id_eq.symm.trans hk⟩))
      exact ⟨t', hk ▸ Store.getById_put_self _ _, hut ▸ h.createdAt_eq⟩
    · exact ⟨u, (Store.getById_put_ne _ _ hk).trans hu, rfl⟩
  queued u' hu' hq := by
    rcases (Store.mem_put _ _ _).mp hu' with rfl | ⟨hu, -⟩
    · exact ⟨t, ht, h.queued hq, h.createdAt_eq.symm⟩
    · exact ⟨u', hu, hq, rfl⟩

end TasksProgress

/-- The task stored under `k` was created no later than any task QUEUED in `st`. -/
def FirstQueued (st : Store Task Task.id) (k : String) : Prop :=
  ∃ t, st.getById k = some t ∧ ∀ u ∈ st.items, u.status = .queued → t.createdAt ≤ u.createdAt

theorem FirstQueued.progress {st st' : Store Task Task.id} {k : String} (h : FirstQueued st k)
    (hT : TasksProgress st st') : FirstQueued st' k := by
  obtain ⟨t, ht, hfirst⟩ := h
  obtain ⟨t', ht', hc⟩ := hT.forth ht
  refine ⟨t', ht', fun u' hu' hq => ?_⟩
  obtain ⟨u, hu, huq, hcu⟩ := hT.queued u' hu' hq
  rw [hc, ← hcu]
  exact hfirst u hu huq

/-- **`acquire_next` takes a first QUEUED task by `created_at`**: it acquires the task for the
worker and stores it, or returns nothing when no task is QUEUED. -/
theorem acquireNext_eq (w : String) (s : State) :
    acquireNext w s = .ok none s ∨
      ∃ t ∈ s.tasks.items, t.status = .queued ∧
        (∀ u ∈ s.tasks.items, u.status = .queued → t.createdAt ≤ u.createdAt) ∧
        acquireNext w s =
          .ok (some { t with status := .acquired, version := t.version + 1, workerId := some w })
            { s with tasks := (s.tasks.put
              { t with status := .acquired, version := t.version + 1, workerId := some w }) } := by
  haveI : IsTotal Task fun a b => a.createdAt ≤ b.createdAt := ⟨fun _ _ => le_total _ _⟩
  haveI : IsTrans Task fun a b => a.createdAt ≤ b.createdAt := ⟨fun _ _ _ => le_trans⟩
  unfold acquireNext
  split
  · exact .inl rfl
  rename_i t hfind
  obtain ⟨hq, as, bs, hsort, has⟩ := List.find?_eq_some.mp hfind
  have hperm := List.perm_insertionSort (fun a b : Task => a.createdAt ≤ b.createdAt) s.tasks.items
  have hsorted := List.sorted_insertionSort (fun a b : Task => a.createdAt ≤ b.createdAt)
    s.tasks.items
  rw [hsort] at hperm hsorted
  have hq : t.status = .queued := by simpa using hq
  refine .inr ⟨t, hperm.mem_iff.mp (by simp), hq, fun u hu huq => ?_, ?_⟩
  · rcases List.mem_append.mp (hperm.mem_iff.mpr hu) with hu | hu
    · simpa [huq] using has u hu
    · rcases List.mem_cons.mp hu with rfl | hu
      · exact le_rfl
      · exact List.rel_of_pairwise_cons (List.pairwise_append.mp hsorted).2.1 hu
  · rw [Task.acquire, Task.transitionTo_modify, if_pos (by simp [hq, taskValidTransitions])]

/-- `acquire_next` returns nothing exactly when no stored task is QUEUED. -/
theorem acquireNext_eq_none_iff (w : String) (s : State) :
    acquireNext w s = .ok none s ↔ ∀ u ∈ s.tasks.items, u.status ≠ .queued := by
  have hperm := List.perm_insertionSort (fun a b : Task => a.createdAt ≤ b.createdAt) s.tasks.items
  unfold acquireNext
  split
  · rename_i hfind
    exact iff_of_true rfl fun u hu hq => by
      simpa [hq] using List.find?_eq_none.mp hfind u (hperm.mem_iff.mpr hu)
  · rename_i t hfind
    have ht := hperm.mem_iff.mp (List.mem_of_find?_eq_some hfind)
    exact iff_of_false (by split <;> simp) fun h => h t ht (by simpa using List.find?_some hfind)

/-! ### Frames of the task store -/

/-- A continuation on a deployment that leaves the task store as it finds it, returned or
raised. -/
def KeepsTasks {α : Type} (f : Deployment → ServiceM α) : Prop :=
  ∀ d s, (f d s).state.tasks = s.tasks

namespace KeepsTasks

open ServiceM

variable {α : Type} {f : Deployment → ServiceM α}

theorem pure (a : α) : KeepsTasks fun _ => (Pure.pure a : ServiceM α) := fun _ _ => rfl

theorem publishEvents_bind (hf : KeepsTasks f) : KeepsTasks fun d => publishEvents d >>= f :=
  fun d _ => hf d.collectEvents.2 _

theorem saveDeployment_bind (hf : KeepsTasks f) :
    KeepsTasks fun d => saveDeployment d >>= fun _ => f d :=
  fun d _ => hf d _

theorem listByDeployment_bind {g : Deployment → List Task → ServiceM α} (k : String)
    (hg : ∀ all, KeepsTasks fun d => g d all) : KeepsTasks fun d => listByDeployment k >>= g d :=
  fun d s => hg _ d s

theorem onDeployment_bind (m : DeploymentM Unit) (hf : KeepsTasks f) :
    KeepsTasks fun d => onDeployment d m >>= f := fun d s => by
  dsimp only
  rw [ServiceM.onDeployment_bind]
  rcases m d with ⟨⟨⟩, d'⟩ | ⟨e, d'⟩
  · exact hf d' _
  · rfl

theorem afterCompletion_bind (allTasks : List Task) (hf : KeepsTasks f) :
    KeepsTasks fun d => DeploymentDomainService.afterCompletion d allTasks >>= f := fun d s => by
  dsimp only [DeploymentDomainService.afterCompletion]
  split_ifs
  · exact onDeployment_bind _ hf d s
  · exact onDeployment_bind _ hf d s
  · exact hf d s

end KeepsTasks

namespace ServiceM

/-- **What `start` and `update` do to the task store**: nothing, or they store what `start`
made of the stored task, returned or raised. -/
theorem startTask_tasks (env : Env) (k : String) (s : State) :
    (startTask env k s).state.tasks = s.tasks ∨ ∃ t, s.tasks.getById k = some t ∧
      (startTask env k s).state.tasks = s.tasks.put (Task.start (env.utcNow s.clock) t).state := by
  simp only [startTask, getTask_bind]
  rcases s.tasks.getById k with _ | t
  · exact .inl rfl
  refine .inr ⟨t, rfl, ?_⟩
  simp only [now_bind, onTask_bind]
  rcases Task.start (env.utcNow s.clock) t with ⟨⟨⟩, t'⟩ | ⟨e, t'⟩
  · exact Store.put_put _ _
  · rfl

/-- What the lifecycle records after `execute`, and nothing else, reaches the task store. -/
theorem finishTask_tasks (env : Env) (w k : String) (o : ExecuteOutcome) (s : State) :
    (finishTask env w k o s).state.tasks = s.tasks ∨ ∃ t, s.tasks.getById k = some t ∧
      (finishTask env w k o s).state.tasks =
        s.tasks.put (recordOutcome (env.utcNow s.clock) o t).state := by
  simp only [finishTask, getTask_bind]
  rcases s.tasks.getById k with _ | t
  · exact .inl rfl
  refine .inr ⟨t, rfl, ?_⟩
  simp only [now_bind, onTask_bind]
  rcases recordOutcome (env.utcNow s.clock) o t with ⟨⟨⟩, t'⟩ | ⟨e, t'⟩
  · exact Store.put_put _ _
  · rfl

theorem startTask_progress (env : Env) (k : String) (s : State) :
    TasksProgress s.tasks (startTask env k s).state.tasks := by
  rcases startTask_tasks env k s with h | ⟨t, ht, h⟩
  · exact .of_eq (.refl _) h
  · exact .of_eq (.of_put ((Store.getById_eq_some_iff _ _ _).mp ht).1
      ((TaskCall.start _).progresses_run (by simp) (by simp) t)) h

theorem finishTask_progress (env : Env) (w k : String) (o : ExecuteOutcome) (s : State) :
    TasksProgress s.tasks (finishTask env w k o s).state.tasks := by
  rcases finishTask_tasks env w k o s with h | ⟨t, ht, h⟩
  · exact .of_eq (.refl _) h
  · exact .of_eq (.of_put ((Store.getById_eq_some_iff _ _ _).mp ht).1
      (recordOutcome_progresses _ o t)) h

end ServiceM

/-- **What a completion does to the task store**: nothing, or it stores what `succeed` or
`fail` made of the completed task, returned or raised; the deployment's side of the call
leaves the task store alone. -/
theorem DeploymentDomainService.handleTaskCompletion_tasks (svc : DeploymentDomainService)
    (k : String) (success : Bool) (o : List (String × String)) (err : String) (s : State) :
    (svc.handleTaskCompletion k success o err s).state.tasks = s.tasks ∨
      ∃ t, s.tasks.getById k = some t ∧ (svc.handleTaskCompletion k success o err s).state.tasks =
        s.tasks.put ((if success then TaskCall.succeed o (svc.env.utcNow s.clock)
          else .fail err (svc.env.utcNow s.clock)).run t).state := by
  simp only [DeploymentDomainService.handleTaskCompletion, ServiceM.getTask_bind]
  rcases s.tasks.getById k with _ | t
  · exact .inl rfl
  refine .inr ⟨t, rfl, ?_⟩
  have hrun : (if success then Task.succeed o (svc.env.utcNow s.clock)
      else Task.fail err (svc.env.utcNow s.clock)) = (if success then TaskCall.succeed o
        (svc.env.utcNow s.clock) else .fail err (svc.env.utcNow s.clock)).run := by
    cases success <;> rfl
  simp only [ServiceM.now_bind, ServiceM.onTask_bind, hrun]
  rcases TaskCall.run _ t with ⟨⟨⟩, t'⟩ | ⟨e', t'⟩
  · simp only [ServiceM.saveTask_bind, Store.put_put, ServiceM.getDeployment_bind]
    rcases s.deployments.getById t'.deploymentId with _ | d
    · rfl
    exact KeepsTasks.onDeployment_bind _ (.listByDeployment_bind _ fun all =>
      .afterCompletion_bind all (.saveDeployment_bind (.publishEvents_bind (.pure ())))) d _
  · rfl

/-- `handle_task_completion` moves the completed task on and no other. -/
theorem DeploymentDomainService.handleTaskCompletion_progress (svc : DeploymentDomainService)
    (k : String) (success : Bool) (o : List (String × String)) (err : String) (s : State) :
    TasksProgress s.tasks (svc.handleTaskCompletion k success o err s).state.tasks := by
  rcases svc.handleTaskCompletion_tasks k success o err s with h | ⟨t, ht, h⟩
  · exact .of_eq (.refl _) h
  · exact .of_eq (.of_put ((Store.getById_eq_some_iff _ _ _).mp ht).1
      (TaskCall.progresses_run _ (by cases success <;> simp) (by cases success <;> simp) t)) h

/-! ### Starts follow `created_at` -/

namespace WorkerSystem

open ServiceM

variable (svc : DeploymentDomainService)

/-- **Every lifecycle yet to start holds a first QUEUED task by `created_at`.** -/
def FifoInvariant (sys : WorkerSystem) : Prop :=
  ∀ lc ∈ sys.lifecycles, lc.Pending → FirstQueued sys.state.tasks lc.taskId

/-- Setting lifecycle `j` to a copy of itself, or to one that has started, adds no pending
task. -/
theorem pending_of_mem_set {l : List Lifecycle} {j : ℕ} {lc x lc' : Lifecycle}
    (h : lc' ∈ l.set j x) (hp : lc'.Pending) (hj : l[j]? = some lc)
    (hx : x.Pending → lc.Pending ∧ lc.taskId = x.taskId) :
    ∃ lc ∈ l, lc.Pending ∧ lc.taskId = lc'.taskId := by
  rcases List.mem_or_eq_of_mem_set h with h | rfl
  · exact ⟨lc', h, hp, rfl⟩
  · exact ⟨lc, List.getElem?_mem hj, hx hp⟩

namespace FifoInvariant

variable {svc} {sys : WorkerSystem}

theorem of_progress {sys' : WorkerSystem} (h : FifoInvariant sys)
    (hT : TasksProgress sys.state.tasks sys'.state.tasks)
    (hL : ∀ lc' ∈ sys'.lifecycles, lc'.Pending →
      ∃ lc ∈ sys.lifecycles, lc.Pending ∧ lc.taskId = lc'.taskId) :
    FifoInvariant sys' := fun lc' hlc' hp => by
  obtain ⟨lc, hlc, hp', hk⟩ := hL lc' hlc' hp
  exact hk ▸ (h lc hlc hp').progress hT

theorem poll (h : FifoInvariant sys) (w : ℕ) : FifoInvariant (sys.poll w) := by
  unfold WorkerSystem.poll
  split
  · exact h
  rename_i worker _
  split_ifs
  · exact h
  rcases acquireNext_eq worker.workerId sys.state with h0 | ⟨t, ht, hq, hfirst, h1⟩
  · rw [h0]; exact h
  rw [h1]
  intro lc hlc hp
  rcases List.mem_append.mp hlc with hlc | hlc
  · exact (h lc hlc hp).progress (.of_put ht ⟨rfl, rfl, fun _ => hq⟩)
  · obtain rfl := List.mem_singleton.mp hlc
    refine ⟨_, Store.getById_put_self _ _, fun u hu huq => ?_⟩
    rcases (Store.mem_put _ _ _).mp hu with rfl | ⟨hu, -⟩
    · cases huq
    · exact hfirst u hu huq

theorem startLifecycle (h : FifoInvariant sys) {j : ℕ} {lc : Lifecycle} (worker : Worker)
    (hj : sys.lifecycles[j]? = some lc) : FifoInvariant (startLifecycle svc sys j lc worker) := by
  have hT := startTask_progress svc.env lc.taskId sys.state
  unfold WorkerSystem.startLifecycle
  rcases hs : startTask svc.env lc.taskId sys.state with ⟨⟨⟩, s⟩ | ⟨e, s⟩ <;>
    rw [hs] at hT <;>
    exact h.of_progress hT fun lc' h' hp =>
      pending_of_mem_set h' hp hj fun hx => by simp [Lifecycle.Pending] at hx

theorem resume (h : FifoInvariant sys) (j : ℕ) : FifoInvariant (resume svc sys j) := by
  unfold WorkerSystem.resume
  split
  · exact h
  rename_i lc hj
  split
  · dsimp only
    split_ifs
    · rename_i hpc _
      exact h.of_progress (.refl _) fun lc' h' hp =>
        pending_of_mem_set h' hp hj fun _ => ⟨.inl hpc, rfl⟩
    · refine startLifecycle ?_ _ hj
      exact h
  · split_ifs
    · exact h
    · exact startLifecycle h _ hj
  · exact h

theorem finish (h : FifoInvariant sys) (j : ℕ) (o : ExecuteOutcome) :
    FifoInvariant (finish svc sys j o) := by
  unfold WorkerSystem.finish
  split
  · exact h
  rename_i lc hj
  split
  · exact h.of_progress (finishTask_progress ..) fun lc' h' hp =>
      pending_of_mem_set h' hp hj fun hx => by simp [Lifecycle.Pending] at hx
  · exact h

/-- One event keeps the invariant. -/
theorem step (h : FifoInvariant sys) : ∀ e, FifoInvariant (step svc sys e)
  | .poll w => h.poll w
  | .resume j => h.resume j
  | .finish j o => h.finish j o
  | .complete .. => h.of_progress (svc.handleTaskCompletion_progress ..) fun lc h hp => ⟨lc, h, hp, rfl⟩

/-- A whole run keeps the invariant. -/
theorem run (h : FifoInvariant sys) (events : List WorkerEvent) :
    FifoInvariant (run svc sys events) := by
  induction events generalizing sys with
  | nil => exact h
  | cons e events ih => exact ih (h.step e)

end FifoInvariant

/-- A start is made by a lifecycle that had not started. -/
theorem Starts.pending {sys : WorkerSystem} {e : WorkerEvent} {k : String}
    (h : Starts svc sys e k) : ∃ lc ∈ sys.lifecycles, lc.Pending ∧ lc.taskId = k := by
  obtain ⟨j, lc, rfl, hj, rfl, hne, hafter⟩ := h
  refine ⟨lc, List.getElem?_mem hj, ?_, rfl⟩
  rcases hpc : lc.pc
  · exact .inl hpc
  · exact .inr hpc
  · exact absurd hpc hne
  · rcases hw : sys.workers[lc.worker]? with _ | worker <;>
      simp [step, WorkerSystem.resume, hj, hpc, hw] at hafter

/-- **A task starts only as a first QUEUED task by `created_at`.** In every run of workers
and completions from stores with no lifecycle in flight, when a lifecycle's `start` returns
on task `k`, no task then QUEUED was created before `k`. -/
theorem start_follows_created_at (sys₀ : WorkerSystem) (h₀ : sys₀.lifecycles = [])
    (events : List WorkerEvent) (e : WorkerEvent) (k : String) :
    let sys := run svc sys₀ events
    Starts svc sys e k → ∃ t, sys.state.tasks.getById k = some t ∧
      ∀ u ∈ sys.state.tasks.items, u.status = .queued → t.createdAt ≤ u.createdAt := by
  intro sys hs
  obtain ⟨lc, hlc, hp, rfl⟩ := hs.pending
  exact FifoInvariant.run (fun lc h => by simp [h₀] at h) events lc hlc hp

/-- Two QUEUED tasks and one worker: after a poll, the lifecycle's `start` returns on the task
created first, and the other is still QUEUED. -/
theorem start_follows_created_at_one_poll :
    let svc : DeploymentDomainService :=
      ⟨⟨fun n => "t" ++ toString n, id⟩, .ruleBased fun n => "t" ++ toString n⟩
    let t₀ : Task :=
      { id := "t0", deploymentId := "d1", stepId := "s1", name := "deploy-vpc", status := .queued,
        idempotencyKey := "k1", createdAt := 0 }
    let t₁ : Task := { t₀ with id := "t1", stepId := "s2", idempotencyKey := "k2", createdAt := 1 }
    let sys₀ : WorkerSystem := ⟨⟨.empty, ⟨[t₀, t₁], by decide⟩, [], 2, 2⟩, [Worker.init "w1" 5], []⟩
    sys₀.lifecycles = [] ∧ Starts svc (run svc sys₀ [.poll 0]) (.resume 0) "t0" ∧
      ∃ t, (run svc sys₀ [.poll 0]).state.tasks.getById "t0" = some t ∧
        ∀ u ∈ (run svc sys₀ [.poll 0]).state.tasks.items, u.status = .queued →
          t.createdAt ≤ u.createdAt := by
  intro svc t₀ t₁ sys₀
  have hs : Starts svc (run svc sys₀ [.poll 0]) (.resume 0) "t0" :=
    ⟨0, ⟨0, "t0", .spawned⟩, rfl, by decide, rfl, by decide, by decide⟩
  exact ⟨rfl, hs, start_follows_created_at svc sys₀ rfl [.poll 0] (.resume 0) "t0" hs⟩

/-- **A task can start before the step it depends on has succeeded.** After
`execute_deployment` of a plan whose second step depends on the first, one worker polls, its
lifecycle starts the first task, it polls again and the second lifecycle starts the second
task while the first is RUNNING. -/
theorem start_before_dependency :
    ¬ ∀ (svc : DeploymentDomainService) (s₀ : State) (deploymentId : String)
        (workers : List (String × ℕ)) (events : List WorkerEvent) (e : WorkerEvent) (k : String),
      (svc.executeDeployment deploymentId s₀).isOk →
      let sys := run svc ⟨(svc.executeDeployment deploymentId s₀).state,
        workers.map fun w => Worker.init w.1 w.2, []⟩ events
      Starts svc sys e k → DependenciesSucceeded sys.state k := by
  intro h
  let a : ExecutionStep :=
    { stepId := "s1", name := "deploy-vpc", description := "", provider := .aws,
      resourceSpec := { resourceType := .network, provider := .aws, region := "us-east-1",
                        name := "vpc" },
      terraformAction := "create", idempotencyKey := "k1" }
  let d : Deployment :=
    { id := "d1", name := "deploy-staging-aws", intent := { targetProviders := [.aws] },
      status := .approved,
      plan := some { planId := "p1", steps := [a, { a with
        stepId := "s2", dependencies := ["s1"], idempotencyKey := "k2" }] } }
  let svc : DeploymentDomainService :=
    ⟨⟨fun n => "t" ++ toString n, id⟩, .ruleBased fun n => "t" ++ toString n⟩
  let s₀ : State := ⟨⟨[d], by decide⟩, .empty, [], 0, 0⟩
  have hx := svc.executeDeployment_eq (k := "d1") (s := s₀) rfl rfl rfl
  have h₁ := h svc s₀ "d1" [("w1", 5)] [.poll 0, .resume 0, .poll 0] (.resume 1) "t1"
    (by rw [hx]; rfl)
  rw [hx] at h₁
  exact absurd (h₁ ⟨1, ⟨0, "t1", .spawned⟩, rfl, by decide, rfl, by decide, by decide⟩) (by decide)

end WorkerSystem

end Orchestrator
