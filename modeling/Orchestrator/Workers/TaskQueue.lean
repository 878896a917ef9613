/-
# The task queue under any interleaving

`InMemoryTaskRepository.acquire_next` scans the store for the first QUEUED task by
`created_at` and calls `Task.acquire` on it with no suspension point in between, so against
the in-memory store it runs as one step. So do the other operations on stored tasks:
`execute_deployment`, `enqueue` or `retry` of a stored task followed by its `update`, a
lifecycle's `start` and recorded outcome, and `handle_task_completion`. A `QueueEvent` is one
of them, and a list of events is any interleaving of any number of workers and callers
(`QueueEvent.stateAfter`).

At every step of every interleaving (`QueueEvent.acquireNext_atomic`), a task enters ACQUIRED
only in an `acquire_next` call, which returns it with the caller's worker id, and a task an
`acquire_next` returns was QUEUED and first by `created_at` just before and is ACQUIRED just
after; a call returns nothing only when no task is QUEUED. The other operations never make
a task ACQUIRED (`QueueEvent.noNewAcquired_run`).

Key definitions: `QueueEvent`, `QueueEvent.run`, `QueueEvent.stateAfter`, `AtomicAcquire`.
Key theorems: `QueueEvent.atomicAcquire_run`, `QueueEvent.acquireNext_atomic`.
-/
import Orchestrator.Workers.WorkerAgent
import Orchestrator.Service.Execution

namespace Orchestrator

/-! ### What never makes a task ACQUIRED -/

open Task in
/-- Only `acquire` moves a task to ACQUIRED. -/
theorem TaskCall.acquired_of_run (c : TaskCall) (hc : ∀ w, c ≠ .acquire w) (t : Task)
    (h : (c.run t).state.status = .acquired) : t.status = .acquired := by
  cases c
  case acquire w => exact absurd rfl (hc w)
  all_goals
    simp only [TaskCall.run, Task.enqueue, Task.start, Task.timeout, Task.cancel,
      transitionTo_apply, transitionTo_modify, succeed_apply, fail_apply, retry_apply] at h
    split_ifs at h <;> simp at h ⊢ <;> exact h

theorem recordOutcome_acquired (now : ℕ) (o : ExecuteOutcome) (t : Task)
    (h : (recordOutcome now o t).state.status = .acquired) : t.status = .acquired := by
  cases o with
  | result output =>
    have hs := (TaskCall.succeed output now).acquired_of_run (by simp) t
    simp only [recordOutcome] at h
    rcases hm : Task.succeed output now t with ⟨⟨⟩, t'⟩ | ⟨e, t'⟩ <;>
      simp only [TaskCall.run, hm, EStateM.Result.state] at h hs
    · exact hs h
    · exact hs ((TaskCall.fail e.message now).acquired_of_run (by simp) t' h)
  | timedOut => exact (TaskCall.timeout now).acquired_of_run (by simp) t h
  | raised m => exact (TaskCall.fail m now).acquired_of_run (by simp) t h

theorem status_of_mem_enqueuedTasks {env : Env} {D : String} {u : Task} :
    ∀ {n c : ℕ} {steps : List ExecutionStep}, u ∈ enqueuedTasks env D n c steps →
      u.status = .queued
  | _, _, [], h => absurd h (List.not_mem_nil _)
  | _, _, _ :: _, h => by
    rcases List.mem_cons.mp h with rfl | h
    · rfl
    · exact status_of_mem_enqueuedTasks h

/-- Every task of `st'` that is ACQUIRED was ACQUIRED under the same key in `st`. -/
def NoNewAcquired (st st' : Store Task Task.id) : Prop :=
  ∀ (k : String) (t' : Task), st'.getById k = some t' → t'.status = .acquired →
    ∃ t, st.getById k = some t ∧ t.status = .acquired

namespace NoNewAcquired

variable {st st' st'' : Store Task Task.id}

theorem refl (st : Store Task Task.id) : NoNewAcquired st st := fun _ _ h ha => ⟨_, h, ha⟩

theorem of_eq (h : NoNewAcquired st st') (he : st'' = st') : NoNewAcquired st st'' := he ▸ h

theorem trans (h₁ : NoNewAcquired st st') (h₂ : NoNewAcquired st' st'') :
    NoNewAcquired st st'' := fun k _ h ha =>
  let ⟨_, h', ha'⟩ := h₂ k _ h ha
  h₁ k _ h' ha'

/-- Storing a task that is not ACQUIRED. -/
theorem put_of_ne {x : Task} (hx : x.status ≠ .acquired) : NoNewAcquired st (st.put x) :=
  fun _ _ h ha => by
    rcases Store.getById_put_eq_some h with ⟨-, rfl⟩ | ⟨-, h⟩
    · exact absurd ha hx
    · exact ⟨_, h, ha⟩

/-- Storing what a stored task became, ACQUIRED only if it was. -/
theorem put_of_stored {t t' : Task} (ht : st.getById t.id = some t) (hid : t'.id = t.id)
    (ha : t'.status = .acquired → t.status = .acquired) : NoNewAcquired st (st.put t') :=
  fun _ _ h ha' => by
    rcases Store.getById_put_eq_some h with ⟨hk, rfl⟩ | ⟨-, h⟩
    · exact ⟨t, hk ▸ hid ▸ ht, ha ha'⟩
    · exact ⟨_, h, ha'⟩

theorem foldl_put : ∀ (xs : List Task) (st : Store Task Task.id),
    (∀ x ∈ xs, x.status ≠ .acquired) → NoNewAcquired st (xs.foldl Store.put st)
  | [], _, _ => refl _
  | x :: xs, _, h => (put_of_ne (h x (List.mem_cons_self x xs))).trans
      (foldl_put xs _ fun y hy => h y (List.mem_cons_of_mem x hy))

/-- The store keeps its ACQUIRED tasks apart from the one stored under `k`, which becomes
`(c.run t).state` for the task `t` stored there, or the whole store is unchanged. -/
theorem of_cases {k : String} {f : Task → Task} (hf : ∀ t, (f t).id = t.id)
    (ha : ∀ t, (f t).status = .acquired → t.status = .acquired)
    (h : st' = st ∨ ∃ t, st.getById k = some t ∧ st' = st.put (f t)) : NoNewAcquired st st' := by
  rcases h with rfl | ⟨t, ht, rfl⟩
  · exact refl _
  · exact put_of_stored (((Store.getById_eq_some_iff _ _ _).mp ht).2 ▸ ht) (hf t) (ha t)

end NoNewAcquired

/-! ### The operations on the task queue -/

namespace ServiceM

/-- A task method called on the stored task, then `update(task)`. -/
def updateTask (taskId : String) (m : TaskM Unit) : ServiceM Unit := do
  let some t ← getTask taskId | pure ()
  let t ← onTask t m
  saveTask t

/-- What `update` stores is what the method made of the stored task, returned or raised. -/
theorem updateTask_tasks (k : String) (m : TaskM Unit) (s : State) :
    (updateTask k m s).state.tasks = s.tasks ∨ ∃ t, s.tasks.getById k = some t ∧
      (updateTask k m s).state.tasks = s.tasks.put (m t).state := by
  simp only [updateTask, getTask_bind]
  rcases s.tasks.getById k with _ | t
  · exact .inl rfl
  refine .inr ⟨t, rfl, ?_⟩
  simp only [onTask_bind]
  rcases m t with ⟨⟨⟩, t'⟩ | ⟨e, t'⟩
  · exact Store.put_put _ _
  · rfl

end ServiceM

/-- One step on the task queue, none of which awaits between reading and writing the store:
`execute_deployment`, a worker's `acquire_next`, `enqueue` or `retry` of a stored task, a
lifecycle's `start` or recorded outcome, or `handle_task_completion`. -/
inductive QueueEvent
  | executeDeployment (deploymentId : String)
  | acquireNext (workerId : String)
  | enqueue (taskId : String)
  | retry (taskId : String)
  | start (taskId : String)
  | finish (workerId taskId : String) (outcome : ExecuteOutcome)
  | complete (taskId : String) (success : Bool) (output : List (String × String)) (error : String)
  deriving DecidableEq, Repr

namespace QueueEvent

/-- The step's call, returning to its caller the task `acquire_next` gives. -/
def run (svc : DeploymentDomainService) : QueueEvent → ServiceM (Option Task)
  | .executeDeployment k => do let _ ← svc.executeDeployment k; pure none
  | .acquireNext w => Orchestrator.acquireNext w
  | .enqueue k => do let _ ← ServiceM.updateTask k Task.enqueue; pure none
  | .retry k => do let _ ← ServiceM.updateTask k Task.retry; pure none
  | .start k => do let _ ← ServiceM.startTask svc.env k; pure none
  | .finish w k o => do let _ ← ServiceM.finishTask svc.env w k o; pure none
  | .complete k success o err => do let _ ← svc.handleTaskCompletion k success o err; pure none

/-- What the caller gets back: the task returned, or nothing when the call raised. -/
def returned : EStateM.Result ServiceError State (Option Task) → Option Task
  | .ok r _ => r
  | .error _ _ => none

/-- The state after the steps, each run on what the one before left, returned or raised. -/
def stateAfter (svc : DeploymentDomainService) : State → List QueueEvent → State
  | s, [] => s
  | s, e :: es => stateAfter svc (e.run svc s).state es

theorem stateAfter_append (svc : DeploymentDomainService) (s : State) (xs ys : List QueueEvent) :
    stateAfter svc s (xs ++ ys) = stateAfter svc (stateAfter svc s xs) ys := by
  induction xs generalizing s with
  | nil => rfl
  | cons e xs ih => exact ih _

/-- A step that returns nothing to its caller: it leaves what its call leaves. -/
theorem discard_none {α : Type} {x : ServiceM α} {s : State}
    (h : NoNewAcquired s.tasks (x s).state.tasks) :
    NoNewAcquired s.tasks ((do let _ ← x; pure none : ServiceM (Option Task)) s).state.tasks ∧
      returned ((do let _ ← x; pure none : ServiceM (Option Task)) s) = none := by
  change NoNewAcquired _ (EStateM.bind x _ s).state.tasks ∧ returned (EStateM.bind x _ s) = none
  simp only [EStateM.bind]
  cases hx : x s <;> rw [hx] at h <;> exact ⟨h, rfl⟩

/-- **Only `acquire_next` makes a task ACQUIRED**, and only it returns a task. -/
theorem noNewAcquired_run (svc : DeploymentDomainService) (e : QueueEvent)
    (he : ∀ w, e ≠ .acquireNext w) (s : State) :
    NoNewAcquired s.tasks (e.run svc s).state.tasks ∧ returned (e.run svc s) = none := by
  cases e with
  | acquireNext w => exact absurd rfl (he w)
  | executeDeployment k =>
    refine discard_none ?_
    rcases hx : svc.executeDeployment k s with ⟨ts, s'⟩ | ⟨e, s'⟩
    · obtain ⟨d, p, -, -, -, -, -, htasks, -⟩ := svc.executeDeployment_ok hx
      exact .of_eq (.foldl_put (enqueuedTasks svc.env k s.nextId s.clock p.steps) _
        fun x hx => by simp [status_of_mem_enqueuedTasks hx]) htasks
    · exact .of_eq (.refl _) (congrArg State.tasks (svc.executeDeployment_error hx))
  | enqueue k =>
    exact discard_none (.of_cases (fun t => (TaskCall.enqueue.identity_run t).1)
      (TaskCall.enqueue.acquired_of_run (by simp)) (ServiceM.updateTask_tasks k _ s))
  | retry k =>
    exact discard_none (.of_cases (fun t => (TaskCall.retry.identity_run t).1)
      (TaskCall.retry.acquired_of_run (by simp)) (ServiceM.updateTask_tasks k _ s))
  | start k =>
    exact discard_none (.of_cases (fun t => ((TaskCall.start _).identity_run t).1)
      ((TaskCall.start _).acquired_of_run (by simp)) (ServiceM.startTask_tasks svc.env k s))
  | finish w k o =>
    exact discard_none (.of_cases (fun t => (recordOutcome_progresses _ o t).id_eq)
      (recordOutcome_acquired _ o) (ServiceM.finishTask_tasks svc.env w k o s))
  | complete k success o err =>
    exact discard_none (.of_cases (fun t => (TaskCall.identity_run _ t).1)
      (TaskCall.acquired_of_run (if success then .succeed o (svc.env.utcNow s.clock)
        else .fail err (svc.env.utcNow s.clock)) (by cases success <;> simp))
      (svc.handleTaskCompletion_tasks k success o err s))

end QueueEvent

/-- What an atomic `acquire_next` gives at one step `e` taken from `before` with result `r`:
a task enters ACQUIRED only as the task an `acquire_next` returns to its caller, with the
caller's worker id; what it returns was QUEUED and first by `created_at` before the step and
is stored ACQUIRED after it; and it returns nothing only when no task was QUEUED. -/
structure AtomicAcquire (before : State) (e : QueueEvent)
    (r : EStateM.Result ServiceError State (Option Task)) : Prop where
  acquired_returned : ∀ k t', r.state.tasks.getById k = some t' → t'.status = .acquired →
    (∀ t, before.tasks.getById k = some t → t.status ≠ .acquired) →
    ∃ w, e = .acquireNext w ∧ QueueEvent.returned r = some t' ∧ t'.workerId = some w
  returned_acquired : ∀ t', QueueEvent.returned r = some t' → ∃ w t, e = .acquireNext w ∧
    before.tasks.getById t'.id = some t ∧ t.status = .queued ∧
    (∀ u ∈ before.tasks.items, u.status = .queued → t.createdAt ≤ u.createdAt) ∧
    r.state.tasks.getById t'.id = some t' ∧ t'.status = .acquired ∧ t'.workerId = some w
  none_of_no_queued : ∀ w, e = .acquireNext w → QueueEvent.returned r = none →
    ∀ u ∈ before.tasks.items, u.status ≠ .queued

namespace QueueEvent

/-- **Every step keeps `acquire_next` atomic**, from any state. -/
theorem atomicAcquire_run (svc : DeploymentDomainService) (e : QueueEvent) (s : State) :
    AtomicAcquire s e (e.run svc s) := by
  by_cases he : ∃ w, e = .acquireNext w
  · obtain ⟨w, rfl⟩ := he
    show AtomicAcquire s _ (Orchestrator.acquireNext w s)
    rcases acquireNext_eq w s with h0 | ⟨t, ht, hq, hfirst, h1⟩
    · rw [h0]
      exact ⟨fun k t' h ha hno => absurd ha (hno t' h), fun _ h => (by cases h),
        fun _ _ _ => (acquireNext_eq_none_iff w s).mp h0⟩
    · rw [h1]
      have htk : s.tasks.getById t.id = some t := (Store.getById_eq_some_iff _ _ _).mpr ⟨ht, rfl⟩
      refine ⟨fun k u h ha hno => ?_, fun u h => ?_, fun _ _ h => (by cases h)⟩
      · -- the task ACQUIRED after the step is the one returned, or was ACQUIRED before
        rcases Store.getById_put_eq_some h with ⟨-, rfl⟩ | ⟨-, h⟩
        · exact ⟨w, rfl, rfl, rfl⟩
        · exact absurd ha (hno u h)
      · obtain rfl := Option.some.inj h
        exact ⟨w, t, rfl, htk, hq, hfirst, Store.getById_put_self _ _, rfl, rfl⟩
  · push_neg at he
    obtain ⟨hno, hr⟩ := noNewAcquired_run svc e he s
    refine ⟨fun k t' h ha hnot => ?_, fun t' h => (by rw [hr] at h; cases h),
      fun w h => absurd h (he w)⟩
    obtain ⟨t, ht, hat⟩ := hno k t' h ha
    exact absurd hat (hnot t ht)

/-- A task ACQUIRED after a run that was not ACQUIRED before it was returned by an
`acquire_next` of the run, with that caller's worker id. -/
theorem acquired_returned_run (svc : DeploymentDomainService) :
    ∀ (es : List QueueEvent) (s : State) (k : String) (t' : Task),
      (stateAfter svc s es).tasks.getById k = some t' → t'.status = .acquired →
      (∀ t, s.tasks.getById k = some t → t.status ≠ .acquired) →
      ∃ pre w post u, es = pre ++ QueueEvent.acquireNext w :: post ∧
        returned ((QueueEvent.acquireNext w).run svc (stateAfter svc s pre)) = some u ∧
        u.id = k ∧ u.workerId = some w
  | [], _, _, _, h, ha, hno => absurd ha (hno _ h)
  | e :: es, s, k, t', h, ha, hno => by
    by_cases h₁ : ∃ t₁, (e.run svc s).state.tasks.getById k = some t₁ ∧ t₁.status = .acquired
    · -- the first step made it ACQUIRED
      obtain ⟨t₁, ht₁, ha₁⟩ := h₁
      obtain ⟨w, rfl, hret, hw⟩ := (atomicAcquire_run svc e s).acquired_returned k t₁ ht₁ ha₁ hno
      exact ⟨[], w, es, t₁, rfl, hret, ((Store.getById_eq_some_iff _ _ _).mp ht₁).2, hw⟩
    · push_neg at h₁
      obtain ⟨pre, w, post, u, rfl, hret, hu, hw⟩ :=
        acquired_returned_run svc es (e.run svc s).state k t' h ha h₁
      exact ⟨e :: pre, w, post, u, rfl, hret, hu, hw⟩

/-- **`acquire_next` is atomic in every interleaving.** At every step of every run of the
task queue, from any stores: a task enters ACQUIRED only as the task an `acquire_next`
returns to its caller, with that caller's worker id; a task `acquire_next` returns was QUEUED
with the least `created_at` of the QUEUED tasks just before the step, and is stored ACQUIRED
just after; and `acquire_next` returns nothing only when no task is QUEUED. Over the whole
run, every task ACQUIRED at the end and not at the start was returned by one of its
`acquire_next` calls. -/
theorem acquireNext_atomic (svc : DeploymentDomainService) (s : State) (es : List QueueEvent) :
    (∀ pre e post, es = pre ++ e :: post →
      AtomicAcquire (stateAfter svc s pre) e (e.run svc (stateAfter svc s pre))) ∧
    ∀ k t', (stateAfter svc s es).tasks.getById k = some t' → t'.status = .acquired →
      (∀ t, s.tasks.getById k = some t → t.status ≠ .acquired) →
      ∃ pre w post u, es = pre ++ QueueEvent.acquireNext w :: post ∧
        returned ((QueueEvent.acquireNext w).run svc (stateAfter svc s pre)) = some u ∧
        u.id = k ∧ u.workerId = some w :=
  ⟨fun _ e _ _ => atomicAcquire_run svc e _, acquired_returned_run svc es s⟩

end QueueEvent

end Orchestrator
