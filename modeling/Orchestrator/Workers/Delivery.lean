/-
# Each task reaches at most one lifecycle

`acquire_next` hands a worker a QUEUED task and stores it ACQUIRED, and nothing the workers or
`handle_task_completion` call puts a task back to QUEUED: `start`, `succeed`, `fail` and
`timeout` never go there, and only `enqueue` and `retry` do, which no code calls on an
acquired task. So over any run of workers and completions, a task is handed to at most one
`_execute_task_lifecycle` (`WorkerSystem.each_task_one_lifecycle`): no task is started or
executed twice, by one worker or by two.

The invariant (`WorkerSystem.OnceInvariant`) says that the lifecycles' task ids are pairwise
distinct and that each names a stored task that is no longer QUEUED; a poll can then only
spawn a lifecycle for a task no lifecycle holds. What the other steps do to the task store is
said once (`NoRequeue`), from the shape lemmas of `WorkerAgent.lean`.

Key definitions: `NoRequeue`, `WorkerSystem.OnceInvariant`.
Key theorems: `WorkerSystem.OnceInvariant.step`, `WorkerSystem.each_task_one_lifecycle`.
-/
import Orchestrator.Workers.Semaphore

namespace Orchestrator

/-- From `st` to `st'` no stored task is dropped, and a task is QUEUED under a key only if the
task under that key was QUEUED before. -/
structure NoRequeue (st st' : Store Task Task.id) : Prop where
  forth : ∀ {k t}, st.getById k = some t → ∃ t', st'.getById k = some t'
  queued : ∀ {k t'}, st'.getById k = some t' → t'.status = .queued →
    ∃ t, st.getById k = some t ∧ t.status = .queued

namespace NoRequeue

variable {st st' : Store Task Task.id}

theorem refl (st : Store Task Task.id) : NoRequeue st st :=
  ⟨fun h => ⟨_, h⟩, fun h hq => ⟨_, h, hq⟩⟩

/-- Storing what the task stored under `k` moved on to. -/
theorem of_put {k : String} {t t' : Task} (ht : st.getById k = some t) (h : t.Progresses t') :
    NoRequeue st (st.put t') where
  forth {k' u} hu := by
    rw [Store.getById_put]
    split
    · exact ⟨t', rfl⟩
    · exact ⟨u, hu⟩
  queued {k' u'} hu' hq := by
    rcases Store.getById_put_eq_some hu' with ⟨hk, rfl⟩ | ⟨-, h'⟩
    · have hkt : k = k' := ((Store.getById_eq_some_iff _ _ _).mp ht).2.symm.trans (h.id_eq ▸ hk)
      exact ⟨t, hkt ▸ ht, h.queued hq⟩
    · exact ⟨u', h', hq⟩

/-- What a step that leaves the store, or stores what it made of the task under `k`, does. -/
theorem of_cases {k : String} {f : Task → Task} (hf : ∀ t : Task, t.Progresses (f t))
    (h : st' = st ∨ ∃ t, st.getById k = some t ∧ st' = st.put (f t)) : NoRequeue st st' := by
  rcases h with rfl | ⟨t, ht, rfl⟩
  · exact .refl _
  · exact .of_put ht (hf t)

/-- A task stored not QUEUED stays stored, not QUEUED. -/
theorem not_queued (h : NoRequeue st st') {k : String}
    (hk : ∃ t, st.getById k = some t ∧ t.status ≠ .queued) :
    ∃ t', st'.getById k = some t' ∧ t'.status ≠ .queued := by
  obtain ⟨t, ht, hq⟩ := hk
  obtain ⟨t', ht'⟩ := h.forth ht
  refine ⟨t', ht', fun hq' => ?_⟩
  obtain ⟨u, hu, huq⟩ := h.queued ht' hq'
  exact hq (Option.some_injective _ (ht.symm.trans hu) ▸ huq)

end NoRequeue

namespace WorkerSystem

open ServiceM

variable (svc : DeploymentDomainService)

/-- **Each task is held by at most one lifecycle**: the lifecycles' task ids are pairwise
distinct, and each names a stored task that is not QUEUED. -/
structure OnceInvariant (sys : WorkerSystem) : Prop where
  nodup : (sys.lifecycles.map Lifecycle.taskId).Nodup
  not_queued : ∀ k ∈ sys.lifecycles.map Lifecycle.taskId,
    ∃ t, sys.state.tasks.getById k = some t ∧ t.status ≠ .queued

namespace OnceInvariant

variable {svc} {sys : WorkerSystem}

/-- A step that keeps the lifecycles' task ids and puts no task back to QUEUED. -/
theorem of_noRequeue {sys' : WorkerSystem} (h : OnceInvariant sys)
    (hT : NoRequeue sys.state.tasks sys'.state.tasks)
    (hL : sys'.lifecycles.map Lifecycle.taskId = sys.lifecycles.map Lifecycle.taskId) :
    OnceInvariant sys' :=
  ⟨hL ▸ h.nodup, fun k hk => hT.not_queued (h.not_queued k (hL ▸ hk))⟩

theorem map_taskId_set {j : ℕ} {lc : Lifecycle} (hj : sys.lifecycles[j]? = some lc)
    (pc : LifecyclePc) :
    (sys.lifecycles.set j { lc with pc := pc }).map Lifecycle.taskId =
      sys.lifecycles.map Lifecycle.taskId :=
  List.map_set_of_getElem? _ hj rfl

/-- A poll spawns a lifecycle only for a task it took QUEUED, which no lifecycle holds. -/
theorem poll (h : OnceInvariant sys) (w : ℕ) : OnceInvariant (sys.poll w) := by
  unfold WorkerSystem.poll
  split
  · exact h
  rename_i worker _
  split_ifs
  · exact h
  rcases acquireNext_eq worker.workerId sys.state with h0 | ⟨t, ht, hq, -, h1⟩
  · rw [h0]; exact h
  rw [h1]
  have htk : sys.state.tasks.getById t.id = some t :=
    (Store.getById_eq_some_iff _ _ _).mpr ⟨ht, rfl⟩
  have hT : NoRequeue sys.state.tasks (sys.state.tasks.put
      { t with status := .acquired, version := t.version + 1, workerId := some worker.workerId }) :=
    .of_put htk ⟨rfl, rfl, fun h => nomatch h⟩
  have hnew : t.id ∉ sys.lifecycles.map Lifecycle.taskId := fun hk => by
    obtain ⟨u, hu, huq⟩ := h.not_queued _ hk
    exact huq (Option.some_injective _ (hu.symm.trans htk) ▸ hq)
  refine ⟨?_, fun k hk => ?_⟩
  · simpa [List.nodup_append, hnew] using h.nodup
  · simp only [List.map_append, List.map_singleton, List.mem_append, List.mem_singleton] at hk
    rcases hk with hk | rfl
    · exact hT.not_queued (h.not_queued k hk)
    · exact ⟨_, Store.getById_put_self _ _, fun h => nomatch h⟩

theorem startLifecycle (h : OnceInvariant sys) {j : ℕ} {lc : Lifecycle} (worker : Worker)
    (hj : sys.lifecycles[j]? = some lc) : OnceInvariant (startLifecycle svc sys j lc worker) := by
  have hT : NoRequeue sys.state.tasks (startTask svc.env lc.taskId sys.state).state.tasks :=
    .of_cases (fun t => (TaskCall.start _).progresses_run (by simp) (by simp) t)
      (startTask_tasks svc.env lc.taskId sys.state)
  unfold WorkerSystem.startLifecycle
  rcases hs : startTask svc.env lc.taskId sys.state with ⟨⟨⟩, s⟩ | ⟨e, s⟩ <;>
    rw [hs] at hT <;> exact h.of_noRequeue hT (map_taskId_set hj _)

theorem resume (h : OnceInvariant sys) (j : ℕ) : OnceInvariant (resume svc sys j) := by
  unfold WorkerSystem.resume
  split
  · exact h
  rename_i lc hj
  split
  · dsimp only
    split_ifs
    · exact h.of_noRequeue (.refl _) (map_taskId_set hj _)
    · refine startLifecycle ?_ _ ?_
      · exact ⟨h.nodup, h.not_queued⟩
      · exact hj
  · split_ifs
    · exact h
    · exact startLifecycle h _ hj
  · exact h

theorem finish (h : OnceInvariant sys) (j : ℕ) (o : ExecuteOutcome) :
    OnceInvariant (finish svc sys j o) := by
  unfold WorkerSystem.finish
  split
  · exact h
  rename_i lc hj
  split
  · exact h.of_noRequeue (.of_cases (recordOutcome_progresses _ o) (finishTask_tasks ..))
      (map_taskId_set hj _)
  · exact h

/-- **One event keeps the invariant.** -/
theorem step (h : OnceInvariant sys) : ∀ e, OnceInvariant (step svc sys e)
  | .poll w => h.poll w
  | .resume j => h.resume j
  | .finish j o => h.finish j o
  | .complete k success o err =>
    h.of_noRequeue (.of_cases (fun t => TaskCall.progresses_run _
        (by cases success <;> simp) (by cases success <;> simp) t)
      (svc.handleTaskCompletion_tasks k success o err sys.state)) rfl

theorem run (h : OnceInvariant sys) (events : List WorkerEvent) :
    OnceInvariant (run svc sys events) := by
  induction events generalizing sys with
  | nil => exact h
  | cons e events ih => exact ih (h.step e)

end OnceInvariant

/-- **No task is handed to two lifecycles.** Over any run of any number of workers, polling
and running their lifecycles in any interleaving with calls of `handle_task_completion`, from
stores with no lifecycle in flight: the lifecycles spawned carry pairwise distinct task ids,
so no task is acquired, started or executed twice, by one worker or by two. -/
theorem each_task_one_lifecycle (sys₀ : WorkerSystem) (h₀ : sys₀.lifecycles = [])
    (events : List WorkerEvent) : ((run svc sys₀ events).lifecycles.map Lifecycle.taskId).Nodup :=
  (OnceInvariant.run ⟨by simp [h₀], fun k hk => by simp [h₀] at hk⟩ events).nodup

/-- Two workers polling over one QUEUED task: one lifecycle only. -/
theorem each_task_one_lifecycle_two_workers :
    let svc : DeploymentDomainService :=
      ⟨⟨fun n => "t" ++ toString n, id⟩, .ruleBased fun n => "t" ++ toString n⟩
    let t₀ : Task :=
      { id := "t0", deploymentId := "d1", stepId := "s1", name := "deploy-vpc", status := .queued,
        idempotencyKey := "k1", createdAt := 0 }
    let sys₀ : WorkerSystem :=
      ⟨⟨.empty, ⟨[t₀], by decide⟩, [], 1, 1⟩, [Worker.init "w1" 5, Worker.init "w2" 5], []⟩
    sys₀.lifecycles = [] ∧
      ((run svc sys₀ [.poll 0, .poll 1, .resume 0]).lifecycles.map Lifecycle.taskId).Nodup :=
  ⟨rfl, each_task_one_lifecycle _ _ rfl _⟩

end WorkerSystem

end Orchestrator
