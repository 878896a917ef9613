/-
# The semaphore bounds the tasks a worker runs

Each `WorkerAgent` holds an `asyncio.Semaphore(max_concurrent)`. A lifecycle takes a permit
before `task.start()` and gives it back when its `async with` exits: after the outcome is
recorded, or at once when `start` raises. In the model a lifecycle holds a permit exactly while
it is `executing`, so in every state a run reaches, the free permits of a worker and its
executing lifecycles add up to its `max_concurrent` (`PermitsInvariant`), and no worker ever
has more than `max_concurrent` tasks between `start` and their outcome
(`executing_le_maxConcurrent`).

`_active_tasks`, which the poll compares with `max_concurrent`, plays no part in the bound: it
also counts lifecycles waiting for a permit, and a lifecycle only enters it once it runs.

Key definitions: `WorkerSystem.executing`, `WorkerSystem.PermitsInvariant`.
Key theorems: `WorkerSystem.PermitsInvariant.set`, `WorkerSystem.executing_le_maxConcurrent`.
-/
import Orchestrator.Workers.WorkerAgent

namespace Orchestrator

/-- Replacing an element by one with the same image leaves the image of the list. -/
theorem List.map_set_of_getElem? {α β : Type} (f : α → β) :
    ∀ {l : List α} {i : ℕ} {a b : α}, l[i]? = some a → f b = f a → (l.set i b).map f = l.map f
  | [], _, _, _, h, _ => by simp at h
  | _ :: _, 0, _, _, h, hf => by simp_all
  | _ :: _, _ + 1, _, _, h, hf => by
    rw [List.getElem?_cons_succ] at h
    simp [List.map_set_of_getElem? f h hf]

namespace WorkerSystem

/-- The lifecycles of worker `w` between a returning `start` and their outcome: those holding
one of its permits. -/
def executing (sys : WorkerSystem) (w : ℕ) : ℕ :=
  sys.lifecycles.countP fun lc => lc.worker = w ∧ lc.pc = .executing

/-- Moving lifecycle `j` changes each worker's count by the move. -/
theorem executing_set {sys : WorkerSystem} {j : ℕ} {lc : Lifecycle}
    (hj : sys.lifecycles[j]? = some lc) (s : State) (ws : List Worker) (lc' : Lifecycle) (w : ℕ) :
    executing ⟨s, ws, sys.lifecycles.set j lc'⟩ w +
        (if lc.worker = w ∧ lc.pc = .executing then 1 else 0) =
      sys.executing w + (if lc'.worker = w ∧ lc'.pc = .executing then 1 else 0) := by
  obtain ⟨hjlen, hlc⟩ := List.getElem?_eq_some_iff.mp hj
  have hle := List.boole_getElem_le_countP
    (fun lc => decide (lc.worker = w ∧ lc.pc = .executing)) _ _ hjlen
  simp only [executing, List.countP_set _ _ _ _ hjlen, hlc] at hle ⊢
  split_ifs at hle ⊢ <;> simp_all

/-- **The permits of each worker are accounted for**: every worker keeps the `max_concurrent`
it was built with, and its free permits and executing lifecycles add up to it. -/
structure PermitsInvariant (ms : List ℕ) (sys : WorkerSystem) : Prop where
  maxConcurrent : sys.workers.map Worker.maxConcurrent = ms
  balance : ∀ w worker, sys.workers[w]? = some worker →
    worker.permits + sys.executing w = worker.maxConcurrent

namespace PermitsInvariant

variable (svc : DeploymentDomainService) {ms : List ℕ} {sys : WorkerSystem}

/-- Workers as `__init__` leaves them, and no lifecycle. -/
theorem init (s : State) (workers : List (String × ℕ)) :
    PermitsInvariant (workers.map Prod.snd) ⟨s, workers.map fun w => Worker.init w.1 w.2, []⟩ where
  maxConcurrent := by rw [List.map_map]; rfl
  balance w worker h := by
    obtain ⟨_, -, rfl⟩ := Option.map_eq_some'.mp (List.getElem?_map _ _ _ ▸ h)
    rfl

/-- **What every step does to the workers and the lifecycles, said once**: lifecycle `j` moves,
and its worker's record is replaced by one whose permits change by what the move into or out
of `executing` takes. -/
theorem set (h : PermitsInvariant ms sys) (s : State) {j : ℕ} {lc lc' : Lifecycle}
    {worker worker' : Worker} (hj : sys.lifecycles[j]? = some lc)
    (hw : sys.workers[lc.worker]? = some worker) (hid : lc'.worker = lc.worker)
    (hmax : worker'.maxConcurrent = worker.maxConcurrent)
    (hbal : worker'.permits + (if lc'.pc = .executing then 1 else 0) =
      worker.permits + (if lc.pc = .executing then 1 else 0)) :
    PermitsInvariant ms ⟨s, sys.workers.set lc.worker worker', sys.lifecycles.set j lc'⟩ := by
  refine ⟨(List.map_set_of_getElem? _ hw hmax).trans h.maxConcurrent, fun w u hu => ?_⟩
  have hc := executing_set hj s (sys.workers.set lc.worker worker') lc' w
  by_cases hw' : lc.worker = w
  · subst hw'
    rw [List.getElem?_set_self (List.getElem?_eq_some_iff.mp hw).1] at hu
    obtain rfl := Option.some_injective _ hu
    have hb := h.balance _ _ hw
    simp only [hid, true_and] at hc
    split_ifs at hc hbal <;> omega
  · rw [List.getElem?_set_ne hw'] at hu
    have hb := h.balance w u hu
    simp only [hw', hid, false_and, if_false, add_zero] at hc
    omega

/-- Replacing a worker's record by one with the same permits and bound. -/
theorem setWorker (h : PermitsInvariant ms sys) {i : ℕ} {worker worker' : Worker}
    (hw : sys.workers[i]? = some worker) (hp : worker'.permits = worker.permits)
    (hmax : worker'.maxConcurrent = worker.maxConcurrent) :
    PermitsInvariant ms { sys with workers := sys.workers.set i worker' } := by
  refine ⟨(List.map_set_of_getElem? _ hw hmax).trans h.maxConcurrent, fun w u hu => ?_⟩
  by_cases hw' : i = w
  · subst hw'
    rw [List.getElem?_set_self (List.getElem?_eq_some_iff.mp hw).1] at hu
    obtain rfl := Option.some_injective _ hu
    rw [hp, hmax]
    exact h.balance _ _ hw
  · rw [List.getElem?_set_ne hw'] at hu
    exact h.balance w u hu

theorem startLifecycle (h : PermitsInvariant ms sys) {j : ℕ} {lc : Lifecycle} {worker : Worker}
    (hj : sys.lifecycles[j]? = some lc) (hw : sys.workers[lc.worker]? = some worker)
    (hpc : lc.pc ≠ .executing) (hp : worker.permits ≠ 0) :
    PermitsInvariant ms (startLifecycle svc sys j lc worker) := by
  unfold WorkerSystem.startLifecycle
  split
  · exact h.set _ hj hw rfl rfl (by simp [hpc]; omega)
  · exact h.set _ hj hw rfl rfl (by simp [hpc])

theorem poll (h : PermitsInvariant ms sys) (w : ℕ) : PermitsInvariant ms (sys.poll w) := by
  have hspawn : ∀ (s : State) (lc : Lifecycle), lc.pc = .spawned →
      PermitsInvariant ms ⟨s, sys.workers, sys.lifecycles ++ [lc]⟩ := fun s lc hlc =>
    ⟨h.maxConcurrent, fun w u hu => by simpa [executing, hlc] using h.balance w u hu⟩
  unfold WorkerSystem.poll
  split
  · exact h
  split_ifs
  · exact h
  split
  · exact hspawn _ _ rfl
  all_goals exact ⟨h.maxConcurrent, h.balance⟩

theorem resume (h : PermitsInvariant ms sys) (j : ℕ) : PermitsInvariant ms (resume svc sys j) := by
  unfold WorkerSystem.resume
  split
  · exact h
  rename_i lc hj
  split
  · rename_i worker hw hpc
    dsimp only
    split_ifs with hp
    · exact h.set _ hj hw rfl rfl (by simp [hpc])
    · refine (h.setWorker hw ?_ ?_).startLifecycle svc hj
        (List.getElem?_set_self (List.getElem?_eq_some_iff.mp hw).1) (by simp [hpc]) hp <;> rfl
  · rename_i worker hw hpc
    split_ifs with hp
    · exact h
    · exact h.startLifecycle svc hj hw (by simp [hpc]) hp
  · exact h

theorem finish (h : PermitsInvariant ms sys) (j : ℕ) (o : ExecuteOutcome) :
    PermitsInvariant ms (finish svc sys j o) := by
  unfold WorkerSystem.finish
  split
  · exact h
  rename_i lc hj
  split
  · rename_i worker hw hpc
    exact h.set _ hj hw rfl rfl (by simp [hpc])
  · exact h

/-- One event keeps the invariant. -/
theorem step (h : PermitsInvariant ms sys) : ∀ e, PermitsInvariant ms (step svc sys e)
  | .poll w => h.poll w
  | .resume j => h.resume svc j
  | .finish j o => h.finish svc j o
  | .complete .. => ⟨h.maxConcurrent, h.balance⟩

/-- A whole run keeps the invariant. -/
theorem run (h : PermitsInvariant ms sys) (events : List WorkerEvent) :
    PermitsInvariant ms (run svc sys events) := by
  induction events generalizing sys with
  | nil => exact h
  | cons e events ih => exact ih (h.step svc e)

end PermitsInvariant

/-- **No worker runs more than `max_concurrent` tasks at once.** In every run of workers and
completions from workers as `__init__` leaves them, worker `w`, built with
`max_concurrent = m`, has at most `m` lifecycles between a returning `start` and their
outcome. -/
theorem executing_le_maxConcurrent (svc : DeploymentDomainService) (workers : List (String × ℕ))
    (s : State) (events : List WorkerEvent) {w : ℕ} {workerId : String} {m : ℕ}
    (hw : workers[w]? = some (workerId, m)) :
    (run svc ⟨s, workers.map fun w => Worker.init w.1 w.2, []⟩ events).executing w ≤ m := by
  have h := (PermitsInvariant.init s workers).run svc events
  have hm := congrArg (·[w]?) h.maxConcurrent
  simp only [List.getElem?_map, hw, Option.map_some'] at hm
  obtain ⟨worker, hworker, hmax⟩ := Option.map_eq_some'.mp hm
  have hb := h.balance w worker hworker
  omega

/-- One worker with a single permit polls twice: the first lifecycle starts its task and
the second waits for the permit. -/
theorem executing_le_maxConcurrent_one_permit :
    let svc : DeploymentDomainService :=
      ⟨⟨fun n => "t" ++ toString n, id⟩, .ruleBased fun n => "t" ++ toString n⟩
    let t₀ : Task :=
      { id := "t0", deploymentId := "d1", stepId := "s1", name := "deploy-vpc", status := .queued,
        idempotencyKey := "k1", createdAt := 0 }
    let t₁ : Task := { t₀ with id := "t1", stepId := "s2", idempotencyKey := "k2", createdAt := 1 }
    let s : State := ⟨.empty, ⟨[t₀, t₁], by decide⟩, [], 2, 2⟩
    let events : List WorkerEvent := [.poll 0, .poll 0, .resume 0, .resume 1]
    [("w1", 1)][0]? = some ("w1", 1) ∧
      (run svc ⟨s, [("w1", 1)].map fun w => Worker.init w.1 w.2, []⟩ events).executing 0 ≤ 1 :=
  ⟨rfl, executing_le_maxConcurrent _ [("w1", 1)] _ _ rfl⟩

end WorkerSystem

end Orchestrator
