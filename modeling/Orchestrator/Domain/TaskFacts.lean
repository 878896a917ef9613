/-
# Runs of task methods

A task built as `execute_deployment` builds it (PENDING, no worker, `1 ≤ attempt_number ≤
max_attempts`) keeps, under any sequence of method calls whose raising ones are kept
(`Task.runCalls`), the invariant `TaskInvariant`: the attempt stays within its budget, a
task holding or having run a claim names its worker, a task waiting for one names none, and
every returning `start` was paid for by an attempt (`Task.startsReturned`). One lemma says
what each call does to the invariant (`TaskInvariant.run`); the run lemma follows by
induction (`TaskInvariant.runCalls`).

RETRYING is never seen between calls: `retry` passes through it to QUEUED within one call,
and no other call enters it.

A call that raises leaves the task as it was but for what it wrote before its transition
check (`TaskCall.writtenBeforeCheck`, `TaskCall.raise_leaves_early_writes`): the output of
`succeed(output)` when the output is non-empty, and the message of `fail(msg)`. So a second
`succeed` on a SUCCEEDED task raises with the new output written
(`TaskCall.succeed_on_succeeded_overwrites_output`).

Key definitions: `TaskInvariant`, `Task.runCalls`, `Task.startsReturned`,
`TaskCall.writtenBeforeCheck`.
Key theorems: `TaskInvariant.run`, `Task.attempts_bounded_and_workers_consistent`,
`TaskCall.raise_leaves_early_writes`.
-/
import Orchestrator.Domain.Task

namespace Orchestrator

/-- The statuses a valid transition into `s` comes from. -/
theorem TaskStatus.mem_taskValidTransitions_iff :
    ∀ s t : TaskStatus, s ∈ taskValidTransitions t ↔ t ∈ (match s with
      | .queued => [.pending, .retrying]
      | .acquired => [.queued]
      | .running => [.acquired]
      | .succeeded => [.running]
      | .failed => [.running, .timedOut]
      | .retrying => [.failed, .timedOut]
      | .cancelled => [.pending, .queued, .acquired, .failed, .timedOut]
      | .timedOut => [.queued, .running]
      | .pending => [] : List TaskStatus) := by
  decide

/-- A `start` call. -/
def TaskCall.isStart : TaskCall → Bool
  | .start _ => true
  | _ => false

namespace Task

/-- The task after the calls `cs`, each made on what the one before left, whether it
returned or raised. -/
def runCalls : Task → List TaskCall → Task
  | t, [] => t
  | t, c :: cs => runCalls (c.run t).state cs

/-- How many `start` calls of the run returned. -/
def startsReturned : Task → List TaskCall → ℕ
  | _, [] => 0
  | t, c :: cs => (if c.isStart && (c.run t).isOk then 1 else 0) + startsReturned (c.run t).state cs

theorem runCalls_append (t : Task) (xs ys : List TaskCall) :
    runCalls t (xs ++ ys) = runCalls (runCalls t xs) ys := by
  induction xs generalizing t with
  | nil => rfl
  | cons c xs ih => exact ih _

end Task

namespace TaskCall

open Task in
/-- No call lowers the attempt number or changes the budget. -/
theorem attempt_run (c : TaskCall) (t : Task) :
    t.attemptNumber ≤ (c.run t).state.attemptNumber ∧ (c.run t).state.maxAttempts = t.maxAttempts := by
  cases c <;>
    simp only [run, Task.enqueue, Task.acquire, Task.start, Task.timeout, Task.cancel,
      transitionTo_apply, transitionTo_modify, succeed_apply, fail_apply, retry_apply] <;>
    split_ifs <;> simp

open Task in
/-- No call changes what identifies the task: its id, deployment, step, idempotency key and
creation time. -/
theorem identity_run (c : TaskCall) (t : Task) :
    (c.run t).state.id = t.id ∧ (c.run t).state.deploymentId = t.deploymentId ∧
      (c.run t).state.stepId = t.stepId ∧ (c.run t).state.idempotencyKey = t.idempotencyKey ∧
      (c.run t).state.createdAt = t.createdAt := by
  cases c <;>
    simp only [run, Task.enqueue, Task.acquire, Task.start, Task.timeout, Task.cancel,
      transitionTo_apply, transitionTo_modify, succeed_apply, fail_apply, retry_apply] <;>
    split_ifs <;> simp

/-- What a call writes before its transition check, and so what it leaves when that check
raises: a non-empty output for `succeed`, the message for `fail`. -/
def writtenBeforeCheck : TaskCall → Task → Task
  | .succeed o _, t => { t with outputData := if o ≠ [] then o else t.outputData }
  | .fail m _, t => { t with errorMessage := m }
  | _, t => t

open Task in
/-- **A task call that raises leaves what it wrote before its check**, and nothing else:
`retry` checks the budget and the transition before it writes, and its second transition,
RETRYING → QUEUED, cannot fail. -/
theorem raise_leaves_early_writes (c : TaskCall) (t t' : Task) (e : TaskError)
    (h : c.run t = .error e t') : t' = c.writtenBeforeCheck t := by
  cases c <;>
    simp only [run, Task.enqueue, Task.acquire, Task.start, Task.timeout, Task.cancel,
      transitionTo_apply, transitionTo_modify, succeed_apply, fail_apply, retry_apply] at h <;>
    split_ifs at h <;> cases h <;> simp [writtenBeforeCheck, *]

/-- `fail` on a SUCCEEDED task raises, leaving only its message written. -/
theorem raise_leaves_early_writes_fail_on_succeeded :
    let t : Task :=
      { id := "t1", deploymentId := "d1", stepId := "s1", name := "deploy-vpc",
        status := .succeeded, workerId := some "w1", idempotencyKey := "k1", createdAt := 0 }
    (TaskCall.fail "boom" 5).run t =
        .error (.invalidTransition .succeeded .failed) { t with errorMessage := "boom" } ∧
      { t with errorMessage := "boom" } = (TaskCall.fail "boom" 5).writtenBeforeCheck t :=
  ⟨rfl, raise_leaves_early_writes _ _ _ _ rfl⟩

/-- A second `succeed` on a SUCCEEDED task raises and leaves its output written. -/
theorem succeed_on_succeeded_overwrites_output :
    ¬ ∀ (c : TaskCall) (t t' : Task) (e : TaskError), c.run t = .error e t' →
      t'.status = t.status ∧ t'.workerId = t.workerId ∧ t'.attemptNumber = t.attemptNumber ∧
      t'.outputData = t.outputData ∧ t'.errorMessage = t.errorMessage ∧
      t'.startedAt = t.startedAt ∧ t'.completedAt = t.completedAt ∧ t'.version = t.version := by
  intro h
  let t : Task :=
    { id := "t1", deploymentId := "d1", stepId := "s1", name := "deploy-vpc",
      status := .succeeded, workerId := some "w1", idempotencyKey := "k1",
      outputData := [("vpc_id", "vpc-1")], createdAt := 0 }
  exact absurd (h (.succeed [("vpc_id", "vpc-2")] 5) t { t with outputData := [("vpc_id", "vpc-2")] }
    (.invalidTransition .succeeded .succeeded) rfl).2.2.2.1 (by decide)

end TaskCall

/-- What every task a run reaches satisfies, with `starts` the returning `start` calls so
far. -/
structure TaskInvariant (t : Task) (starts : ℕ) : Prop where
  attempt_pos : 1 ≤ t.attemptNumber
  attempt_le : t.attemptNumber ≤ t.maxAttempts
  not_retrying : t.status ≠ .retrying
  worker_some : t.status ∈ [.acquired, .running, .succeeded] → t.workerId ≠ none
  worker_none : t.status ∈ [.pending, .queued] → t.workerId = none
  starts_le : (starts : ℤ) ≤ t.attemptNumber
  starts_lt : t.status ∈ [.pending, .queued, .acquired] → (starts : ℤ) < t.attemptNumber

namespace TaskInvariant

/-- The invariant reads only the status, the worker, the attempt and the budget. -/
theorem congr {t t' : Task} {n : ℕ} (h : TaskInvariant t n) (hs : t'.status = t.status)
    (hw : t'.workerId = t.workerId) (ha : t'.attemptNumber = t.attemptNumber)
    (hm : t'.maxAttempts = t.maxAttempts) : TaskInvariant t' n := by
  obtain ⟨h1, h2, h3, h4, h5, h6, h7⟩ := h
  exact ⟨ha ▸ h1, ha ▸ hm ▸ h2, hs ▸ h3, hs ▸ hw ▸ h4, hs ▸ hw ▸ h5, ha ▸ h6, hs ▸ ha ▸ h7⟩

open Task in
/-- **One call keeps the invariant**, counting a returning `start`. -/
theorem run {t : Task} {n : ℕ} (h : TaskInvariant t n) (c : TaskCall) :
    TaskInvariant (c.run t).state (n + if c.isStart && (c.run t).isOk then 1 else 0) := by
  have src := TaskStatus.mem_taskValidTransitions_iff
  cases c with
  | start now =>
    rw [TaskCall.run, Task.start, transitionTo_modify]
    by_cases h1 : TaskStatus.running ∈ taskValidTransitions t.status
    · have hs : t.status = .acquired := by simpa [src] using h1
      have hlt := h.starts_lt (by simp [hs])
      simp only [if_pos h1, EStateM.Result.state_ok, EStateM.Result.isOk, TaskCall.isStart,
        Bool.and_self, if_true]
      exact ⟨h.attempt_pos, h.attempt_le, by simp, fun _ => h.worker_some (by simp [hs]), by simp,
        by push_cast; omega, by simp⟩
    · simp only [if_neg h1, EStateM.Result.state_error, EStateM.Result.isOk, Bool.and_false,
        Bool.false_eq_true, if_false, add_zero]
      exact h.congr rfl rfl rfl rfl
  | enqueue =>
    simp only [TaskCall.isStart, Bool.false_and, Bool.false_eq_true, if_false, add_zero,
      TaskCall.run, Task.enqueue, transitionTo_apply]
    split_ifs with h1
    · have hs : t.status = .pending := by have := h.not_retrying; simp_all [src]
      exact ⟨h.attempt_pos, h.attempt_le, by simp, by simp,
        fun _ => h.worker_none (by simp [hs]), h.starts_le, fun _ => h.starts_lt (by simp [hs])⟩
    · exact h.congr rfl rfl rfl rfl
  | acquire w =>
    simp only [TaskCall.isStart, Bool.false_and, Bool.false_eq_true, if_false, add_zero,
      TaskCall.run, Task.acquire, transitionTo_modify]
    split_ifs with h1
    · have hs : t.status = .queued := by simpa [src] using h1
      exact ⟨h.attempt_pos, h.attempt_le, by simp, by simp, by simp, h.starts_le,
        fun _ => h.starts_lt (by simp [hs])⟩
    · exact h.congr rfl rfl rfl rfl
  | succeed o now =>
    simp only [TaskCall.isStart, Bool.false_and, Bool.false_eq_true, if_false, add_zero,
      TaskCall.run, succeed_apply]
    by_cases h1 : TaskStatus.succeeded ∈ taskValidTransitions t.status
    · rw [if_pos h1]
      have hs : t.status = .running := by simpa [src] using h1
      exact ⟨h.attempt_pos, h.attempt_le, by simp, fun _ => h.worker_some (by simp [hs]), by simp,
        h.starts_le, by simp⟩
    · rw [if_neg h1]
      exact h.congr rfl rfl rfl rfl
  | fail m now =>
    simp only [TaskCall.isStart, Bool.false_and, Bool.false_eq_true, if_false, add_zero,
      TaskCall.run, fail_apply]
    split_ifs
    · exact ⟨h.attempt_pos, h.attempt_le, by simp, by simp, by simp, h.starts_le, by simp⟩
    · exact h.congr rfl rfl rfl rfl
  | retry =>
    simp only [TaskCall.isStart, Bool.false_and, Bool.false_eq_true, if_false, add_zero,
      TaskCall.run, retry_apply]
    split_ifs with hm
    · exact h.congr rfl rfl rfl rfl
    · simp only [EStateM.Result.state_ok]
      have := h.starts_le
      have := h.attempt_pos
      refine ⟨?_, ?_, by simp, by simp, by simp, ?_, fun _ => ?_⟩ <;> dsimp only <;> omega
    · exact h.congr rfl rfl rfl rfl
  | timeout now =>
    simp only [TaskCall.isStart, Bool.false_and, Bool.false_eq_true, if_false, add_zero,
      TaskCall.run, Task.timeout, transitionTo_modify]
    split_ifs
    · exact ⟨h.attempt_pos, h.attempt_le, by simp, by simp, by simp, h.starts_le, by simp⟩
    · exact h.congr rfl rfl rfl rfl
  | cancel now =>
    simp only [TaskCall.isStart, Bool.false_and, Bool.false_eq_true, if_false, add_zero,
      TaskCall.run, Task.cancel, transitionTo_modify]
    split_ifs
    · exact ⟨h.attempt_pos, h.attempt_le, by simp, by simp, by simp, h.starts_le, by simp⟩
    · exact h.congr rfl rfl rfl rfl

/-- **The run lemma.** The invariant holds after any run, counting its returning starts. -/
theorem runCalls {t : Task} {n : ℕ} (h : TaskInvariant t n) (cs : List TaskCall) :
    TaskInvariant (t.runCalls cs) (n + t.startsReturned cs) := by
  induction cs generalizing t n with
  | nil => exact h
  | cons c cs ih =>
    have := ih (h.run c)
    rwa [Nat.add_assoc] at this

/-- A task as `execute_deployment` builds it satisfies the invariant. -/
theorem initial {t : Task} (hs : t.status = .pending) (hw : t.workerId = none)
    (h1 : 1 ≤ t.attemptNumber) (h2 : t.attemptNumber ≤ t.maxAttempts) : TaskInvariant t 0 :=
  ⟨h1, h2, by simp [hs], by simp [hs], fun _ => hw, by push_cast; omega, fun _ => by push_cast; omega⟩

end TaskInvariant

namespace Task

theorem attempt_runCalls (t : Task) (cs : List TaskCall) :
    t.attemptNumber ≤ (t.runCalls cs).attemptNumber ∧ (t.runCalls cs).maxAttempts = t.maxAttempts := by
  induction cs generalizing t with
  | nil => exact ⟨le_refl _, rfl⟩
  | cons c cs ih =>
    obtain ⟨h1, h2⟩ := c.attempt_run t
    obtain ⟨h3, h4⟩ := ih (c.run t).state
    exact ⟨h1.trans h3, h4.trans h2⟩

/-- **Attempts stay within the budget, and a task names its worker exactly while it holds
or has run a claim.** From a task as `execute_deployment` builds it, after any calls (raising
ones kept): the attempt number is at most `max_attempts` and never decreases over the rest
of the run, the returning `start` calls are at most the attempt number, so at most
`max_attempts`, and the worker is set in ACQUIRED, RUNNING and SUCCEEDED and unset in
PENDING and QUEUED. -/
theorem attempts_bounded_and_workers_consistent (t : Task) (hs : t.status = .pending)
    (hw : t.workerId = none) (h1 : 1 ≤ t.attemptNumber) (h2 : t.attemptNumber ≤ t.maxAttempts)
    (cs cs' : List TaskCall) :
    (t.runCalls cs).attemptNumber ≤ (t.runCalls cs).maxAttempts ∧
    (t.runCalls cs).attemptNumber ≤ (t.runCalls (cs ++ cs')).attemptNumber ∧
    (t.startsReturned cs : ℤ) ≤ (t.runCalls cs).attemptNumber ∧
    (t.startsReturned cs : ℤ) ≤ t.maxAttempts ∧
    ((t.runCalls cs).status ∈ [.acquired, .running, .succeeded] → (t.runCalls cs).workerId ≠ none) ∧
    ((t.runCalls cs).status ∈ [.pending, .queued] → (t.runCalls cs).workerId = none) := by
  have inv := (TaskInvariant.initial hs hw h1 h2).runCalls cs
  rw [Nat.zero_add] at inv
  have hmax := (attempt_runCalls t cs).2
  refine ⟨inv.attempt_le, ?_, inv.starts_le, ?_, inv.worker_some, inv.worker_none⟩
  · rw [runCalls_append]; exact (attempt_runCalls _ cs').1
  · exact hmax ▸ inv.starts_le.trans inv.attempt_le

/-- The bound at a fresh task claimed, started, failed, retried and claimed again. -/
theorem attempts_bounded_fresh_task :
    let t : Task :=
      { id := "t1", deploymentId := "d1", stepId := "s1", name := "deploy-web",
        idempotencyKey := "k1", createdAt := 0 }
    let cs : List TaskCall :=
      [.enqueue, .acquire "w1", .start 1, .fail "boom" 2, .retry, .acquire "w2"]
    (t.status = .pending ∧ t.workerId = none ∧ 1 ≤ t.attemptNumber ∧
      t.attemptNumber ≤ t.maxAttempts) ∧
    ((t.runCalls cs).attemptNumber ≤ (t.runCalls cs).maxAttempts ∧
      (t.runCalls cs).attemptNumber ≤ (t.runCalls (cs ++ [])).attemptNumber ∧
      (t.startsReturned cs : ℤ) ≤ (t.runCalls cs).attemptNumber ∧
      (t.startsReturned cs : ℤ) ≤ t.maxAttempts ∧
      ((t.runCalls cs).status ∈ [.acquired, .running, .succeeded] → (t.runCalls cs).workerId ≠ none) ∧
      ((t.runCalls cs).status ∈ [.pending, .queued] → (t.runCalls cs).workerId = none)) :=
  ⟨⟨rfl, rfl, by decide, by decide⟩,
    attempts_bounded_and_workers_consistent _ rfl rfl (by decide) (by decide) _ []⟩

end Task

end Orchestrator
