/-
# The task aggregate

`domain/models/task.py`. As for deployments, a method mutates `self` and may raise
(`InvalidTaskTransitionError`, `MaxRetriesExceededError`): it is a `TaskM Unit` whose
result keeps the task as the method left it. `succeed` and `fail` write their output or
message before the transition check; `retry` checks the attempt budget, then goes through
RETRYING to QUEUED. A method that reads `utc_now()` takes the reading as its argument `now`.

Key definitions: `taskValidTransitions`, `Task.transitionTo`, `Task.retry`, `TaskCall`.
Key theorems: `Task.retry_apply`, `Task.succeed_apply`, `Task.fail_apply`.
-/
import Orchestrator.Domain.Deployment

namespace Orchestrator

inductive TaskStatus
  | pending | queued | acquired | running | succeeded | failed | retrying | cancelled | timedOut
  deriving DecidableEq, Repr, Fintype

def TaskStatus.value : TaskStatus → String
  | .pending => "pending" | .queued => "queued" | .acquired => "acquired"
  | .running => "running" | .succeeded => "succeeded" | .failed => "failed"
  | .retrying => "retrying" | .cancelled => "cancelled" | .timedOut => "timed_out"

/-- `TASK_VALID_TRANSITIONS`. -/
def taskValidTransitions : TaskStatus → List TaskStatus
  | .pending => [.queued, .cancelled]
  | .queued => [.acquired, .cancelled, .timedOut]
  | .acquired => [.running, .cancelled]
  | .running => [.succeeded, .failed, .timedOut]
  | .succeeded => []
  | .failed => [.retrying, .cancelled]
  | .retrying => [.queued]
  | .cancelled => []
  | .timedOut => [.retrying, .cancelled, .failed]

/-- `InvalidTaskTransitionError` (with its two statuses) and `MaxRetriesExceededError` (with
its message). -/
inductive TaskError
  | invalidTransition (src dst : TaskStatus)
  | maxRetriesExceeded (message : String)
  deriving DecidableEq, Repr

/-- The `input_data` that `execute_deployment` gives a task. -/
structure TaskInput where
  resourceSpec : ResourceSpec
  dependencies : List String
  deriving DecidableEq, Repr

/-- The `Task` aggregate; `input_data` is absent (`none`) for `{}`, `output_data` holds its
values as text, and timestamps are readings of the clock. -/
structure Task where
  id : String
  deploymentId : String
  stepId : String
  name : String
  description : String := ""
  status : TaskStatus := .pending
  provider : CloudProviderType := .aws
  terraformAction : String := "apply"
  workerId : Option String := none
  idempotencyKey : String
  attemptNumber : ℤ := 1
  maxAttempts : ℤ := 3
  timeoutSeconds : ℤ := 300
  inputData : Option TaskInput := none
  outputData : List (String × String) := []
  errorMessage : String := ""
  startedAt : Option ℕ := none
  completedAt : Option ℕ := none
  version : ℤ := 1
  createdAt : ℕ
  deriving DecidableEq, Repr

abbrev TaskM := EStateM TaskError Task

namespace Task

/-- `_transition_to(new_status)`, with its `touch()`. -/
def transitionTo (newStatus : TaskStatus) : TaskM Unit := fun t =>
  if newStatus ∈ taskValidTransitions t.status then
    .ok () { t with status := newStatus, version := t.version + 1 }
  else .error (.invalidTransition t.status newStatus) t

def enqueue : TaskM Unit := transitionTo .queued

def acquire (workerId : String) : TaskM Unit := do
  transitionTo .acquired
  modify fun t => { t with workerId := some workerId }

def start (now : ℕ) : TaskM Unit := do
  transitionTo .running
  modify fun t => { t with startedAt := some now }

/-- `succeed(output)`: an empty or absent output leaves `output_data` as it is. -/
def succeed (output : List (String × String)) (now : ℕ) : TaskM Unit := do
  if output ≠ [] then modify fun t => { t with outputData := output }
  transitionTo .succeeded
  modify fun t => { t with completedAt := some now }

def fail (errorMessage : String) (now : ℕ) : TaskM Unit := do
  modify fun t => { t with errorMessage := errorMessage }
  transitionTo .failed
  modify fun t => { t with completedAt := some now }

def retry : TaskM Unit := do
  let t ← get
  if t.attemptNumber ≥ t.maxAttempts then
    throw (.maxRetriesExceeded
      ("Task " ++ t.id ++ " has exceeded max retries (" ++ toString t.maxAttempts ++ ")"))
  transitionTo .retrying
  modify fun t => { t with attemptNumber := t.attemptNumber + 1, workerId := none, errorMessage := "" }
  transitionTo .queued

def timeout (now : ℕ) : TaskM Unit := do
  transitionTo .timedOut
  modify fun t => { t with completedAt := some now }

def cancel (now : ℕ) : TaskM Unit := do
  transitionTo .cancelled
  modify fun t => { t with completedAt := some now }

/-- `is_terminal`. -/
def isTerminal (t : Task) : Bool := t.status ∈ [.succeeded, .cancelled]

/-- `can_retry`. -/
def canRetry (t : Task) : Bool := t.status ∈ [.failed, .timedOut] && t.attemptNumber < t.maxAttempts

/-! ### What each method does -/

theorem transitionTo_apply (s : TaskStatus) (t : Task) :
    transitionTo s t = if s ∈ taskValidTransitions t.status then
      .ok () { t with status := s, version := t.version + 1 }
      else .error (.invalidTransition t.status s) t := rfl

theorem transitionTo_bind {α : Type} (s : TaskStatus) (f : Unit → TaskM α) (t : Task) :
    (transitionTo s >>= f) t = if s ∈ taskValidTransitions t.status then
      f () { t with status := s, version := t.version + 1 }
      else .error (.invalidTransition t.status s) t := by
  change EStateM.bind (transitionTo s) f t = _
  simp only [EStateM.bind, transitionTo_apply]
  split_ifs <;> rfl

/-- The shape of `acquire`, `start`, `timeout` and `cancel`: a transition, then a write. -/
theorem transitionTo_modify (s : TaskStatus) (g : Task → Task) (t : Task) :
    (do transitionTo s; modify g : TaskM Unit) t = if s ∈ taskValidTransitions t.status then
      .ok () (g { t with status := s, version := t.version + 1 })
      else .error (.invalidTransition t.status s) t := by
  rw [transitionTo_bind]; rfl

theorem succeed_apply (o : List (String × String)) (now : ℕ) (t : Task) :
    succeed o now t = if .succeeded ∈ taskValidTransitions t.status then
      .ok () { t with outputData := if o ≠ [] then o else t.outputData, status := .succeeded,
                      version := t.version + 1, completedAt := some now }
      else .error (.invalidTransition t.status .succeeded)
        { t with outputData := if o ≠ [] then o else t.outputData } := by
  by_cases ho : o = [] <;>
    simp only [succeed, ho, ne_eq, not_true_eq_false, not_false_eq_true, if_false, if_true] <;>
    first
      | exact transitionTo_modify _ _ t
      | exact transitionTo_modify _ _ { t with outputData := o }

theorem fail_apply (m : String) (now : ℕ) (t : Task) :
    fail m now t = if .failed ∈ taskValidTransitions t.status then
      .ok () { t with errorMessage := m, status := .failed, version := t.version + 1,
                      completedAt := some now }
      else .error (.invalidTransition t.status .failed) { t with errorMessage := m } :=
  transitionTo_modify .failed _ { t with errorMessage := m }

theorem retry_apply (t : Task) :
    retry t = if t.maxAttempts ≤ t.attemptNumber then
      .error (.maxRetriesExceeded
        ("Task " ++ t.id ++ " has exceeded max retries (" ++ toString t.maxAttempts ++ ")")) t
      else if .retrying ∈ taskValidTransitions t.status then
        .ok () { t with status := .queued, version := t.version + 1 + 1,
                        attemptNumber := t.attemptNumber + 1, workerId := none, errorMessage := "" }
      else .error (.invalidTransition t.status .retrying) t := by
  rw [retry, get_bind_apply]
  by_cases hm : t.maxAttempts ≤ t.attemptNumber
  · simp only [ge_iff_le, hm, if_true]; rfl
  · simp only [ge_iff_le, hm, if_false]
    change (transitionTo .retrying >>= _) t = _
    rw [transitionTo_bind]
    split_ifs with hv
    · simp [taskValidTransitions, modify_bind_apply, transitionTo_apply]
    · rfl

end Task

/-- The public methods of the task, as calls. -/
inductive TaskCall
  | enqueue
  | acquire (workerId : String)
  | start (now : ℕ)
  | succeed (output : List (String × String)) (now : ℕ)
  | fail (errorMessage : String) (now : ℕ)
  | retry
  | timeout (now : ℕ)
  | cancel (now : ℕ)
  deriving DecidableEq, Repr

def TaskCall.run : TaskCall → TaskM Unit
  | .enqueue => Task.enqueue
  | .acquire w => Task.acquire w
  | .start now => Task.start now
  | .succeed o now => Task.succeed o now
  | .fail m now => Task.fail m now
  | .retry => Task.retry
  | .timeout now => Task.timeout now
  | .cancel now => Task.cancel now

end Orchestrator
