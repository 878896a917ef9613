/-
# The deployment aggregate

`domain/models/deployment.py`, with the value objects of `domain/models/cloud_provider.py`
it holds and the events of `domain/events/deployment_events.py` it emits. A method of the
aggregate mutates `self` and may raise `InvalidStateTransitionError`: it is a
`DeploymentM Unit`, whose result keeps the object as the method left it, returned or
raised. Only `transitionTo` checks anything; `setPlan`, `fail` and `recordStepResult`
write a field before the check runs.

`touch()` is the version moving on (`updated_at` is not modelled). The pending domain events
(`_domain_events`) are a field, `domainEvents`, with payloads and without the event ids and
timestamps that nothing reads.

Key definitions: `validTransitions`, `Deployment.transitionTo`, `Deployment.setPlan`,
`Deployment.recordStepResult`, `Deployment.fail`, `DeploymentCall`.
Key theorems: `Deployment.transitionTo_apply`, `Deployment.setPlan_apply`,
`Deployment.recordStepResult_apply`.
-/
import Orchestrator.Store
import Mathlib.Tactic.DeriveFintype

namespace Orchestrator

/-! ### Value objects -/

inductive CloudProviderType
  | aws | azure | gcp
  deriving DecidableEq, Repr

def CloudProviderType.value : CloudProviderType → String
  | .aws => "aws" | .azure => "azure" | .gcp => "gcp"

inductive ResourceType
  | compute | storage | database | network | container | serverless | loadBalancer | dns | cdn
  | queue | cache
  deriving DecidableEq, Repr

def ResourceType.value : ResourceType → String
  | .compute => "compute" | .storage => "storage" | .database => "database"
  | .network => "network" | .container => "container" | .serverless => "serverless"
  | .loadBalancer => "load_balancer" | .dns => "dns" | .cdn => "cdn" | .queue => "queue"
  | .cache => "cache"

/-- `ResourceSpec`. `tags` holds text, as in the source; `properties`, a `dict[str, Any]`
there, is narrowed to text values. -/
structure ResourceSpec where
  resourceType : ResourceType
  provider : CloudProviderType
  region : String
  name : String
  properties : List (String × String) := []
  tags : List (String × String) := []
  dependencies : List String := []
  deriving DecidableEq, Repr

def ResourceSpec.resourceIdentifier (r : ResourceSpec) : String :=
  r.provider.value ++ "/" ++ r.region ++ "/" ++ r.resourceType.value ++ "/" ++ r.name

inductive DeploymentStrategy
  | rolling | blueGreen | canary | recreate
  deriving DecidableEq, Repr

def DeploymentStrategy.value : DeploymentStrategy → String
  | .rolling => "rolling" | .blueGreen => "blue_green" | .canary => "canary"
  | .recreate => "recreate"

/-- `DeploymentIntent`, without `description` and `parameters`, which nothing reads. -/
structure DeploymentIntent where
  targetProviders : List CloudProviderType
  targetRegions : List String := []
  resources : List ResourceSpec := []
  strategy : DeploymentStrategy := .rolling
  autoApprove : Bool := false
  rollbackOnFailure : Bool := true
  environment : String := "staging"
  deriving DecidableEq, Repr

/-- `ExecutionStep`, without `retry_count` and `max_retries`, which nothing reads. -/
structure ExecutionStep where
  stepId : String
  name : String
  description : String
  provider : CloudProviderType
  resourceSpec : ResourceSpec
  terraformAction : String
  dependencies : List String := []
  estimatedDurationSeconds : ℤ := 60
  idempotencyKey : String
  deriving DecidableEq, Repr

/-- `ExecutionPlan`, without `terraform_plan_output`, which nothing sets. -/
structure ExecutionPlan where
  planId : String
  steps : List ExecutionStep := []
  estimatedTotalDurationSeconds : ℤ := 0
  riskAssessment : String := "low"
  reasoning : String := ""
  deriving DecidableEq, Repr

def ExecutionPlan.stepCount (p : ExecutionPlan) : ℕ := p.steps.length

def ExecutionPlan.getStep (p : ExecutionPlan) (stepId : String) : Option ExecutionStep :=
  p.steps.find? (·.stepId = stepId)

/-- `StepResult`, without `resource_ids` and `duration_seconds`, which nothing sets. -/
structure StepResult where
  stepId : String
  success : Bool
  output : String := ""
  errorMessage : String := ""
  idempotencyKey : String := ""
  attemptNumber : ℤ := 1
  deriving DecidableEq, Repr

/-- The domain events the aggregate emits, with their payloads. -/
inductive DeploymentEvent
  | planGenerated (deploymentId planId : String) (stepCount : ℕ)
  | approved (deploymentId approvedBy : String)
  | started (deploymentId : String)
  | completed (deploymentId : String)
  | failed (deploymentId errorMessage : String)
  | rollbackStarted (deploymentId : String)
  | rollbackCompleted (deploymentId : String)
  deriving DecidableEq, Repr

def DeploymentEvent.eventType : DeploymentEvent → String
  | .planGenerated .. => "deployment.plan_generated"
  | .approved .. => "deployment.approved"
  | .started .. => "deployment.started"
  | .completed .. => "deployment.completed"
  | .failed .. => "deployment.failed"
  | .rollbackStarted .. => "deployment.rollback_started"
  | .rollbackCompleted .. => "deployment.rollback_completed"

/-! ### The state machine -/

inductive DeploymentStatus
  | pending | planning | planned | awaitingApproval | approved | executing | verifying
  | completed | failed | rollingBack | rolledBack | cancelled
  deriving DecidableEq, Repr, Fintype

/-- `VALID_TRANSITIONS`. -/
def validTransitions : DeploymentStatus → List DeploymentStatus
  | .pending => [.planning, .cancelled]
  | .planning => [.planned, .failed]
  | .planned => [.awaitingApproval, .approved, .executing, .cancelled]
  | .awaitingApproval => [.approved, .cancelled]
  | .approved => [.executing, .cancelled]
  | .executing => [.verifying, .failed, .rollingBack]
  | .verifying => [.completed, .failed, .rollingBack]
  | .completed => []
  | .failed => [.rollingBack, .pending]
  | .rollingBack => [.rolledBack, .failed]
  | .rolledBack => [.pending]
  | .cancelled => []

/-- `InvalidStateTransitionError`, with the two statuses its message names. -/
structure InvalidStateTransitionError where
  src : DeploymentStatus
  dst : DeploymentStatus
  deriving DecidableEq, Repr

/-- The `Deployment` aggregate root, without `rollback_deployment_id` (never set) and the
timestamps. -/
structure Deployment where
  id : String
  name : String
  intent : DeploymentIntent
  status : DeploymentStatus := .pending
  plan : Option ExecutionPlan := none
  stepResults : List StepResult := []
  initiatedBy : String := ""
  tenantId : String := ""
  errorMessage : String := ""
  version : ℤ := 1
  domainEvents : List DeploymentEvent := []
  deriving DecidableEq, Repr

abbrev DeploymentM := EStateM InvalidStateTransitionError Deployment

namespace Deployment

/-- `touch()`: the version moves on. -/
def touch (d : Deployment) : Deployment := { d with version := d.version + 1 }

/-- `add_event(event)`. -/
def addEvent (event : DeploymentEvent) : DeploymentM Unit :=
  modify fun d => { d with domainEvents := d.domainEvents ++ [event] }

/-- `_transition_to(new_status)`: the one check of the aggregate. -/
def transitionTo (newStatus : DeploymentStatus) : DeploymentM Unit := fun d =>
  if newStatus ∈ validTransitions d.status then .ok () { d with status := newStatus }.touch
  else .error ⟨d.status, newStatus⟩ d

def startPlanning : DeploymentM Unit := transitionTo .planning

def approve (approvedBy : String) : DeploymentM Unit := do
  transitionTo .approved
  addEvent (.approved (← get).id approvedBy)

def setPlan (plan : ExecutionPlan) : DeploymentM Unit := do
  modify fun d => { d with plan := some plan }
  transitionTo .planned
  addEvent (.planGenerated (← get).id plan.planId plan.stepCount)
  if (← get).intent.autoApprove then approve "auto" else transitionTo .awaitingApproval

def startExecution : DeploymentM Unit := do
  transitionTo .executing
  addEvent (.started (← get).id)

def fail (errorMessage : String) : DeploymentM Unit := do
  modify fun d => { d with errorMessage := errorMessage }
  transitionTo .failed
  addEvent (.failed (← get).id errorMessage)

def recordStepResult (result : StepResult) : DeploymentM Unit := do
  modify fun d => { d with stepResults := d.stepResults ++ [result] }.touch
  if !result.success && (← get).intent.rollbackOnFailure then
    fail ("Step " ++ result.stepId ++ " failed: " ++ result.errorMessage)

def startVerification : DeploymentM Unit := transitionTo .verifying

def complete : DeploymentM Unit := do
  transitionTo .completed
  addEvent (.completed (← get).id)

def startRollback : DeploymentM Unit := do
  transitionTo .rollingBack
  addEvent (.rollbackStarted (← get).id)

def completeRollback : DeploymentM Unit := do
  transitionTo .rolledBack
  addEvent (.rollbackCompleted (← get).id)

def cancel : DeploymentM Unit := transitionTo .cancelled

/-- `is_terminal`. -/
def isTerminal (d : Deployment) : Bool := d.status ∈ [.completed, .cancelled, .rolledBack]

/-- `collect_events()`: the pending events, and the buffer cleared. -/
def collectEvents (d : Deployment) : List DeploymentEvent × Deployment :=
  (d.domainEvents, { d with domainEvents := [] })

end Deployment

/-- The public methods of the aggregate, as calls. -/
inductive DeploymentCall
  | startPlanning
  | setPlan (plan : ExecutionPlan)
  | approve (approvedBy : String)
  | startExecution
  | recordStepResult (result : StepResult)
  | startVerification
  | complete
  | fail (errorMessage : String)
  | startRollback
  | completeRollback
  | cancel
  deriving DecidableEq, Repr

def DeploymentCall.run : DeploymentCall → DeploymentM Unit
  | .startPlanning => Deployment.startPlanning
  | .setPlan p => Deployment.setPlan p
  | .approve a => Deployment.approve a
  | .startExecution => Deployment.startExecution
  | .recordStepResult r => Deployment.recordStepResult r
  | .startVerification => Deployment.startVerification
  | .complete => Deployment.complete
  | .fail m => Deployment.fail m
  | .startRollback => Deployment.startRollback
  | .completeRollback => Deployment.completeRollback
  | .cancel => Deployment.cancel

/-! ### What each method does -/

namespace Deployment

theorem transitionTo_apply (s : DeploymentStatus) (d : Deployment) :
    transitionTo s d = if s ∈ validTransitions d.status then .ok () { d with status := s }.touch
      else .error ⟨d.status, s⟩ d := rfl

theorem transitionTo_bind {α : Type} (s : DeploymentStatus) (f : Unit → DeploymentM α)
    (d : Deployment) :
    (transitionTo s >>= f) d = if s ∈ validTransitions d.status then f () { d with status := s }.touch
      else .error ⟨d.status, s⟩ d := by
  change EStateM.bind (transitionTo s) f d = _
  simp only [EStateM.bind, transitionTo_apply]
  split_ifs <;> rfl

theorem addEvent_bind {α : Type} (e : DeploymentEvent) (f : Unit → DeploymentM α) (d : Deployment) :
    (addEvent e >>= f) d = f () { d with domainEvents := d.domainEvents ++ [e] } := rfl

/-- The shape of `approve`, `start_execution`, `complete`, `start_rollback` and
`complete_rollback`: a transition, then an event naming the deployment. -/
theorem transitionTo_addEvent (s : DeploymentStatus) (ev : String → DeploymentEvent) (d : Deployment) :
    (do transitionTo s; addEvent (ev (← get).id) : DeploymentM Unit) d =
      if s ∈ validTransitions d.status then
        .ok () { d with status := s, version := d.version + 1,
                        domainEvents := d.domainEvents ++ [ev d.id] }
      else .error ⟨d.status, s⟩ d := by
  rw [transitionTo_bind]; rfl

theorem approve_apply (a : String) (d : Deployment) :
    approve a d = if .approved ∈ validTransitions d.status then
      .ok () { d with status := .approved, version := d.version + 1,
                      domainEvents := d.domainEvents ++ [.approved d.id a] }
      else .error ⟨d.status, .approved⟩ d :=
  transitionTo_addEvent .approved (.approved · a) d

theorem fail_apply (m : String) (d : Deployment) :
    fail m d = if .failed ∈ validTransitions d.status then
      .ok () { d with errorMessage := m, status := .failed, version := d.version + 1,
                      domainEvents := d.domainEvents ++ [.failed d.id m] }
      else .error ⟨d.status, .failed⟩ { d with errorMessage := m } :=
  transitionTo_addEvent .failed (.failed · m) { d with errorMessage := m }

/-- `set_plan` raises only from a status other than PLANNING, with the plan written; from
PLANNING both of its later transitions are valid. -/
theorem setPlan_apply (p : ExecutionPlan) (d : Deployment) :
    setPlan p d = if d.status = .planning then
      .ok () { d with plan := some p, version := d.version + 1 + 1,
                      status := if d.intent.autoApprove then .approved else .awaitingApproval,
                      domainEvents := d.domainEvents ++ [.planGenerated d.id p.planId p.stepCount] ++
                        if d.intent.autoApprove then [.approved d.id "auto"] else [] }
      else .error ⟨d.status, .planned⟩ { d with plan := some p } := by
  change (transitionTo .planned >>= _) { d with plan := some p } = _
  rw [transitionTo_bind]
  by_cases h : d.status = .planning
  · have hv : DeploymentStatus.planned ∈ validTransitions d.status := by simp [h, validTransitions]
    rw [if_pos hv, if_pos h]
    cases ha : d.intent.autoApprove <;>
      simp [get_bind_apply, addEvent_bind, touch, ha, approve_apply, transitionTo_apply, validTransitions]
  · have hv : DeploymentStatus.planned ∉ validTransitions d.status := by
      cases hs : d.status <;> simp_all [validTransitions]
    rw [if_neg hv, if_neg h]

theorem startExecution_apply (d : Deployment) :
    startExecution d = if .executing ∈ validTransitions d.status then
      .ok () { d with status := .executing, version := d.version + 1,
                      domainEvents := d.domainEvents ++ [.started d.id] }
      else .error ⟨d.status, .executing⟩ d :=
  transitionTo_addEvent .executing .started d

theorem complete_apply (d : Deployment) :
    complete d = if .completed ∈ validTransitions d.status then
      .ok () { d with status := .completed, version := d.version + 1,
                      domainEvents := d.domainEvents ++ [.completed d.id] }
      else .error ⟨d.status, .completed⟩ d :=
  transitionTo_addEvent .completed .completed d

theorem startRollback_apply (d : Deployment) :
    startRollback d = if .rollingBack ∈ validTransitions d.status then
      .ok () { d with status := .rollingBack, version := d.version + 1,
                      domainEvents := d.domainEvents ++ [.rollbackStarted d.id] }
      else .error ⟨d.status, .rollingBack⟩ d :=
  transitionTo_addEvent .rollingBack .rollbackStarted d

theorem completeRollback_apply (d : Deployment) :
    completeRollback d = if .rolledBack ∈ validTransitions d.status then
      .ok () { d with status := .rolledBack, version := d.version + 1,
                      domainEvents := d.domainEvents ++ [.rollbackCompleted d.id] }
      else .error ⟨d.status, .rolledBack⟩ d :=
  transitionTo_addEvent .rolledBack .rollbackCompleted d

theorem recordStepResult_apply (r : StepResult) (d : Deployment) :
    recordStepResult r d =
      if !r.success && d.intent.rollbackOnFailure then
        fail ("Step " ++ r.stepId ++ " failed: " ++ r.errorMessage)
          { d with stepResults := d.stepResults ++ [r] }.touch
      else .ok () { d with stepResults := d.stepResults ++ [r] }.touch := by
  rw [recordStepResult, modify_bind_apply, get_bind_apply, ite_apply]
  rfl

end Deployment

end Orchestrator
