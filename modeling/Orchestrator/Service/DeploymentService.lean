/-
# The deployment service over the in-memory repositories

`domain/services/deployment_service.py`, `DeploymentDomainService`, run over the
repositories of `in_memory.py` and the `InMemoryEventPublisher`. A service operation is a
`ServiceM`: it reads and writes the two shared stores, appends to the publisher's log, and
draws from `generate_id` and `utc_now`; when it raises, its result keeps the state as the
operation left it.

The in-memory `get_by_id` returns the stored object itself. So a method the service calls on
a deployment or a task it read changes the store at once, whether the method returns or
raises: `onDeployment` and `onTask` write what the method leaves back under its id, and a
later `update` writes the same object again. A new task is a local object until `save`.

The planning engine is a parameter (`PlanningEngine`): it takes the intent and the id
counter and returns a plan and the counter after its draws, or raises. The lock service is
outside the stores: `plan_deployment` takes what `acquire` answered, and its `release`
changes nothing here.

Key definitions: `State`, `onDeployment`, `DeploymentDomainService.planDeployment`,
`DeploymentDomainService.executeDeployment`, `DeploymentDomainService.handleTaskCompletion`,
`ServiceCall`.
-/
import Orchestrator.Planner.RuleBased
import Orchestrator.Domain.Task

namespace Orchestrator

/-- What the `InMemoryEventPublisher` records: an event type with its payload. -/
inductive Publication
  | deploymentCreated (deploymentId tenantId : String)
  | domainEvent (event : DeploymentEvent)
  | taskStatus (taskId deploymentId workerId : String) (status : TaskStatus)
  deriving DecidableEq, Repr

/-- The `event_type` the publisher is given. -/
def Publication.eventType : Publication → String
  | .deploymentCreated .. => "deployment.created"
  | .domainEvent e => e.eventType
  | .taskStatus _ _ _ status => "task." ++ status.value

/-- The shared stores, the publisher's log, and the calls made so far to `generate_id` and
`utc_now`. -/
structure State where
  deployments : Store Deployment Deployment.id
  tasks : Store Task Task.id
  published : List Publication
  nextId : ℕ
  clock : ℕ

/-- A fresh process: empty stores. -/
def State.empty : State := ⟨.empty, .empty, [], 0, 0⟩

/-- What a service operation raises. -/
inductive ServiceError
  /-- `intent.target_providers[0]` on an empty list. -/
  | indexError
  | lockError (message : String)
  | notFound (message : String)
  | planMissing (message : String)
  | invalidTransition (error : InvalidStateTransitionError)
  | taskError (error : TaskError)
  /-- Whatever the planning engine raises. -/
  | planningFailed (message : String)
  deriving DecidableEq, Repr

abbrev ServiceM := EStateM ServiceError State

/-- `PlanningEngine.generate_plan`, with the id counter it draws from. -/
structure PlanningEngine where
  generatePlan : DeploymentIntent → ℕ → Except String (ExecutionPlan × ℕ)

/-- `RuleBasedPlanningEngine`, which never raises. -/
def PlanningEngine.ruleBased (generateId : ℕ → String) : PlanningEngine :=
  ⟨fun intent n => .ok (RuleBasedPlanningEngine.generatePlan generateId n intent)⟩

/-! ### Repositories, publisher and clock -/

namespace ServiceM

def getDeployment (deploymentId : String) : ServiceM (Option Deployment) := fun s =>
  .ok (s.deployments.getById deploymentId) s

/-- `save` and `update` of the deployment repository: `self._store[deployment.id] = deployment`. -/
def saveDeployment (d : Deployment) : ServiceM Unit := fun s =>
  .ok () { s with deployments := s.deployments.put d }

def getTask (taskId : String) : ServiceM (Option Task) := fun s => .ok (s.tasks.getById taskId) s

/-- `save` and `update` of the task repository. -/
def saveTask (t : Task) : ServiceM Unit := fun s => .ok () { s with tasks := s.tasks.put t }

/-- `list_by_deployment`. -/
def listByDeployment (deploymentId : String) : ServiceM (List Task) := fun s =>
  .ok (s.tasks.items.filter (·.deploymentId = deploymentId)) s

def publish (p : Publication) : ServiceM Unit := fun s =>
  .ok () { s with published := s.published ++ [p] }

/-- `generate_id()`. -/
def newId (env : Env) : ServiceM String := fun s =>
  .ok (env.generateId s.nextId) { s with nextId := s.nextId + 1 }

/-- `utc_now()`. -/
def now (env : Env) : ServiceM ℕ := fun s => .ok (env.utcNow s.clock) { s with clock := s.clock + 1 }

/-- A method called on a deployment read from the store: what it leaves is stored at once,
returned or raised. -/
def onDeployment (d : Deployment) (m : DeploymentM Unit) : ServiceM Deployment := fun s =>
  match m d with
  | .ok () d' => .ok d' { s with deployments := s.deployments.put d' }
  | .error e d' => .error (.invalidTransition e) { s with deployments := s.deployments.put d' }

/-- A method called on a task read from the store. -/
def onTask (t : Task) (m : TaskM Unit) : ServiceM Task := fun s =>
  match m t with
  | .ok () t' => .ok t' { s with tasks := s.tasks.put t' }
  | .error e t' => .error (.taskError e) { s with tasks := s.tasks.put t' }

/-- A method called on a local task, not yet stored. -/
def onLocalTask (t : Task) (m : TaskM Unit) : ServiceM Task := fun s =>
  match m t with
  | .ok () t' => .ok t' s
  | .error e _ => .error (.taskError e) s

/-- `_publish_events(deployment)`: `collect_events()` clears the stored object's buffer,
then each event is published. -/
def publishEvents (d : Deployment) : ServiceM Deployment := fun s =>
  .ok d.collectEvents.2 { s with deployments := s.deployments.put d.collectEvents.2,
                                 published := s.published ++ d.collectEvents.1.map .domainEvent }

/-- `generate_plan(intent)` of the engine, drawing its ids. -/
def generatePlan (engine : PlanningEngine) (intent : DeploymentIntent) :
    ServiceM ExecutionPlan := fun s =>
  match engine.generatePlan intent s.nextId with
  | .ok (p, n) => .ok p { s with nextId := n }
  | .error m => .error (.planningFailed m) s

end ServiceM

/-- `InMemoryTaskRepository.acquire_next(worker_id)`: the first QUEUED task by `created_at`
(`sorted` is stable, as `insertionSort` is), acquired and stored. No suspension point lies
between the scan and the write. -/
def acquireNext (workerId : String) : ServiceM (Option Task) := fun s =>
  match (s.tasks.items.insertionSort fun a b => a.createdAt ≤ b.createdAt).find?
      (·.status = .queued) with
  | none => .ok none s
  | some t => match Task.acquire workerId t with
    | .ok () t' => .ok (some t') { s with tasks := s.tasks.put t' }
    | .error e t' => .error (.taskError e) { s with tasks := s.tasks.put t' }

/-- The `str(output)` of a `dict` of strings. -/
def reprOutput (output : List (String × String)) : String :=
  "\x7b" ++ ", ".intercalate (output.map fun kv => "\x27" ++ kv.1 ++ "\x27: \x27" ++ kv.2 ++ "\x27") ++
    "\x7d"

/-- The service with its ports: the values read from outside and the planning engine. -/
structure DeploymentDomainService where
  env : Env
  planningEngine : PlanningEngine

namespace DeploymentDomainService

open ServiceM

variable (svc : DeploymentDomainService)

def createDeployment (intent : DeploymentIntent) (initiatedBy tenantId : String) :
    ServiceM Deployment := do
  let some provider := intent.targetProviders.head? | throw .indexError
  let id ← newId svc.env
  let d : Deployment :=
    { id := id, name := "deploy-" ++ intent.environment ++ "-" ++ provider.value,
      intent := intent, initiatedBy := initiatedBy, tenantId := tenantId }
  saveDeployment d
  publish (.deploymentCreated d.id tenantId)
  pure d

/-- `plan_deployment(deployment_id)`, given what the lock's `acquire` answered. -/
def planDeployment (acquired : Bool) (deploymentId : String) : ServiceM Deployment := do
  if !acquired then
    throw (.lockError ("Could not acquire planning lock for deployment " ++ deploymentId))
  let some d ← getDeployment deploymentId
    | throw (.notFound ("Deployment " ++ deploymentId ++ " not found"))
  let d ← onDeployment d Deployment.startPlanning
  let plan ← generatePlan svc.planningEngine d.intent
  let d ← onDeployment d (Deployment.setPlan plan)
  saveDeployment d
  publishEvents d

/-- The `Task(...)` that `execute_deployment` builds for a step, with the id and creation
time it draws. -/
def newTask (id : String) (createdAt : ℕ) (deploymentId : String) (step : ExecutionStep) :
    Task where
  id := id
  deploymentId := deploymentId
  stepId := step.stepId
  name := step.name
  description := step.description
  provider := step.provider
  terraformAction := step.terraformAction
  idempotencyKey := step.idempotencyKey
  timeoutSeconds := step.estimatedDurationSeconds * 2
  inputData := some ⟨step.resourceSpec, step.dependencies⟩
  createdAt := createdAt

/-- One iteration of `execute_deployment`'s loop: build the task, enqueue it, save it. -/
def createTask (deploymentId : String) (step : ExecutionStep) : ServiceM Task := do
  let id ← newId svc.env
  let createdAt ← now svc.env
  let task ← onLocalTask (newTask id createdAt deploymentId step) Task.enqueue
  saveTask task
  pure task

/-- The loop `for step in plan.steps` of `execute_deployment`. -/
def createTasks (deploymentId : String) : List ExecutionStep → ServiceM (List Task)
  | [] => pure []
  | step :: steps => do
    let t ← svc.createTask deploymentId step
    let ts ← createTasks deploymentId steps
    pure (t :: ts)

def executeDeployment (deploymentId : String) : ServiceM (List Task) := do
  let some d ← getDeployment deploymentId
    | throw (.notFound ("Deployment " ++ deploymentId ++ " not found"))
  let some plan := d.plan
    | throw (.planMissing ("Deployment " ++ deploymentId ++ " has no execution plan"))
  let d ← onDeployment d Deployment.startExecution
  saveDeployment d
  let tasks ← svc.createTasks deploymentId plan.steps
  let _ ← publishEvents d
  pure tasks

/-- The `StepResult` that `handle_task_completion` records for a completed task. -/
def stepResult (t : Task) (success : Bool) (output : List (String × String)) (error : String) :
    StepResult where
  stepId := t.stepId
  success := success
  output := if output ≠ [] then reprOutput output else ""
  errorMessage := error
  idempotencyKey := t.idempotencyKey
  attemptNumber := t.attemptNumber

/-- The status change `handle_task_completion` makes once every task is read back. -/
def afterCompletion (d : Deployment) (allTasks : List Task) : ServiceM Deployment :=
  let allComplete := allTasks.all fun t => t.isTerminal || t.status = .succeeded
  let anyFailed := allTasks.any fun t => t.status = .failed
  if allComplete && !anyFailed then onDeployment d Deployment.startVerification
  else if anyFailed && d.intent.rollbackOnFailure then onDeployment d Deployment.startRollback
  else pure d

/-- `handle_task_completion(task_id, success, output, error)`; an absent output is `[]`. -/
def handleTaskCompletion (taskId : String) (success : Bool) (output : List (String × String))
    (error : String) : ServiceM Unit := do
  let some t ← getTask taskId | pure ()
  let time ← now svc.env
  let t ← onTask t (if success then Task.succeed output time else Task.fail error time)
  saveTask t
  let some d ← getDeployment t.deploymentId | pure ()
  let d ← onDeployment d (Deployment.recordStepResult (stepResult t success output error))
  let allTasks ← listByDeployment t.deploymentId
  let d ← afterCompletion d allTasks
  saveDeployment d
  let _ ← publishEvents d

def approveDeployment (deploymentId approvedBy : String) : ServiceM Deployment := do
  let some d ← getDeployment deploymentId
    | throw (.notFound ("Deployment " ++ deploymentId ++ " not found"))
  let d ← onDeployment d (Deployment.approve approvedBy)
  saveDeployment d
  publishEvents d

def rollbackDeployment (deploymentId : String) : ServiceM Deployment := do
  let some d ← getDeployment deploymentId
    | throw (.notFound ("Deployment " ++ deploymentId ++ " not found"))
  let d ← onDeployment d Deployment.startRollback
  saveDeployment d
  publishEvents d

end DeploymentDomainService

/-- The operations of the service, as calls. -/
inductive ServiceCall
  | createDeployment (intent : DeploymentIntent) (initiatedBy tenantId : String)
  | planDeployment (acquired : Bool) (deploymentId : String)
  | executeDeployment (deploymentId : String)
  | handleTaskCompletion (taskId : String) (success : Bool) (output : List (String × String))
      (error : String)
  | approveDeployment (deploymentId approvedBy : String)
  | rollbackDeployment (deploymentId : String)
  deriving DecidableEq, Repr

def ServiceCall.run (svc : DeploymentDomainService) : ServiceCall → ServiceM Unit
  | .createDeployment i u t => do let _ ← svc.createDeployment i u t
  | .planDeployment a d => do let _ ← svc.planDeployment a d
  | .executeDeployment d => do let _ ← svc.executeDeployment d
  | .handleTaskCompletion t s o e => svc.handleTaskCompletion t s o e
  | .approveDeployment d a => do let _ ← DeploymentDomainService.approveDeployment d a
  | .rollbackDeployment d => do let _ ← DeploymentDomainService.rollbackDeployment d

end Orchestrator
