/-
# The Terraform worker and the simulated executor

`TerraformWorkerAgent.execute` (`workers/terraform_worker.py`) runs a task's Terraform
through the `SimulatedTerraformExecutor` (`infrastructure/terraform/executor.py`). It reads
the task's `resource_spec`, works in `<base>/<deployment_id>/<step_id>`, and runs `init`,
`plan` and then, for a `create` or `update` action, `apply` (for `destroy`, `destroy`; for any
other action, neither), each through `_run_phase`, which raises
`TerraformExecutionError("<Phase> failed: <output>")` when the phase fails. The executor's
only state is `_state`, a dict from `sim-<basename of the working dir>` to what `apply`
recorded there; `show_state` returns all of it.

What the code gives:
* running a task again leaves the executor, and the result, as the first run left them
  (`TerraformWorkerAgent.execute_idempotent`), so a retried task is safe;
* `generate_config` writes each property value between quotes and escapes nothing, so a value
  holding a quote and a line break adds an attribute of its own choosing to the resource
  (`SimulatedTerraformExecutor.generateConfig_injects_attribute`);
* every plan the rule-based engine makes, and so every task the service ever stores, has the
  action `create`, and no operation changes a task's action; so executing any task of any
  run of the service removes no simulated resource, and `rollback_deployment` destroys
  nothing (`ServiceCall.rollback_destroys_nothing`).

Files are not modelled: `generate_config` writes `main.tf` and `init` creates the directory,
and nothing reads them back, so `execute` is modelled without its `generate_config` call.
`ResourceSpec.properties` is a `dict[str, Any]` in the source; the model narrows its values
to text, so `generate_config`'s `json.dumps` branch for other values is not modelled. `asyncio.sleep` and logging are left out.

Key definitions: `SimulatedTerraformExecutor.generateConfig`, `TerraformWorkerAgent.execute`,
`CreateOnly`.
Key theorems: `TerraformWorkerAgent.execute_eq`, `TerraformWorkerAgent.execute_idempotent`,
`SimulatedTerraformExecutor.generateConfig_injects_attribute`,
`ServiceCall.rollback_destroys_nothing`.
-/
import Orchestrator.Workers.WorkerAgent
import Orchestrator.Planner.PlanShape
import Orchestrator.Service.Execution

namespace Orchestrator

/-! ### Paths -/

/-- `os.path.join(a, *p)` of `posixpath`: a part that starts with `/` restarts the path, and a
`/` is put between parts unless the path is empty or already ends with one. -/
def osPathJoin (a : String) (p : List String) : String :=
  p.foldl (fun path b =>
    if b.data.head? = some '/' then b
    else if path.isEmpty || path.data.getLast? = some '/' then path ++ b
    else path ++ "/" ++ b) a

/-- `os.path.basename(p)`: what follows the last `/`. -/
def osPathBasename (p : String) : String :=
  ⟨(p.data.reverse.takeWhile (· ≠ '/')).reverse⟩

/-! ### The executor -/

/-- A provider's entry in `PROVIDER_CONFIGS`. -/
structure ProviderConfig where
  source : String
  version : String
  deriving DecidableEq, Repr

/-- `PROVIDER_CONFIGS.get(provider)`. -/
def providerConfigs : CloudProviderType → Option ProviderConfig
  | .aws => some ⟨"hashicorp/aws", "~> 5.0"⟩
  | .azure => some ⟨"hashicorp/azurerm", "~> 3.0"⟩
  | .gcp => some ⟨"hashicorp/google", "~> 5.0"⟩

/-- `RESOURCE_TERRAFORM_MAP.get((provider, resource_type))`. -/
def resourceTerraformMap : CloudProviderType → ResourceType → Option String
  | .aws, .compute => some "aws_instance"
  | .aws, .storage => some "aws_s3_bucket"
  | .aws, .database => some "aws_db_instance"
  | .aws, .network => some "aws_vpc"
  | .aws, .container => some "aws_ecs_cluster"
  | .aws, .serverless => some "aws_lambda_function"
  | .aws, .loadBalancer => some "aws_lb"
  | .aws, .cache => some "aws_elasticache_cluster"
  | .azure, .compute => some "azurerm_virtual_machine"
  | .azure, .storage => some "azurerm_storage_account"
  | .azure, .database => some "azurerm_postgresql_server"
  | .azure, .network => some "azurerm_virtual_network"
  | .azure, .container => some "azurerm_kubernetes_cluster"
  | .gcp, .compute => some "google_compute_instance"
  | .gcp, .storage => some "google_storage_bucket"
  | .gcp, .database => some "google_sql_database_instance"
  | .gcp, .network => some "google_compute_network"
  | .gcp, .container => some "google_container_cluster"
  | _, _ => none

/-- What `apply` records in `_state` (its `status` is always `created`). -/
structure SimResource where
  resourceId : String
  workingDir : String
  deriving DecidableEq, Repr

/-- `SimulatedTerraformExecutor._state`. -/
abbrev ExecutorState := Store SimResource SimResource.resourceId

/-- What `TerraformWorkerAgent.execute` raises: pydantic's `ValidationError` when the task has
no `resource_spec`, or `TerraformExecutionError` with its message. -/
inductive TerraformError
  | validationError
  | terraformExecutionError (message : String)
  deriving DecidableEq, Repr

abbrev ExecutorM := EStateM TerraformError ExecutorState

namespace SimulatedTerraformExecutor

/-- The key `apply` and `destroy` use: `f"sim-{os.path.basename(working_dir)}"`. -/
def resourceId (workingDir : String) : String := "sim-" ++ osPathBasename workingDir

def init (_workingDir : String) (provider : CloudProviderType) : ExecutorM (Bool × String) :=
  pure <| match providerConfigs provider with
    | none => (false, "Unsupported provider: " ++ provider.value)
    | some _ => (true, "Terraform initialized for " ++ provider.value)

def plan (_workingDir : String) : ExecutorM (Bool × String) :=
  pure (true, "Plan: 1 to add, 0 to change, 0 to destroy.")

def apply (workingDir : String) : ExecutorM (Bool × String) := fun st =>
  .ok (true, "Apply complete! Resources: 1 added, 0 changed, 0 destroyed.")
    (st.put ⟨resourceId workingDir, workingDir⟩)

def destroy (workingDir : String) : ExecutorM (Bool × String) := fun st =>
  .ok (true, "Destroy complete! Resources: 1 destroyed.") (st.pop (resourceId workingDir))

/-- `show_state`: a copy of all of `_state`. -/
def showState : ExecutorM (List SimResource) := fun st => .ok st.items st

/-- An attribute line of the configuration: `f'{indent}{key} = "{value}"\n'`. -/
def attributeLine (indent key value : String) : String :=
  indent ++ key ++ " = \"" ++ value ++ "\"\n"

/-- `generate_config(resource_spec, working_dir)`: the HCL text it writes to `main.tf`. -/
def generateConfig (spec : ResourceSpec) : String :=
  let tfResource := (resourceTerraformMap spec.provider spec.resourceType).getD
    (spec.provider.value ++ "_" ++ spec.resourceType.value)
  let source := ((providerConfigs spec.provider).map (·.source)).getD
    ("hashicorp/" ++ spec.provider.value)
  let version := ((providerConfigs spec.provider).map (·.version)).getD "~> 1.0"
  let hcl := "terraform \x7b\n  required_providers \x7b\n    " ++ spec.provider.value ++
    " = \x7b\n      source  = \"" ++ source ++ "\"\n      version = \"" ++ version ++
    "\"\n    \x7d\n  \x7d\n\x7d\n\nresource \"" ++ tfResource ++ "\" \"" ++ spec.name ++
    "\" \x7b\n  \x23 Region: " ++ spec.region ++ "\n"
  let hcl := spec.properties.foldl (fun hcl kv => hcl ++ attributeLine "  " kv.1 kv.2) hcl
  let hcl := if spec.tags = [] then hcl else
    spec.tags.foldl (fun hcl kv => hcl ++ attributeLine "    " kv.1 kv.2)
      (hcl ++ "\n  tags = \x7b\n") ++ "  \x7d\n"
  hcl ++ "\x7d\n"

/-- A value that closes its quote, breaks the line and opens `key' = "` is two attributes. -/
theorem attributeLine_split (k v k' v' : String) :
    attributeLine "  " k (v ++ "\"\n  " ++ k' ++ " = \"" ++ v') =
      attributeLine "  " k v ++ attributeLine "  " k' v' := by
  rw [show "\"\n  " = "\"\n" ++ "  " from rfl]
  simp only [attributeLine, String.append_assoc]

/-- **`generate_config` escapes nothing.** A string property value that holds a quote, a line
break and `key = "` closes its own attribute and opens another: the configuration written is
the one of the spec with the two attributes, whatever the spec's other fields, properties and
tags. So a property value set in a deployment request can add any attribute to the resource
Terraform creates, and two different specs give the same `main.tf`. -/
theorem generateConfig_injects_attribute (spec : ResourceSpec) (pre post : List (String × String))
    (k v k' v' : String) :
    generateConfig { spec with properties := pre ++ (k, v ++ "\"\n  " ++ k' ++ " = \"" ++ v') :: post } =
      generateConfig { spec with properties := pre ++ (k, v) :: (k', v') :: post } := by
  simp only [generateConfig, List.foldl_append, List.foldl_cons, attributeLine_split]
  simp only [String.append_assoc]

end SimulatedTerraformExecutor

/-! ### The worker -/

/-- What `execute` returns: `action`, `resource`, `provider`, `state` and `work_dir`. -/
structure TerraformResult where
  action : String
  resource : String
  provider : String
  state : List SimResource
  workDir : String
  deriving DecidableEq, Repr

namespace TerraformWorkerAgent

open SimulatedTerraformExecutor

/-- `_run_phase(name, coro)`: the phase's output, or `TerraformExecutionError` when it failed. -/
def runPhase (name : String) (phase : ExecutorM (Bool × String)) : ExecutorM String := do
  let (success, output) ← phase
  if !success then throw (.terraformExecutionError (name.capitalize ++ " failed: " ++ output))
  pure output

/-- `_apply_action(action, work_dir)`. -/
def applyAction (action workDir : String) : ExecutorM Unit :=
  if action = "create" ∨ action = "update" then do let _ ← runPhase "apply" (apply workDir)
  else if action = "destroy" then do let _ ← runPhase "destroy" (destroy workDir)
  else pure ()

/-- The working directory of a task: `os.path.join(self._work_dir_base, task.deployment_id,
task.step_id)`. -/
def workDir (workDirBase : String) (task : Task) : String :=
  osPathJoin workDirBase [task.deploymentId, task.stepId]

/-- `execute(task)`, for a worker whose `_work_dir_base` is `workDirBase`. A task without a
`resource_spec` (`input_data` of `{}`) fails its validation. -/
def execute (workDirBase : String) (task : Task) : ExecutorM TerraformResult := do
  let some input := task.inputData | throw .validationError
  let resourceSpec := input.resourceSpec
  let workDir := workDir workDirBase task
  let _ ← runPhase "init" (init workDir resourceSpec.provider)
  let _ ← runPhase "plan" (plan workDir)
  applyAction task.terraformAction workDir
  let state ← showState
  pure ⟨task.terraformAction, resourceSpec.name, resourceSpec.provider.value, state, workDir⟩

/-- What `_apply_action` does to `_state`. -/
def actionEffect (action workDir : String) (st : ExecutorState) : ExecutorState :=
  if action = "create" ∨ action = "update" then st.put ⟨resourceId workDir, workDir⟩
  else if action = "destroy" then st.pop (resourceId workDir)
  else st

theorem applyAction_apply (action workDir : String) (st : ExecutorState) :
    applyAction action workDir st = .ok () (actionEffect action workDir st) := by
  unfold applyAction actionEffect
  split_ifs <;> rfl

theorem applyAction_bind {α : Type} (action workDir : String) (f : Unit → ExecutorM α)
    (st : ExecutorState) :
    (applyAction action workDir >>= f) st = f () (actionEffect action workDir st) := by
  change EStateM.bind _ f st = _
  simp only [EStateM.bind, applyAction_apply]

/-- A phase that succeeds hands its output on. -/
theorem runPhase_bind {α : Type} {name output : String} {phase : ExecutorM (Bool × String)}
    {st st' : ExecutorState} (h : phase st = .ok (true, output) st') (f : String → ExecutorM α) :
    (runPhase name phase >>= f) st = f output st' := by
  change EStateM.bind (EStateM.bind phase _) f st = _
  simp only [EStateM.bind, h]
  rfl

theorem init_apply (workDir : String) (provider : CloudProviderType) (st : ExecutorState) :
    init workDir provider st = .ok (true, "Terraform initialized for " ++ provider.value) st := by
  cases provider <;> rfl

/-- **What `execute` does**, said once: every phase succeeds, `_apply_action`'s effect is the
only change to `_state`, and the result reports the state after it. A task without a
`resource_spec` raises with `_state` untouched. -/
theorem execute_eq (workDirBase : String) (task : Task) (st : ExecutorState) :
    execute workDirBase task st = match task.inputData with
      | none => .error .validationError st
      | some input =>
        let st' := actionEffect task.terraformAction (workDir workDirBase task) st
        .ok ⟨task.terraformAction, input.resourceSpec.name, input.resourceSpec.provider.value,
          st'.items, workDir workDirBase task⟩ st' := by
  unfold execute
  rcases task.inputData with _ | input
  · rfl
  · simp only [runPhase_bind (init_apply _ _ st), runPhase_bind (rfl : plan _ st = _),
      applyAction_bind]
    rfl

/-- `_apply_action` twice is `_apply_action` once: `apply` writes the same entry again, and
`destroy` finds nothing left to pop. -/
theorem actionEffect_idempotent (action workDir : String) (st : ExecutorState) :
    actionEffect action workDir (actionEffect action workDir st) = actionEffect action workDir st := by
  unfold actionEffect
  split_ifs <;> simp

/-- **Running a task again changes nothing.** For every task and every state of the executor,
a second `execute` of the task (a retry after a timeout, say) leaves `_state` as the first
left it and returns the same result, or raises the same error. -/
theorem execute_idempotent (workDirBase : String) (task : Task) (st : ExecutorState) :
    execute workDirBase task (execute workDirBase task st).state = execute workDirBase task st := by
  rw [execute_eq workDirBase task st]
  rcases h : task.inputData with _ | input <;> rw [execute_eq, h]
  · rfl
  · simp only [EStateM.Result.state, actionEffect_idempotent]

end TerraformWorkerAgent

/-! ### The actions of the tasks the service stores -/

section Actions

variable (generateId : ℕ → String)

theorem RuleBasedPlanningEngine.terraformAction_defaultSteps (intent : DeploymentIntent) :
    ∀ {n : ℕ} {ps : List CloudProviderType} {s : ExecutionStep},
      s ∈ defaultSteps generateId intent n ps → s.terraformAction = "create"
  | _, [], _, h => absurd h (List.not_mem_nil _)
  | _, _ :: _, _, h => by
    rw [defaultSteps] at h
    rcases List.mem_cons.mp h with rfl | h
    · rfl
    rcases List.mem_cons.mp h with rfl | h
    · rfl
    · exact terraformAction_defaultSteps intent h

/-- **Every step of a rule-based plan creates.** -/
theorem RuleBasedPlanningEngine.terraformAction_generatePlan (n : ℕ) (intent : DeploymentIntent)
    {s : ExecutionStep} (hs : s ∈ (generatePlan generateId n intent).1.steps) :
    s.terraformAction = "create" := by
  rw [steps_generatePlan] at hs
  obtain ⟨s₀, hs₀, rfl⟩ := List.mem_map.mp hs
  show s₀.terraformAction = "create"
  by_cases hr : intent.resources = []
  · rw [initialSteps_of_nil hr] at hs₀
    exact terraformAction_defaultSteps generateId intent hs₀
  · rw [initialSteps_of_ne_nil hr] at hs₀
    exact terraformAction_stepsFromResources hs₀

end Actions

open Task in
/-- No task method changes the task's action, returned or raised. -/
theorem TaskCall.terraformAction_run (c : TaskCall) (t : Task) :
    (c.run t).state.terraformAction = t.terraformAction := by
  cases c <;>
    simp only [run, Task.enqueue, Task.acquire, Task.start, Task.timeout, Task.cancel,
      transitionTo_apply, transitionTo_modify, succeed_apply, fail_apply, retry_apply] <;>
    split_ifs <;> rfl

theorem terraformAction_of_mem_enqueuedTasks {env : Env} {D : String} {u : Task} :
    ∀ {n c : ℕ} {steps : List ExecutionStep}, u ∈ enqueuedTasks env D n c steps →
      ∃ step ∈ steps, u.terraformAction = step.terraformAction
  | _, _, [], h => absurd h (List.not_mem_nil _)
  | _, _, step :: _, h => by
    rcases List.mem_cons.mp h with rfl | h
    · exact ⟨step, List.mem_cons_self _ _, rfl⟩
    · obtain ⟨s, hs, he⟩ := terraformAction_of_mem_enqueuedTasks h
      exact ⟨s, List.mem_cons_of_mem _ hs, he⟩

theorem KeepsTasks.publishEvents : KeepsTasks ServiceM.publishEvents := fun _ _ => rfl

namespace DeploymentDomainService

open ServiceM

variable (svc : DeploymentDomainService)

theorem planDeployment_tasks (acquired : Bool) (k : String) (s : State) :
    (svc.planDeployment acquired k s).state.tasks = s.tasks := by
  simp only [planDeployment]
  cases acquired
  · rfl
  simp only [Bool.not_true, Bool.false_eq_true, if_false, ServiceM.pure_bind, getDeployment_bind]
  rcases s.deployments.getById k with _ | d
  · rfl
  refine KeepsTasks.onDeployment_bind _ (fun d s => ?_) d s
  dsimp only
  rw [ServiceM.generatePlan_bind]
  rcases svc.planningEngine.generatePlan d.intent s.nextId with m | ⟨p, n⟩
  · rfl
  · exact KeepsTasks.onDeployment_bind _ (.saveDeployment_bind .publishEvents) d _

theorem approveDeployment_tasks (k a : String) (s : State) :
    (approveDeployment k a s).state.tasks = s.tasks := by
  simp only [approveDeployment, getDeployment_bind]
  rcases s.deployments.getById k with _ | d
  · rfl
  · exact KeepsTasks.onDeployment_bind _ (.saveDeployment_bind .publishEvents) d s

theorem rollbackDeployment_tasks (k : String) (s : State) :
    (rollbackDeployment k s).state.tasks = s.tasks := by
  simp only [rollbackDeployment, getDeployment_bind]
  rcases s.deployments.getById k with _ | d
  · rfl
  · exact KeepsTasks.onDeployment_bind _ (.saveDeployment_bind .publishEvents) d s

end DeploymentDomainService

/-- **Every plan and every task stored creates.** -/
structure CreateOnly (s : State) : Prop where
  plans : ∀ d ∈ s.deployments.items, ∀ p ∈ d.plan, ∀ step ∈ p.steps,
    step.terraformAction = "create"
  tasks : ∀ t ∈ s.tasks.items, t.terraformAction = "create"

namespace CreateOnly

variable {s s' : State}

theorem empty : CreateOnly State.empty := ⟨fun _ h => (nomatch h), fun _ h => (nomatch h)⟩

theorem plans_getById (h : CreateOnly s) {k : String} {d : Deployment}
    (hd : s.deployments.getById k = some d) : ∀ p ∈ d.plan, ∀ step ∈ p.steps,
      step.terraformAction = "create" :=
  h.plans d ((Store.getById_eq_some_iff _ _ _).mp hd).1

/-- The plans of deployments that followed on from stored ones. -/
theorem plans_follow (h : CreateOnly s) (hD : DeploymentsFollow s.deployments s'.deployments) :
    ∀ d ∈ s'.deployments.items, ∀ p ∈ d.plan, ∀ step ∈ p.steps,
      step.terraformAction = "create" := fun d' hd' => by
  obtain ⟨d, hd, hf⟩ := hD.back _ d' ((Store.getById_eq_some_iff _ _ _).mpr ⟨hd', rfl⟩)
  rw [hf.plan_eq]
  exact h.plans_getById hd

/-- Storing what a task method made of a stored task. -/
theorem tasks_put (h : CreateOnly s) {k : String} {t : Task} (ht : s.tasks.getById k = some t)
    (c : TaskCall) : ∀ u ∈ (s.tasks.put (c.run t).state).items, u.terraformAction = "create" :=
  fun u hu => by
  rcases (Store.mem_put _ _ _).mp hu with rfl | ⟨hu, -⟩
  · rw [TaskCall.terraformAction_run]
    exact h.tasks t ((Store.getById_eq_some_iff _ _ _).mp ht).1
  · exact h.tasks u hu

end CreateOnly

namespace ServiceCall

variable (svc : DeploymentDomainService)

/-- **What one call does to the task store**: nothing, or it stores what a task method made of
a stored task, or (a returning `execute_deployment`) it stores the enqueued tasks of a stored
deployment's plan. -/
theorem tasks_run (c : ServiceCall) (s : State) :
    (c.run svc s).state.tasks = s.tasks ∨
    (∃ k t tc, s.tasks.getById k = some t ∧
      (c.run svc s).state.tasks = s.tasks.put (TaskCall.run tc t).state) ∨
    (∃ k d p, s.deployments.getById k = some d ∧ d.plan = some p ∧
      (c.run svc s).state.tasks =
        (enqueuedTasks svc.env k s.nextId s.clock p.steps).foldl Store.put s.tasks) := by
  cases c with
  | createDeployment i u t =>
    simp only [run, state_discard]
    rcases svc.createDeployment_cases i u t s with h | ⟨-, -, -, -, h, -⟩
    · exact .inl (by rw [h])
    · exact .inl h
  | planDeployment a k =>
    simp only [run, state_discard]
    exact .inl (svc.planDeployment_tasks a k s)
  | executeDeployment k =>
    simp only [run, state_discard]
    rcases hr : svc.executeDeployment k s with ⟨ts, s'⟩ | ⟨e, s'⟩
    · obtain ⟨d, p, hd, hp, -, -, -, htasks, -⟩ := svc.executeDeployment_ok hr
      exact .inr (.inr ⟨k, d, p, hd, hp, htasks⟩)
    · exact .inl (by rw [svc.executeDeployment_error hr]; rfl)
  | handleTaskCompletion k success o err =>
    rcases svc.handleTaskCompletion_tasks k success o err s with h | ⟨t, ht, h⟩
    · exact .inl h
    · exact .inr (.inl ⟨k, t, _, ht, h⟩)
  | approveDeployment k a =>
    simp only [run, state_discard]
    exact .inl (DeploymentDomainService.approveDeployment_tasks k a s)
  | rollbackDeployment k =>
    simp only [run, state_discard]
    exact .inl (DeploymentDomainService.rollbackDeployment_tasks k s)

/-- **One call of the service with the rule-based planner keeps every stored plan and task a
`create` one.** -/
theorem createOnly_run (generateId : ℕ → String) (env : Env) {s : State} (h : CreateOnly s)
    (c : ServiceCall) :
    CreateOnly (c.run ⟨env, .ruleBased generateId⟩ s).state := by
  set svc : DeploymentDomainService := ⟨env, .ruleBased generateId⟩
  refine ⟨?_, ?_⟩
  · rcases run_cases svc c s with hF | ⟨d, -, hp, hD, -, -⟩ | ⟨k, d, p, m, d', -, -, hg, hk, hp', hne, -, -⟩ |
      ⟨-, -, -, -, -, -, -, -, hD, -, -, -⟩
    · exact h.plans_follow hF.deployments
    · rw [hD]
      intro x hx
      rcases (Store.mem_put _ _ _).mp hx with rfl | ⟨hx, -⟩
      · rw [hp]; intro p hp'; cases hp'
      · exact h.plans x hx
    · -- planning stores the engine's plan under `k` and leaves every other key
      have hq : ∀ step ∈ p.steps, step.terraformAction = "create" := by
        simp only [PlanningEngine.ruleBased, Except.ok.injEq] at hg
        have hpg : (RuleBasedPlanningEngine.generatePlan generateId s.nextId d.intent).1 = p :=
          congrArg Prod.fst hg
        exact hpg ▸ fun step => RuleBasedPlanningEngine.terraformAction_generatePlan generateId _ _
      intro x hx
      have hxk := (Store.getById_eq_some_iff _ _ _).mpr ⟨hx, rfl⟩
      by_cases hxid : x.id = k
      · obtain rfl : x = d' := Option.some_injective _ (hxk.symm.trans (hxid ▸ hk))
        rw [hp']
        rintro q ⟨⟩
        exact hq
      · exact h.plans_getById ((hne _ hxid).symm.trans hxk)
    · exact h.plans_follow hD
  · rcases tasks_run svc c s with ht | ⟨k, t, tc, hkt, ht⟩ | ⟨k, d, p, hd, hp, ht⟩ <;> rw [ht]
    · exact h.tasks
    · exact h.tasks_put hkt tc
    · intro u hu
      rcases Store.mem_foldl_put _ _ hu with hu | hu
      · obtain ⟨step, hstep, he⟩ := terraformAction_of_mem_enqueuedTasks hu
        exact he.trans (h.plans_getById hd p hp step hstep)
      · exact h.tasks u hu

theorem createOnly_runAll (generateId : ℕ → String) (env : Env) :
    ∀ (cs : List ServiceCall) {s : State}, CreateOnly s →
      CreateOnly (runAll ⟨env, .ruleBased generateId⟩ s cs)
  | [], _, h => h
  | c :: cs, _, h => createOnly_runAll generateId env cs (createOnly_run generateId env h c)

/-- **Rolling back destroys nothing.** Take the service as the routes build it, with the
rule-based planner, and any sequence of its operations from a state whose stored plans and
tasks all create (a fresh process is one, `CreateOnly.empty`). Every task it then stores has
the action `create`: the engine plans nothing else, and no operation changes a task's action.
So the Terraform worker, executing any stored task from any state of the executor, keeps
every simulated resource there: `rollback_deployment` moves the status only, and no run of
the system ever calls `destroy`. -/
theorem rollback_destroys_nothing (env : Env) (s : State) (hs : CreateOnly s)
    (cs : List ServiceCall) (workDirBase : String) (st : ExecutorState) :
    ∀ t ∈ (runAll ⟨env, .ruleBased env.generateId⟩ s cs).tasks.items,
      t.terraformAction = "create" ∧
      ∀ k ∈ st.items.map SimResource.resourceId,
        k ∈ (TerraformWorkerAgent.execute workDirBase t st).state.items.map
          SimResource.resourceId := by
  intro t ht
  have hc : t.terraformAction = "create" := (createOnly_runAll env.generateId env cs hs).tasks t ht
  refine ⟨hc, fun k hk => ?_⟩
  rw [TerraformWorkerAgent.execute_eq]
  rcases t.inputData with _ | input
  · exact hk
  · simp only [EStateM.Result.state, TerraformWorkerAgent.actionEffect, hc, true_or, if_true]
    exact (Store.mem_keys_put _ _ _).mpr (.inr hk)

/-- A stored task of a rule-based plan's first step, executed over a resource already there. -/
theorem rollback_destroys_nothing_stored_task :
    let env : Env := ⟨fun k => "id" ++ toString k, id⟩
    let r : ResourceSpec :=
      { resourceType := .network, provider := .aws, region := "us-east-1", name := "vpc-aws" }
    let t : Task :=
      { id := "t0", deploymentId := "d1", stepId := "s1", name := "create-network-aws",
        status := .queued, terraformAction := "create", idempotencyKey := "k1", createdAt := 0,
        inputData := some ⟨r, []⟩ }
    let s : State := ⟨.empty, ⟨[t], by decide⟩, [], 1, 1⟩
    let st : ExecutorState := ⟨[⟨"sim-s0", "/tmp/tf-worker/d0/s0"⟩], by decide⟩
    CreateOnly s ∧ t ∈ (runAll ⟨env, .ruleBased env.generateId⟩ s []).tasks.items ∧
      t.terraformAction = "create" ∧
      ∀ k ∈ st.items.map SimResource.resourceId,
        k ∈ (TerraformWorkerAgent.execute "/tmp/tf-worker" t st).state.items.map
          SimResource.resourceId := by
  intro env r t s st
  have hs : CreateOnly s :=
    ⟨fun d h => absurd h (List.not_mem_nil d), fun _ h => by rw [List.mem_singleton.mp h]⟩
  exact ⟨hs, List.mem_singleton_self t,
    rollback_destroys_nothing env s hs [] _ st t (List.mem_singleton_self t)⟩

end ServiceCall

end Orchestrator
