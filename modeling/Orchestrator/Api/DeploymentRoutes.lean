/-
# The deployment routes over the service

`api/routes/deployment_routes.py` puts five operations of `DeploymentDomainService` behind
HTTP routes. A route declares `require_permission(...)`, which runs before its body; the body
calls the service inside a `try` whose `except` clauses answer 404, 409 or 400 for the
exceptions they name. Any other exception reaches the server, which answers 500: an
`InvalidStateTransitionError` from approving a deployment twice, for instance. The service is
the in-memory one, so what it wrote before raising stays written.

`route` is the shape all five share; each route is `route` applied to its own permission,
status code, `except` clauses and call. Requests are handled one after another. A request
whose token fails the check is answered 401, 403 or 500 and leaves the stores as they were;
any other makes exactly the service call its route names (`handle_state`); only
`create_deployment` reads the user, for `initiated_by` and `tenant_id`. A viewer's requests are
all refused and change nothing (`viewer_changes_nothing`), and what holds of every run of
service calls holds of every run of requests: through the API, too, a step of a deployment
gets one task (`api_tasks_unique`).

Key definitions: `DeploymentRoutes.route`, `DeploymentRequest.serviceCall`,
`DeploymentRoutes.handle`, `DeploymentRoutes.run`.
Key theorems: `DeploymentRoutes.handle_state`, `DeploymentRoutes.viewer_changes_nothing`,
`DeploymentRoutes.api_tasks_unique`.
-/
import Orchestrator.Api.Auth
import Orchestrator.Service.Execution

namespace Orchestrator

/-! ### Request bodies -/

/-- `CreateDeploymentRequest` as validation lets it through, with the fields the
`DeploymentIntent` model keeps. -/
structure CreateDeploymentRequest where
  targetProviders : List CloudProviderType
  targetRegions : List String := []
  resources : List ResourceSpec := []
  strategy : DeploymentStrategy := .rolling
  autoApprove : Bool := false
  rollbackOnFailure : Bool := true
  environment : String := "staging"
  targetProviders_ne_nil : targetProviders ≠ []
  environment_mem : environment ∈ ["development", "staging", "production"]

/-- The `DeploymentIntent` that `create_deployment` builds from the request. -/
def CreateDeploymentRequest.toIntent (r : CreateDeploymentRequest) : DeploymentIntent where
  targetProviders := r.targetProviders
  targetRegions := r.targetRegions
  resources := r.resources
  strategy := r.strategy
  autoApprove := r.autoApprove
  rollbackOnFailure := r.rollbackOnFailure
  environment := r.environment

/-- `ApproveDeploymentRequest` as validation lets it through. -/
structure ApproveDeploymentRequest where
  approvedBy : String
  approvedBy_length : 1 ≤ approvedBy.length

/-- What a route returns: `_to_response(deployment)`, a function of the deployment, or the
dict of `execute_deployment`. -/
inductive DeploymentBody
  | deployment (d : Deployment)
  | execution (deploymentId : String) (tasksCreated : ℕ)

/-! ### The routes -/

namespace DeploymentRoutes

variable (svc : DeploymentDomainService)

/-- **A deployment route.** `require_permission(permission)` runs first, as a dependency. The
body makes the call inside its `try`, whose `except` clauses are `handlers`, and answers its
result with `statusCode`. -/
def route {α : Type} (permission : Permission) (statusCode : ℕ)
    (handlers : ServiceError → Option ApiError) (call : User → ServiceM α)
    (body : α → DeploymentBody) (token : BearerToken) (s : State) :
    Response DeploymentBody × State :=
  match requirePermission [permission] token with
  | .error e => (e.response, s)
  | .ok user =>
    match call user s with
    | .ok a s' => (⟨statusCode, .body (body a)⟩, s')
    | .error e s' => (((handlers e).getD .uncaught).response, s')

/-- The `except DeploymentNotFoundError` clause: 404 with the message. -/
def notFoundHandler : ServiceError → Option ApiError
  | .notFound message => some (.httpException 404 message)
  | _ => none

/-- The `except` clauses of `plan_deployment`. -/
def planHandlers : ServiceError → Option ApiError
  | .notFound message => some (.httpException 404 message)
  | .lockError message => some (.httpException 409 message)
  | _ => none

/-- The `except` clauses of `execute_deployment`. -/
def executeHandlers : ServiceError → Option ApiError
  | .notFound message => some (.httpException 404 message)
  | .planMissing message => some (.httpException 400 message)
  | _ => none

/-- `create_deployment`: no `except`; 201 with the new deployment. -/
def createDeployment (request : CreateDeploymentRequest) :
    BearerToken → State → Response DeploymentBody × State :=
  route .deploymentCreate 201 (fun _ => none)
    (fun user => svc.createDeployment request.toIntent user.id user.tenantId) .deployment

/-- `plan_deployment`, given what the lock's `acquire` answers inside the service. -/
def planDeployment (acquired : Bool) (deploymentId : String) :
    BearerToken → State → Response DeploymentBody × State :=
  route .deploymentCreate 200 planHandlers (fun _ => svc.planDeployment acquired deploymentId)
    .deployment

/-- `approve_deployment`: the approver recorded is the body's `approved_by`. -/
def approveDeployment (deploymentId : String) (request : ApproveDeploymentRequest) :
    BearerToken → State → Response DeploymentBody × State :=
  route .deploymentApprove 200 notFoundHandler
    (fun _ => DeploymentDomainService.approveDeployment deploymentId request.approvedBy)
    .deployment

/-- `execute_deployment`: the number of tasks created. -/
def executeDeployment (deploymentId : String) :
    BearerToken → State → Response DeploymentBody × State :=
  route .deploymentCreate 200 executeHandlers (fun _ => svc.executeDeployment deploymentId)
    fun tasks => .execution deploymentId tasks.length

def rollbackDeployment (deploymentId : String) :
    BearerToken → State → Response DeploymentBody × State :=
  route .deploymentRollback 200 notFoundHandler
    (fun _ => DeploymentDomainService.rollbackDeployment deploymentId) .deployment

end DeploymentRoutes

/-- A request to one of the routes, with its path parameter and body. A `plan` request
carries what the lock's `acquire` answers when the service asks. -/
inductive DeploymentRequest
  | create (request : CreateDeploymentRequest)
  | plan (deploymentId : String) (acquired : Bool)
  | approve (deploymentId : String) (request : ApproveDeploymentRequest)
  | execute (deploymentId : String)
  | rollback (deploymentId : String)

namespace DeploymentRequest

/-- The permission the request's route declares. -/
def permission : DeploymentRequest → Permission
  | .create _ | .plan .. | .execute _ => .deploymentCreate
  | .approve .. => .deploymentApprove
  | .rollback _ => .deploymentRollback

/-- No route's permission is a VIEWER's. -/
theorem permission_not_mem_viewer (r : DeploymentRequest) :
    r.permission ∉ rolePermissions .viewer := by
  cases r <;> simp only [permission] <;> decide

/-- The service call the request's route makes as `user`. -/
def serviceCall (user : User) : DeploymentRequest → ServiceCall
  | .create r => .createDeployment r.toIntent user.id user.tenantId
  | .plan k acquired => .planDeployment acquired k
  | .approve k r => .approveDeployment k r.approvedBy
  | .execute k => .executeDeployment k
  | .rollback k => .rollbackDeployment k

end DeploymentRequest

namespace DeploymentRoutes

variable (svc : DeploymentDomainService)

/-- The route a request goes to. -/
def handle (token : BearerToken) : DeploymentRequest → State → Response DeploymentBody × State
  | .create r => createDeployment svc r token
  | .plan k acquired => planDeployment svc acquired k token
  | .approve k r => approveDeployment k r token
  | .execute k => executeDeployment svc k token
  | .rollback k => rollbackDeployment k token

/-- Requests handled one after another: the responses, and the state the last leaves. -/
def run : List (BearerToken × DeploymentRequest) → State → List (Response DeploymentBody) × State
  | [], s => ([], s)
  | (token, r) :: rs, s =>
    let (response, s') := handle svc token r s
    let (responses, s'') := run rs s'
    (response :: responses, s'')

/-! ### One request -/

/-- What a route leaves: the stores as they were when the check fails, and otherwise what the
call leaves, returned or raised. -/
theorem route_state {α : Type} (permission : Permission) (statusCode : ℕ)
    (handlers : ServiceError → Option ApiError) (call : User → ServiceM α)
    (body : α → DeploymentBody) (token : BearerToken) (s : State) :
    (route permission statusCode handlers call body token s).2 =
      match requirePermission [permission] token with
      | .ok user => (call user s).state
      | .error _ => s := by
  unfold route
  cases requirePermission [permission] token with
  | error e => rfl
  | ok user =>
    dsimp only
    cases call user s <;> rfl

/-- A request that fails its route's check is answered with the check's error. -/
theorem handle_denied {token : BearerToken} {r : DeploymentRequest} {e : ApiError}
    (h : requirePermission [r.permission] token = .error e) (s : State) :
    handle svc token r s = (e.response, s) := by
  cases r <;> simp only [handle, createDeployment, planDeployment, approveDeployment,
    executeDeployment, rollbackDeployment, route, DeploymentRequest.permission] at h ⊢ <;> rw [h]

/-- **One request refines one service call**: a request that passes its route's check leaves
what its service call leaves, and any other leaves the state as it was. -/
theorem handle_state (token : BearerToken) (r : DeploymentRequest) (s : State) :
    (handle svc token r s).2 =
      match requirePermission [r.permission] token with
      | .ok user => ((r.serviceCall user).run svc s).state
      | .error _ => s := by
  cases r <;> simp only [handle, createDeployment, planDeployment, approveDeployment,
    executeDeployment, rollbackDeployment, route_state, DeploymentRequest.permission,
    DeploymentRequest.serviceCall, ServiceCall.run, ServiceCall.state_discard]

/-! ### Runs of requests -/

/-- **A viewer changes nothing.** Requests made with access tokens of the VIEWER role, the role
a registration gets unless its body names another, are each answered 403, and however many
there are, the stores, the event log and the id and clock counters stay as they were. -/
theorem viewer_changes_nothing :
    ∀ (requests : List (BearerToken × DeploymentRequest)) (s : State),
      (∀ q ∈ requests, ∃ subject tenantId,
        q.1 = .signed (JWTHandler.createAccessToken subject Role.viewer.value tenantId)) →
      (run svc requests s).2 = s ∧ ∀ response ∈ (run svc requests s).1, response.statusCode = 403
  | [], _, _ => ⟨rfl, fun _ h => absurd h (List.not_mem_nil _)⟩
  | (token, r) :: rs, s, h => by
    obtain ⟨subject, tenantId, rfl⟩ := h _ (List.mem_cons_self _ _)
    have hdenied := handle_denied svc ((requirePermission_access r.permission subject tenantId
      .viewer).trans (if_neg r.permission_not_mem_viewer)) s
    obtain ⟨ih, ih403⟩ := viewer_changes_nothing rs s fun q hq => h q (List.mem_cons_of_mem _ hq)
    simp only [run, hdenied]
    refine ⟨ih, fun response hr => ?_⟩
    rcases List.mem_cons.mp hr with rfl | hr
    · rfl
    · exact ih403 response hr

/-- A viewer asks to execute a deployment of an empty process. -/
theorem viewer_changes_nothing_execute :
    let svc : DeploymentDomainService :=
      ⟨⟨fun n => "d" ++ toString n, id⟩, .ruleBased fun n => "d" ++ toString n⟩
    let requests : List (BearerToken × DeploymentRequest) :=
      [(.signed (JWTHandler.createAccessToken "u1" Role.viewer.value "default"), .execute "d1")]
    (∀ q ∈ requests, ∃ subject tenantId,
        q.1 = .signed (JWTHandler.createAccessToken subject Role.viewer.value tenantId)) ∧
      (run svc requests State.empty).2 = State.empty ∧
        ∀ response ∈ (run svc requests State.empty).1, response.statusCode = 403 := by
  intro svc requests
  have h : ∀ q ∈ requests, ∃ subject tenantId,
      q.1 = .signed (JWTHandler.createAccessToken subject Role.viewer.value tenantId) :=
    fun q hq => ⟨"u1", "default", by rw [List.mem_singleton.mp hq]⟩
  exact ⟨h, viewer_changes_nothing svc requests State.empty h⟩

/-! ### What runs of service calls keep, runs of requests keep -/

/-- One request keeps the invariant of the service's runs. -/
theorem executionInvariant_handle (hg : Function.Injective svc.env.generateId)
    (hfresh : svc.planningEngine.DrawsFresh svc.env.generateId) {s : State}
    (h : ExecutionInvariant svc.env.generateId s) (token : BearerToken) (r : DeploymentRequest) :
    ExecutionInvariant svc.env.generateId (handle svc token r s).2 := by
  rw [handle_state]
  split
  · exact h.run hg hfresh _
  · exact h

theorem executionInvariant_run (hg : Function.Injective svc.env.generateId)
    (hfresh : svc.planningEngine.DrawsFresh svc.env.generateId) :
    ∀ (requests : List (BearerToken × DeploymentRequest)) {s : State},
      ExecutionInvariant svc.env.generateId s →
        ExecutionInvariant svc.env.generateId (run svc requests s).2
  | [], _, h => h
  | (token, r) :: rs, _, h =>
    executionInvariant_run hg hfresh rs (executionInvariant_handle svc hg hfresh h token r)

/-- **Through the API, a step gets one task.** Take the service as the routes build it, with the
rule-based planner, and a `generate_id` that never repeats. Whatever requests reach the
deployment routes from a fresh process, with whatever tokens, the task repository holds at
most one task per deployment and step, and no two stored tasks share an idempotency key. -/
theorem api_tasks_unique (env : Env) (hg : Function.Injective env.generateId)
    (requests : List (BearerToken × DeploymentRequest)) :
    let s := (run ⟨env, .ruleBased env.generateId⟩ requests State.empty).2
    (∀ t ∈ s.tasks.items, ∀ u ∈ s.tasks.items,
        t.deploymentId = u.deploymentId → t.stepId = u.stepId → t = u) ∧
      ∀ t ∈ s.tasks.items, ∀ u ∈ s.tasks.items, t.idempotencyKey = u.idempotencyKey → t = u := by
  intro s
  have hinv := executionInvariant_run ⟨env, .ruleBased env.generateId⟩ hg
    (PlanningEngine.ruleBased_drawsFresh hg) requests (ExecutionInvariant.empty _)
  exact ⟨fun t ht u hu h₁ h₂ => List.inj_on_of_nodup_map s.tasks.keys_nodup ht hu
      (hinv.tasks.step_unique t ht u hu h₁ h₂),
    fun t ht u hu h => List.inj_on_of_nodup_map s.tasks.keys_nodup ht hu
      (hinv.tasks.key_unique t ht u hu h)⟩

/-- An administrator creates, plans and executes a deployment, then executes it again. -/
theorem api_tasks_unique_admin_executes_twice :
    let env : Env := ⟨fun k => ⟨List.replicate k (Char.ofNat 97)⟩, id⟩
    let admin : BearerToken := .signed (JWTHandler.createAccessToken "u1" Role.admin.value "t1")
    let create : CreateDeploymentRequest :=
      { targetProviders := [.aws], targetProviders_ne_nil := by decide,
        environment_mem := by decide }
    let requests : List (BearerToken × DeploymentRequest) :=
      [(admin, .create create), (admin, .plan "" true), (admin, .execute ""),
        (admin, .execute "")]
    Function.Injective env.generateId ∧
      let s := (run ⟨env, .ruleBased env.generateId⟩ requests State.empty).2
      (∀ t ∈ s.tasks.items, ∀ u ∈ s.tasks.items,
          t.deploymentId = u.deploymentId → t.stepId = u.stepId → t = u) ∧
        ∀ t ∈ s.tasks.items, ∀ u ∈ s.tasks.items, t.idempotencyKey = u.idempotencyKey → t = u := by
  intro env admin create requests
  have hg : Function.Injective env.generateId := fun a b h => by
    simpa [env] using congrArg (fun s : String => s.data.length) h
  exact ⟨hg, api_tasks_unique env hg requests⟩

end DeploymentRoutes

end Orchestrator
