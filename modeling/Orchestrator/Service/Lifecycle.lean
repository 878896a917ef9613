/-
# No deployment ever finishes

Three methods of `Deployment` end a deployment: `complete` (to COMPLETED, with
`DeploymentCompleted`), `complete_rollback` (to ROLLED_BACK, with
`DeploymentRollbackCompleted`) and `cancel` (to CANCELLED). No code of the repository calls
them. The service calls `start_planning`, `set_plan` (and through it `approve`), `approve`,
`start_execution`, `record_step_result` (and through it `fail`), `start_verification` and
`start_rollback` (`DeploymentCall.calledByService`), and a worker's steps touch tasks only.
So a deployment whose tasks all succeed stays VERIFYING, one rolled back stays ROLLING_BACK,
`is_terminal` is never true, and no subscriber is ever told that a deployment completed.

This holds over whole runs of the system the code builds (`SystemStep`): any interleaving of
the service's operations with the steps workers take on the task queue, from any state in
which nothing has finished yet, the empty one included (`SystemStep.none_finished_run`).
Each method the service calls keeps a deployment unfinished
(`DeploymentCall.unfinished_run`); each operation is proved to keep the invariant one
primitive at a time (`KeepsUnfinished`), without unfolding what follows.

Key definitions: `Deployment.Unfinished`, `NoneFinished`, `SystemStep`.
Key theorems: `DeploymentCall.unfinished_run`, `SystemStep.noneFinished_step`,
`SystemStep.none_finished_run`.
-/
import Orchestrator.Workers.TaskQueue

namespace Orchestrator

/-- The domain events that report a deployment finished: `DeploymentCompleted` and
`DeploymentRollbackCompleted`. -/
def DeploymentEvent.finishes : DeploymentEvent → Bool
  | .planGenerated .. | .approved .. | .started _ | .failed .. | .rollbackStarted _ => false
  | .completed _ | .rollbackCompleted _ => true

/-- The finishing events are those of types `deployment.completed` and
`deployment.rollback_completed`. -/
theorem DeploymentEvent.finishes_iff (e : DeploymentEvent) :
    e.finishes = true ↔
      e.eventType = "deployment.completed" ∨ e.eventType = "deployment.rollback_completed" := by
  cases e <;> simp [finishes, eventType]

/-- A publication that reports a deployment finished. -/
def Publication.finishes : Publication → Bool
  | .domainEvent e => e.finishes
  | .deploymentCreated .. | .taskStatus .. => false

/-- A deployment that has not finished: not terminal, and no finishing event waiting in its
buffer. -/
structure Deployment.Unfinished (d : Deployment) : Prop where
  not_terminal : d.isTerminal = false
  events : ∀ e ∈ d.domainEvents, e.finishes = false

theorem Deployment.unfinished_collectEvents {d : Deployment} (hd : d.Unfinished) :
    d.collectEvents.2.Unfinished :=
  ⟨hd.not_terminal, fun _ h => nomatch h⟩

/-- The methods some code calls: all but `complete`, `complete_rollback` and `cancel`. -/
def DeploymentCall.calledByService : DeploymentCall → Bool
  | .complete | .completeRollback | .cancel => false
  | _ => true

open Deployment in
/-- **A method the service calls keeps a deployment unfinished**, returned or raised: its
transition goes to PLANNING, PLANNED, AWAITING_APPROVAL, APPROVED, EXECUTING, VERIFYING,
FAILED or ROLLING_BACK, and the events it adds report none of these as a finish. -/
theorem DeploymentCall.unfinished_run (c : DeploymentCall) (hc : c.calledByService = true)
    {d : Deployment} (hd : d.Unfinished) : (c.run d).state.Unfinished := by
  obtain ⟨ht, he⟩ := hd
  cases c <;> simp only [calledByService, Bool.false_eq_true] at hc <;>
    simp only [run, Deployment.startPlanning, Deployment.startVerification,
      transitionTo_apply, approve_apply, setPlan_apply, startExecution_apply,
      recordStepResult_apply, fail_apply, startRollback_apply] <;>
    split_ifs <;> constructor <;>
    -- the status: a constant that is not terminal, or the one before
    (try first | rfl | exact ht) <;>
    -- the events: those before, and maybe some that do not finish
    simp only [EStateM.Result.state_ok, EStateM.Result.state_error, List.append_nil,
      List.forall_mem_append, List.forall_mem_singleton] <;>
    first | exact he | exact ⟨he, rfl⟩ | exact ⟨⟨he, rfl⟩, rfl⟩

/-! ### The invariant and the primitives that keep it -/

/-- **Nothing has finished**: no stored deployment is terminal or holds a finishing event yet
to be published, and no finishing event has been published. -/
structure NoneFinished (s : State) : Prop where
  stored : ∀ d ∈ s.deployments.items, d.Unfinished
  published : ∀ p ∈ s.published, p.finishes = false

namespace NoneFinished

variable {s : State}

theorem empty : NoneFinished State.empty := ⟨fun _ h => (nomatch h), fun _ h => (nomatch h)⟩

/-- What reads only the deployment store and the publisher's log. -/
theorem of_eq {s' : State} (h : NoneFinished s) (hd : s'.deployments = s.deployments)
    (hp : s'.published = s.published) : NoneFinished s' :=
  ⟨hd ▸ h.stored, hp ▸ h.published⟩

theorem getById {k : String} {d : Deployment} (h : NoneFinished s)
    (hd : s.deployments.getById k = some d) : d.Unfinished :=
  h.stored d ((Store.getById_eq_some_iff _ _ _).mp hd).1

/-- Storing an unfinished deployment. -/
theorem put {d : Deployment} (h : NoneFinished s) (hd : d.Unfinished) :
    NoneFinished { s with deployments := s.deployments.put d } :=
  ⟨fun x hx => ((Store.mem_put _ _ _).mp hx).elim (fun hx => hx ▸ hd) fun hx => h.stored x hx.1,
    h.published⟩

/-- Publishing what reports no finish. -/
theorem publish {ps : List Publication} (h : NoneFinished s) (hp : ∀ p ∈ ps, p.finishes = false) :
    NoneFinished { s with published := s.published ++ ps } :=
  ⟨h.stored, fun p hp' => (List.mem_append.mp hp').elim (h.published p) (hp p)⟩

/-- `_publish_events` of an unfinished deployment. -/
theorem publishEvents {d : Deployment} (h : NoneFinished s) (hd : d.Unfinished) :
    NoneFinished (ServiceM.publishEvents d s).state :=
  (h.put (Deployment.unfinished_collectEvents hd)).publish fun p hp => by
    obtain ⟨e, he, rfl⟩ := List.mem_map.mp hp
    exact hd.events e he

end NoneFinished

/-- A continuation on an unfinished deployment that keeps nothing finished, returned or
raised. -/
def KeepsUnfinished {α : Type} (f : Deployment → ServiceM α) : Prop :=
  ∀ d s, NoneFinished s → d.Unfinished → NoneFinished (f d s).state

namespace KeepsUnfinished

open ServiceM

variable {α : Type} {f : Deployment → ServiceM α}

theorem pure (a : α) : KeepsUnfinished fun _ => (Pure.pure a : ServiceM α) := fun _ _ h _ => h

theorem publishEvents : KeepsUnfinished ServiceM.publishEvents := fun _ _ h hd =>
  h.publishEvents hd

theorem publishEvents_bind (hf : KeepsUnfinished f) :
    KeepsUnfinished fun d => ServiceM.publishEvents d >>= f := fun _ _ h hd =>
  hf _ _ (h.publishEvents hd) (Deployment.unfinished_collectEvents hd)

theorem saveDeployment_bind (hf : KeepsUnfinished f) :
    KeepsUnfinished fun d => saveDeployment d >>= fun _ => f d := fun d _ h hd =>
  hf d _ (h.put hd) hd

theorem listByDeployment_bind {g : Deployment → List Task → ServiceM α} (k : String)
    (hg : ∀ all, KeepsUnfinished fun d => g d all) :
    KeepsUnfinished fun d => listByDeployment k >>= g d := fun d s h hd =>
  hg _ d s h hd

/-- A method the service calls, on the deployment it read. -/
theorem onDeployment_bind (c : DeploymentCall) (hc : c.calledByService = true)
    (hf : KeepsUnfinished f) : KeepsUnfinished fun d => onDeployment d c.run >>= f :=
  fun d s h hd => by
  have h1 := c.unfinished_run hc hd
  dsimp only
  rw [ServiceM.onDeployment_bind]
  rcases hr : c.run d with ⟨⟨⟩, d'⟩ | ⟨e, d'⟩ <;> simp only [hr, EStateM.Result.state] at h1 ⊢
  · exact hf d' _ (h.put h1) h1
  · exact h.put h1

theorem generatePlan_bind {g : Deployment → ExecutionPlan → ServiceM α} (engine : PlanningEngine)
    (hg : ∀ p, KeepsUnfinished fun d => g d p) :
    KeepsUnfinished fun d => generatePlan engine d.intent >>= g d := fun d s h hd => by
  dsimp only
  rw [ServiceM.generatePlan_bind]
  rcases engine.generatePlan d.intent s.nextId with m | ⟨p, n⟩
  · exact h
  · exact hg p d _ (h.of_eq rfl rfl) hd

theorem createTasks_bind {g : Deployment → List Task → ServiceM α}
    (svc : DeploymentDomainService) (k : String) (steps : List ExecutionStep)
    (hg : ∀ ts, KeepsUnfinished fun d => g d ts) :
    KeepsUnfinished fun d => svc.createTasks k steps >>= g d := fun d s h hd => by
  dsimp only
  rw [svc.createTasks_bind]
  exact hg _ d _ (h.of_eq rfl rfl) hd

theorem afterCompletion_bind (allTasks : List Task) (hf : KeepsUnfinished f) :
    KeepsUnfinished fun d => DeploymentDomainService.afterCompletion d allTasks >>= f :=
  fun d s h hd => by
  dsimp only [DeploymentDomainService.afterCompletion]
  split_ifs
  · exact onDeployment_bind .startVerification rfl hf d s h hd
  · exact onDeployment_bind .startRollback rfl hf d s h hd
  · exact hf d s h hd

end KeepsUnfinished

/-! ### Each operation -/

namespace DeploymentDomainService

open ServiceM

variable (svc : DeploymentDomainService) {s : State}

theorem createDeployment_noneFinished (i : DeploymentIntent) (u t : String)
    (h : NoneFinished s) : NoneFinished (svc.createDeployment i u t s).state := by
  simp only [createDeployment]
  rcases i.targetProviders.head? with _ | p
  · exact h
  · simp only [newId_bind, saveDeployment_bind, publish_bind, pure_apply, EStateM.Result.state]
    have h1 : NoneFinished { s with nextId := s.nextId + 1 } := h.of_eq rfl rfl
    refine (h1.put ?_).publish fun _ hp => ?_
    · exact ⟨rfl, fun _ h => nomatch h⟩
    · rw [List.mem_singleton.mp hp]; rfl

theorem planDeployment_noneFinished (acquired : Bool) (k : String) (h : NoneFinished s) :
    NoneFinished (svc.planDeployment acquired k s).state := by
  simp only [planDeployment]
  cases acquired
  · exact h
  simp only [Bool.not_true, Bool.false_eq_true, if_false, ServiceM.pure_bind, getDeployment_bind]
  rcases hd : s.deployments.getById k with _ | d
  · exact h
  exact KeepsUnfinished.onDeployment_bind .startPlanning rfl
    (.generatePlan_bind _ fun p => .onDeployment_bind (.setPlan p) rfl
      (.saveDeployment_bind .publishEvents)) d s h (h.getById hd)

theorem executeDeployment_noneFinished (k : String) (h : NoneFinished s) :
    NoneFinished (svc.executeDeployment k s).state := by
  simp only [executeDeployment, getDeployment_bind]
  rcases hd : s.deployments.getById k with _ | d
  · exact h
  dsimp only
  rcases d.plan with _ | p
  · exact h
  exact KeepsUnfinished.onDeployment_bind .startExecution rfl
    (.saveDeployment_bind (.createTasks_bind svc k p.steps fun ts =>
      .publishEvents_bind (.pure ts))) d s h (h.getById hd)

theorem handleTaskCompletion_noneFinished (k : String) (success : Bool)
    (o : List (String × String)) (err : String) (h : NoneFinished s) :
    NoneFinished (svc.handleTaskCompletion k success o err s).state := by
  simp only [handleTaskCompletion, getTask_bind]
  rcases s.tasks.getById k with _ | t
  · exact h
  simp only [now_bind, onTask_bind]
  rcases (if success then Task.succeed o (svc.env.utcNow s.clock)
      else Task.fail err (svc.env.utcNow s.clock)) t with ⟨⟨⟩, t'⟩ | ⟨e', t'⟩
  · simp only [saveTask_bind, getDeployment_bind]
    rcases hd : s.deployments.getById t'.deploymentId with _ | d
    · exact h.of_eq rfl rfl
    exact KeepsUnfinished.onDeployment_bind (.recordStepResult (stepResult t' success o err)) rfl
      (.listByDeployment_bind _ fun all => .afterCompletion_bind all
        (.saveDeployment_bind (.publishEvents_bind (.pure ())))) d _ (h.of_eq rfl rfl)
      (h.getById hd)
  · exact h.of_eq rfl rfl

theorem approveDeployment_noneFinished (k a : String) (h : NoneFinished s) :
    NoneFinished (approveDeployment k a s).state := by
  simp only [approveDeployment, getDeployment_bind]
  rcases hd : s.deployments.getById k with _ | d
  · exact h
  exact KeepsUnfinished.onDeployment_bind (.approve a) rfl
    (.saveDeployment_bind .publishEvents) d s h (h.getById hd)

theorem rollbackDeployment_noneFinished (k : String) (h : NoneFinished s) :
    NoneFinished (rollbackDeployment k s).state := by
  simp only [rollbackDeployment, getDeployment_bind]
  rcases hd : s.deployments.getById k with _ | d
  · exact h
  exact KeepsUnfinished.onDeployment_bind .startRollback rfl
    (.saveDeployment_bind .publishEvents) d s h (h.getById hd)

end DeploymentDomainService

/-! ### The task side -/

/-- What a step on the task side leaves: the deployment store as it was, and only
publications that report no finish added to the log. -/
structure TaskSide (s s' : State) : Prop where
  deployments : s'.deployments = s.deployments
  published : ∃ ps, s'.published = s.published ++ ps ∧ ∀ p ∈ ps, p.finishes = false

theorem TaskSide.tasks {s : State} (ts : Store Task Task.id) (c : ℕ) :
    TaskSide s { s with tasks := ts, clock := c } :=
  ⟨rfl, [], (List.append_nil _).symm, fun _ h => nomatch h⟩

theorem NoneFinished.taskSide {s s' : State} (h : NoneFinished s) (ht : TaskSide s s') :
    NoneFinished s' := by
  obtain ⟨ps, hp, hps⟩ := ht.published
  exact (h.publish hps).of_eq ht.deployments hp

namespace ServiceM

variable (env : Env) (s : State)

theorem acquireNext_taskSide (w : String) : TaskSide s (acquireNext w s).state := by
  rcases acquireNext_eq w s with h | ⟨t, -, -, -, h⟩ <;> rw [h]
  · exact .tasks s.tasks s.clock
  · exact .tasks _ s.clock

theorem updateTask_taskSide (k : String) (m : TaskM Unit) : TaskSide s (updateTask k m s).state := by
  simp only [updateTask, getTask_bind]
  rcases s.tasks.getById k with _ | t
  · exact .tasks s.tasks s.clock
  simp only [onTask_bind]
  rcases m t with ⟨⟨⟩, t'⟩ | ⟨e, t'⟩ <;> exact .tasks _ s.clock

theorem startTask_taskSide (k : String) : TaskSide s (startTask env k s).state := by
  simp only [startTask, getTask_bind]
  rcases s.tasks.getById k with _ | t
  · exact .tasks s.tasks s.clock
  simp only [now_bind, onTask_bind]
  rcases Task.start (env.utcNow s.clock) t with ⟨⟨⟩, t'⟩ | ⟨e, t'⟩ <;> exact .tasks _ _

theorem finishTask_taskSide (w k : String) (o : ExecuteOutcome) :
    TaskSide s (finishTask env w k o s).state := by
  simp only [finishTask, getTask_bind]
  rcases s.tasks.getById k with _ | t
  · exact .tasks s.tasks s.clock
  simp only [now_bind, onTask_bind]
  rcases recordOutcome (env.utcNow s.clock) o t with ⟨⟨⟩, t'⟩ | ⟨e, t'⟩
  · exact ⟨rfl, [.taskStatus t'.id t'.deploymentId w t'.status], rfl, fun p hp => by
      rw [List.mem_singleton.mp hp]; rfl⟩
  · exact .tasks _ _

end ServiceM

/-! ### Whole runs -/

/-- One step on the shared stores: an operation of the service, or a step of the task queue
that a worker or a caller takes. -/
inductive SystemStep
  | service (c : ServiceCall)
  | queue (e : QueueEvent)
  deriving DecidableEq, Repr

namespace SystemStep

variable (svc : DeploymentDomainService)

def run : SystemStep → State → State
  | .service c, s => (c.run svc s).state
  | .queue e, s => (e.run svc s).state

/-- The state after the steps, in order. -/
def runAll (s : State) (steps : List SystemStep) : State :=
  steps.foldl (fun s step => step.run svc s) s

theorem state_discard_none {α : Type} (x : ServiceM α) (s : State) :
    ((do let _ ← x; pure none : ServiceM (Option Task)) s).state = (x s).state := by
  change (EStateM.bind x _ s).state = _
  simp only [EStateM.bind]
  cases x s <;> rfl

/-- **Every step keeps nothing finished.** -/
theorem noneFinished_step {s : State} (h : NoneFinished s) :
    ∀ step : SystemStep, NoneFinished (step.run svc s)
  | .service c => by
    cases c <;> simp only [run, ServiceCall.run, ServiceCall.state_discard]
    case createDeployment i u t => exact svc.createDeployment_noneFinished i u t h
    case planDeployment a k => exact svc.planDeployment_noneFinished a k h
    case executeDeployment k => exact svc.executeDeployment_noneFinished k h
    case handleTaskCompletion k success o err =>
      exact svc.handleTaskCompletion_noneFinished k success o err h
    case approveDeployment k a => exact DeploymentDomainService.approveDeployment_noneFinished k a h
    case rollbackDeployment k => exact DeploymentDomainService.rollbackDeployment_noneFinished k h
  | .queue e => by
    cases e <;> simp only [run, QueueEvent.run, state_discard_none]
    case executeDeployment k => exact svc.executeDeployment_noneFinished k h
    case acquireNext w => exact h.taskSide (ServiceM.acquireNext_taskSide s w)
    case enqueue k => exact h.taskSide (ServiceM.updateTask_taskSide s k _)
    case retry k => exact h.taskSide (ServiceM.updateTask_taskSide s k _)
    case start k => exact h.taskSide (ServiceM.startTask_taskSide svc.env s k)
    case finish w k o => exact h.taskSide (ServiceM.finishTask_taskSide svc.env s w k o)
    case complete k success o err => exact svc.handleTaskCompletion_noneFinished k success o err h

theorem noneFinished_runAll {s : State} (h : NoneFinished s) :
    ∀ steps : List SystemStep, NoneFinished (runAll svc s steps)
  | [] => h
  | step :: steps => noneFinished_runAll (noneFinished_step svc h step) steps

/-- **No deployment ever finishes.** Over any interleaving of the service's operations
(`create_deployment`, `plan_deployment` whatever the lock answered, `execute_deployment`,
`handle_task_completion`, `approve_deployment`, `rollback_deployment`) with the steps of the
task queue (`acquire_next`, `enqueue` and `retry` with their `update`, a lifecycle's `start`
and recorded outcome), from a state in which no stored deployment is COMPLETED, ROLLED_BACK or
CANCELLED, holds a finishing event, or has had one published (the empty state is one): no
stored deployment is ever terminal, and no `deployment.completed` or
`deployment.rollback_completed` event is ever published. -/
theorem none_finished_run (s : State) (h : NoneFinished s) (steps : List SystemStep) :
    (∀ d ∈ (runAll svc s steps).deployments.items, d.isTerminal = false) ∧
    ∀ e, .domainEvent e ∈ (runAll svc s steps).published →
      e.eventType ≠ "deployment.completed" ∧ e.eventType ≠ "deployment.rollback_completed" := by
  have hr := noneFinished_runAll svc h steps
  refine ⟨fun d hd => (hr.stored d hd).not_terminal, fun e he => ?_⟩
  have hf : e.finishes = false := hr.published _ he
  rw [← Bool.not_eq_true, DeploymentEvent.finishes_iff] at hf
  exact not_or.mp hf

/-- A fresh process: a deployment created, planned, approved and executed, its first task
acquired by a worker and reported successful. -/
theorem none_finished_run_fresh :
    let env : Env := ⟨fun k => "id" ++ toString k, id⟩
    let svc : DeploymentDomainService := ⟨env, .ruleBased env.generateId⟩
    let steps : List SystemStep :=
      [.service (.createDeployment { targetProviders := [.aws] } "alice" "t1"),
        .service (.planDeployment true "id0"), .service (.approveDeployment "id0" "bob"),
        .queue (.executeDeployment "id0"), .queue (.acquireNext "w1"),
        .queue (.complete "id2" true [] "")]
    NoneFinished State.empty ∧
      (∀ d ∈ (runAll svc State.empty steps).deployments.items, d.isTerminal = false) ∧
      ∀ e, .domainEvent e ∈ (runAll svc State.empty steps).published →
        e.eventType ≠ "deployment.completed" ∧ e.eventType ≠ "deployment.rollback_completed" :=
  ⟨.empty, none_finished_run _ _ .empty _⟩

end SystemStep

end Orchestrator
