/-
# What a deployment method can change

Each public method of `Deployment` is a `DeploymentCall`. What a call can do is said once
per call, and the facts about runs of calls follow from it:

* a call that raises leaves exactly what it wrote before its transition check
  (`writtenBeforeCheck`, `DeploymentCall.raise_leaves_writes_before_check`): nothing for the methods that only
  transition, the plan for `set_plan`, the message for `fail`, and for
  `record_step_result` the appended result, a touch and the failure message;
* on a terminal deployment every call but `record_step_result` raises, and that one
  returns only by appending its result (`DeploymentCall.run_ok_of_isTerminal`);
* no call moves a deployment back a stage of its lifecycle (`DeploymentStatus.stage`,
  `DeploymentCall.stage_run`): only `FAILED → PENDING` and `ROLLED_BACK → PENDING` would,
  and no method asks for them. So PLANNING is entered once in any run, and the plan is
  changed by at most one returning call, a `set_plan` issued in PLANNING
  (`Deployment.terminal_frozen_and_plan_set_once`).

Key definitions: `DeploymentStatus.stage`, `DeploymentCall.writtenBeforeCheck`,
`Deployment.runCalls`.
Key theorems: `DeploymentCall.raise_leaves_writes_before_check`, `DeploymentCall.stage_run`,
`Deployment.terminal_frozen_and_plan_set_once`.
-/
import Orchestrator.Domain.Deployment

namespace Orchestrator

/-- How far along its lifecycle a deployment in this status is: before planning, planning,
planned, awaiting approval, approved, and past execution. -/
def DeploymentStatus.stage : DeploymentStatus → ℕ
  | .pending => 0 | .planning => 1 | .planned => 2 | .awaitingApproval => 3 | .approved => 4
  | _ => 5

/-- A valid transition to any status but PENDING never goes back a stage. -/
theorem DeploymentStatus.stage_le_of_mem_validTransitions :
    ∀ s t : DeploymentStatus, t ∈ validTransitions s → t ≠ .pending → s.stage ≤ t.stage := by
  decide

/-- A terminal status has no valid transition but to PENDING. -/
theorem DeploymentStatus.not_mem_validTransitions_of_terminal :
    ∀ s t : DeploymentStatus, s ∈ [.completed, .cancelled, .rolledBack] → t ≠ .pending →
      t ∉ validTransitions s := by
  decide

namespace DeploymentCall

/-- What a call writes before its transition check, and so what it leaves when that check
raises. -/
def writtenBeforeCheck : DeploymentCall → Deployment → Deployment
  | .setPlan p, d => { d with plan := some p }
  | .fail m, d => { d with errorMessage := m }
  | .recordStepResult r, d =>
    { d with stepResults := d.stepResults ++ [r], version := d.version + 1,
             errorMessage := "Step " ++ r.stepId ++ " failed: " ++ r.errorMessage }
  | _, d => d

open Deployment in
/-- **A call that raises leaves what it wrote before its check**, and nothing else. -/
theorem raise_leaves_writes_before_check (c : DeploymentCall) (d d' : Deployment) (e : InvalidStateTransitionError)
    (h : c.run d = .error e d') : d' = c.writtenBeforeCheck d := by
  cases c <;>
    simp only [run, Deployment.startPlanning, Deployment.startVerification, Deployment.cancel,
      transitionTo_apply, approve_apply, setPlan_apply, startExecution_apply,
      recordStepResult_apply, fail_apply, complete_apply, startRollback_apply,
      completeRollback_apply] at h <;>
    split_ifs at h <;> cases h <;> rfl

/-- `fail` on a COMPLETED deployment raises, leaving only its message written. -/
theorem raise_leaves_writes_on_completed :
    let d : Deployment :=
      { id := "d1", name := "deploy-staging-aws", intent := { targetProviders := [.aws] },
        status := .completed }
    (DeploymentCall.fail "boom").run d = .error ⟨.completed, .failed⟩ { d with errorMessage := "boom" } ∧
      { d with errorMessage := "boom" } = (DeploymentCall.fail "boom").writtenBeforeCheck d :=
  ⟨rfl, raise_leaves_writes_before_check _ _ _ _ rfl⟩

/-- `fail` on a COMPLETED deployment raises and leaves its message written. -/
theorem fail_on_completed_keeps_message :
    ¬ ∀ (c : DeploymentCall) (d d' : Deployment) (e : InvalidStateTransitionError),
      c.run d = .error e d' →
      d'.status = d.status ∧ d'.plan = d.plan ∧ d'.stepResults = d.stepResults ∧
      d'.errorMessage = d.errorMessage ∧ d'.version = d.version ∧
      d'.domainEvents = d.domainEvents := by
  intro h
  let d : Deployment :=
    { id := "d1", name := "deploy-staging-aws", intent := { targetProviders := [.aws] },
      status := .completed }
  exact absurd (h (.fail "boom") d { d with errorMessage := "boom" } ⟨.completed, .failed⟩ rfl).2.2.2.1
    (by decide)

open Deployment in
/-- On a terminal deployment every call but `record_step_result` raises, and that one
returns only by appending its result. -/
theorem run_ok_of_isTerminal (c : DeploymentCall) (d d' : Deployment) (ht : d.isTerminal)
    (h : c.run d = .ok () d') :
    ∃ r, c = .recordStepResult r ∧ d' = { d with stepResults := d.stepResults ++ [r] }.touch := by
  have hno : ∀ t, t ≠ .pending → t ∉ validTransitions d.status := fun t =>
    DeploymentStatus.not_mem_validTransitions_of_terminal _ t (by simpa [isTerminal] using ht)
  have hplan : d.status ≠ .planning := by
    intro hs; simp [isTerminal, hs] at ht
  cases c <;>
    simp only [run, Deployment.startPlanning, Deployment.startVerification, Deployment.cancel,
      transitionTo_apply, approve_apply, setPlan_apply, startExecution_apply,
      recordStepResult_apply, fail_apply, complete_apply, startRollback_apply,
      completeRollback_apply, hplan, if_false] at h <;>
    (try split_ifs at h) <;> first
      | exact absurd ‹_ ∈ validTransitions d.status› (hno _ (by decide))
      | (cases h; done)
      | exact ⟨_, rfl, by cases h; rfl⟩

open Deployment in
/-- **No call moves a deployment back a stage.** -/
theorem stage_run (c : DeploymentCall) (d : Deployment) :
    d.status.stage ≤ (c.run d).state.status.stage := by
  have key := fun t h ht => DeploymentStatus.stage_le_of_mem_validTransitions d.status t h ht
  cases c <;>
    simp only [run, Deployment.startPlanning, Deployment.startVerification, Deployment.cancel,
      transitionTo_apply, approve_apply, setPlan_apply, startExecution_apply,
      recordStepResult_apply, fail_apply, complete_apply, startRollback_apply,
      completeRollback_apply] <;>
    split_ifs <;> simp only [EStateM.Result.state_ok, EStateM.Result.state_error, touch, le_refl] <;>
    first
      | exact key _ ‹_ ∈ validTransitions d.status› (by decide)
      | simp [‹d.status = .planning›, DeploymentStatus.stage]

open Deployment in
/-- A call that returns with another plan is a `set_plan` issued in PLANNING, and it leaves
the deployment past the planned stage. -/
theorem plan_run (c : DeploymentCall) (d d' : Deployment) (h : c.run d = .ok () d')
    (hp : d'.plan ≠ d.plan) :
    (∃ p, c = .setPlan p) ∧ d.status = .planning ∧ 2 ≤ d'.status.stage := by
  cases c <;>
    simp only [run, Deployment.startPlanning, Deployment.startVerification, Deployment.cancel,
      transitionTo_apply, approve_apply, setPlan_apply, startExecution_apply,
      recordStepResult_apply, fail_apply, complete_apply, startRollback_apply,
      completeRollback_apply] at h <;>
    split_ifs at h <;> cases h <;> simp_all [touch, DeploymentStatus.stage]

open Deployment in
/-- No call changes the deployment's id or its intent. -/
theorem identity_run (c : DeploymentCall) (d : Deployment) :
    (c.run d).state.id = d.id ∧ (c.run d).state.intent = d.intent := by
  cases c <;>
    simp only [run, Deployment.startPlanning, Deployment.startVerification, Deployment.cancel,
      transitionTo_apply, approve_apply, setPlan_apply, startExecution_apply,
      recordStepResult_apply, fail_apply, complete_apply, startRollback_apply,
      completeRollback_apply] <;>
    split_ifs <;> simp [touch]

open Deployment in
/-- Every call but `record_step_result` leaves the step results, returned or raised; that one
appends its result, also when it raises. -/
theorem stepResults_run (c : DeploymentCall) (d : Deployment) :
    (c.run d).state.stepResults = d.stepResults ++ (match c with
      | .recordStepResult r => [r]
      | _ => []) := by
  cases c <;>
    simp only [run, Deployment.startPlanning, Deployment.startVerification, Deployment.cancel,
      transitionTo_apply, approve_apply, setPlan_apply, startExecution_apply,
      recordStepResult_apply, fail_apply, complete_apply, startRollback_apply,
      completeRollback_apply] <;>
    split_ifs <;> simp [touch]

open Deployment in
/-- Every call but `set_plan` leaves the plan, returned or raised. -/
theorem plan_run_of_ne_setPlan (c : DeploymentCall) (hc : ∀ p, c ≠ .setPlan p) (d : Deployment) :
    (c.run d).state.plan = d.plan := by
  cases c <;> (try exact absurd rfl (hc _)) <;>
    simp only [run, Deployment.startPlanning, Deployment.startVerification, Deployment.cancel,
      transitionTo_apply, approve_apply, startExecution_apply, recordStepResult_apply, fail_apply,
      complete_apply, startRollback_apply, completeRollback_apply] <;>
    split_ifs <;> rfl

/-- The call returns and leaves another plan. -/
def changesPlan (c : DeploymentCall) (d : Deployment) : Prop :=
  ∃ d', c.run d = .ok () d' ∧ d'.plan ≠ d.plan

end DeploymentCall

namespace Deployment

/-- The deployment after the calls `cs`, each made on what the one before left, whether it
returned or raised. -/
def runCalls : Deployment → List DeploymentCall → Deployment
  | d, [] => d
  | d, c :: cs => runCalls (c.run d).state cs

theorem runCalls_append (d : Deployment) (xs ys : List DeploymentCall) :
    runCalls d (xs ++ ys) = runCalls (runCalls d xs) ys := by
  induction xs generalizing d with
  | nil => rfl
  | cons c xs ih => exact ih _

theorem stage_runCalls (d : Deployment) (cs : List DeploymentCall) :
    d.status.stage ≤ (runCalls d cs).status.stage := by
  induction cs generalizing d with
  | nil => exact le_refl _
  | cons c cs ih => exact (c.stage_run d).trans (ih _)

theorem runCalls_take_succ (d : Deployment) (cs : List DeploymentCall) (i : ℕ) (hi : i < cs.length) :
    runCalls d (cs.take (i + 1)) = (cs[i].run (runCalls d (cs.take i))).state := by
  rw [List.take_succ, List.getElem?_eq_getElem hi, runCalls_append]; rfl

theorem stage_runCalls_take (d : Deployment) (cs : List DeploymentCall) {i j : ℕ} (h : i ≤ j) :
    (runCalls d (cs.take i)).status.stage ≤ (runCalls d (cs.take j)).status.stage := by
  obtain ⟨k, rfl⟩ := Nat.exists_eq_add_of_le h
  rw [List.take_add, runCalls_append]
  exact stage_runCalls _ _

/-- A plan-changing call at step `i` and another at a later step `j` cannot both happen: the
first leaves the deployment past the planned stage, and the second needs PLANNING. -/
theorem changesPlan_unique (d : Deployment) (cs : List DeploymentCall) {i j : ℕ}
    (hi : i < cs.length) (hj : j < cs.length) (hij : i < j)
    (h1 : cs[i].changesPlan (runCalls d (cs.take i)))
    (h2 : cs[j].changesPlan (runCalls d (cs.take j))) : False := by
  obtain ⟨d1, hd1, hp1⟩ := h1
  obtain ⟨d2, hd2, hp2⟩ := h2
  have hs1 := (DeploymentCall.plan_run _ _ _ hd1 hp1).2.2
  have hs2 := (DeploymentCall.plan_run _ _ _ hd2 hp2).2.1
  have hmono := stage_runCalls_take d cs (Nat.succ_le_of_lt hij)
  rw [runCalls_take_succ d cs i hi, hd1, EStateM.Result.state_ok, hs2] at hmono
  exact absurd (hs1.trans hmono) (by decide)

/-- **Once terminal, a deployment keeps its status, plan and message, and its plan is set
once.** A call that returns on a terminal deployment changes none of status, plan and
error message, and changes the step results only as `record_step_result(r)`, by appending
`r`. Over any run of calls (raising ones kept), the calls that return with another plan
are at most one, a `set_plan` issued while the deployment is PLANNING. -/
theorem terminal_frozen_and_plan_set_once (d : Deployment) (cs : List DeploymentCall) :
    (∀ (c : DeploymentCall) (d d' : Deployment), d.isTerminal → c.run d = .ok () d' →
      d'.status = d.status ∧ d'.plan = d.plan ∧ d'.errorMessage = d.errorMessage ∧
      (d'.stepResults = d.stepResults ∨
        ∃ r, c = .recordStepResult r ∧ d'.stepResults = d.stepResults ++ [r])) ∧
    (∀ i (hi : i < cs.length), cs[i].changesPlan (runCalls d (cs.take i)) →
      (runCalls d (cs.take i)).status = .planning ∧ ∃ p, cs[i] = .setPlan p) ∧
    (∀ i j (hi : i < cs.length) (hj : j < cs.length), cs[i].changesPlan (runCalls d (cs.take i)) →
      cs[j].changesPlan (runCalls d (cs.take j)) → i = j) := by
  refine ⟨fun c d d' ht h => ?_, fun i hi ⟨d', hd', hp⟩ => ?_, fun i j hi hj h1 h2 => ?_⟩
  · obtain ⟨r, rfl, rfl⟩ := c.run_ok_of_isTerminal d d' ht h
    exact ⟨rfl, rfl, rfl, .inr ⟨r, rfl, rfl⟩⟩
  · obtain ⟨hc, hs, -⟩ := DeploymentCall.plan_run _ _ _ hd' hp
    exact ⟨hs, hc⟩
  · rcases Nat.lt_trichotomy i j with hij | rfl | hji
    · exact (changesPlan_unique d cs hi hj hij h1 h2).elim
    · rfl
    · exact (changesPlan_unique d cs hj hi hji h2 h1).elim

/-- **`d'` is `d` further along its lifecycle**, under the same id and with the same plan:
what every call but `set_plan` leaves, and what `collect_events` leaves. -/
structure Follows (d d' : Deployment) : Prop where
  id_eq : d'.id = d.id
  stage_le : d.status.stage ≤ d'.status.stage
  plan_eq : d'.plan = d.plan

theorem Follows.refl (d : Deployment) : d.Follows d := ⟨rfl, le_refl _, rfl⟩

theorem Follows.trans {d₁ d₂ d₃ : Deployment} (h₁ : d₁.Follows d₂) (h₂ : d₂.Follows d₃) :
    d₁.Follows d₃ :=
  ⟨h₂.id_eq.trans h₁.id_eq, h₁.stage_le.trans h₂.stage_le, h₂.plan_eq.trans h₁.plan_eq⟩

theorem follows_run (c : DeploymentCall) (hc : ∀ p, c ≠ .setPlan p) (d : Deployment) :
    d.Follows (c.run d).state :=
  ⟨(c.identity_run d).1, c.stage_run d, c.plan_run_of_ne_setPlan hc d⟩

theorem follows_collectEvents (d : Deployment) : d.Follows d.collectEvents.2 := ⟨rfl, le_refl _, rfl⟩

/-- `record_step_result` changes the status only by failing the deployment, on a failed step
of a deployment that rolls back on failure; when it raises, the status is the one it found. -/
theorem recordStepResult_status (r : StepResult) (d : Deployment) :
    (d.recordStepResult r).state.status = d.status ∨
      ((d.recordStepResult r).isOk ∧ (d.recordStepResult r).state.status = .failed ∧
        r.success = false ∧ d.intent.rollbackOnFailure = true) := by
  rw [recordStepResult_apply]
  split_ifs with hc
  · rw [fail_apply]
    split_ifs
    · simp only [Bool.and_eq_true, Bool.not_eq_true'] at hc
      exact .inr ⟨rfl, rfl, hc⟩
    · exact .inl rfl
  · exact .inl rfl

/-- A fresh deployment, cancelled, still takes a step result: `record_step_result` returns
on the terminal deployment and appends. -/
theorem record_after_cancel_appends :
    let d : Deployment :=
      runCalls { id := "d1", name := "deploy-staging-aws", intent := { targetProviders := [.aws] } }
        [.cancel]
    d.isTerminal ∧ ∃ d', (DeploymentCall.recordStepResult ⟨"s1", true, "", "", "", 1⟩).run d = .ok () d' ∧
      d'.stepResults ≠ d.stepResults :=
  ⟨rfl, _, rfl, by decide⟩

end Deployment

end Orchestrator
