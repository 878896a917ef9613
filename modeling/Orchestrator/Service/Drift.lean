/-
# Drift scans

`DriftDomainService.scan_deployment` (`domain/services/drift_service.py`) builds the
deployment's expected state, asks the `SimulatedDriftDetector`
(`infrastructure/ai/drift_detector.py`) for a report, saves it, and publishes
`drift.detected` when the report has items.

The expected state is a dict keyed by `resource_identifier`. A second step with the same
identifier overwrites the value where the key stands, so the dict is a `Store` of resource
specs, and its keys are unique by construction. The detector reads each key's current state:
the simulated one if it has one, else a default that is never empty. It then walks the keys
in order. An empty state gives a RESOURCE_REMOVED item, CRITICAL. Any other state draws
`random.random()`, and a draw below `drift_probability` gives a PROPERTY_CHANGED item,
MEDIUM.

What the loop produces is said once (`ItemsFor`): the items name the keys in order, at most
once each; the two kinds of item match the two branches; and every key with an empty state
has its RESOURCE_REMOVED item. It holds for every outcome of the draws
(`SimulatedDriftDetector.itemsFor_driftItems`). From it and the dict's unique keys come the
report's properties (`DriftDomainService.scanDeployment_report`).

The random draws are a stream of rationals read from a counter, like `generate_id`. The
logger calls are left out.

Key definitions: `DriftReport.maxSeverity`, `buildExpectedState`,
`SimulatedDriftDetector.getCurrentState`, `SimulatedDriftDetector.detectDrift`,
`DriftDomainService.scanDeployment`.
Key theorems: `SimulatedDriftDetector.itemsFor_driftItems`,
`DriftDomainService.scanDeployment_eq`, `DriftDomainService.scanDeployment_report`.
-/
import Orchestrator.Domain.Deployment
import Mathlib.Algebra.Order.Field.Rat

namespace Orchestrator

/-! ### `domain/models/drift.py` -/

/-- `DriftSeverity`. -/
inductive DriftSeverity
  | low | medium | high | critical
  deriving DecidableEq, Repr

def DriftSeverity.value : DriftSeverity → String
  | .low => "low" | .medium => "medium" | .high => "high" | .critical => "critical"

/-- `DriftType`. -/
inductive DriftType
  | propertyChanged | resourceAdded | resourceRemoved | stateMismatch | tagMismatch
  deriving DecidableEq, Repr

/-- `DriftItem`, with its defaults. -/
structure DriftItem where
  driftType : DriftType
  resourceIdentifier : String
  propertyPath : String := ""
  expectedValue : String := ""
  actualValue : String := ""
  severity : DriftSeverity := .medium
  deriving DecidableEq, Repr

/-- `DriftReport`, with its defaults. Of the entity fields only `id` is kept, which `save`
reads; the timestamps are read by nothing modelled here. -/
structure DriftReport where
  id : String
  deploymentId : String
  scanType : String := "scheduled"
  items : List DriftItem := []
  summary : String := ""
  autoRemediate : Bool := false
  remediationDeploymentId : Option String := none
  deriving DecidableEq, Repr

namespace DriftReport

/-- `has_drift`. -/
def hasDrift (r : DriftReport) : Bool := 0 < r.items.length

/-- The `severity_order` of `max_severity`. -/
def severityOrder : List DriftSeverity := [.critical, .high, .medium, .low]

/-- `max_severity`: LOW without items, else the first severity of `severity_order` that an
item has, or LOW. -/
def maxSeverity (r : DriftReport) : DriftSeverity :=
  if r.items = [] then .low
  else (severityOrder.find? fun severity => r.items.any (·.severity == severity)).getD .low

theorem maxSeverity_eq_critical_iff (r : DriftReport) :
    r.maxSeverity = .critical ↔ ∃ i ∈ r.items, i.severity = .critical := by
  unfold maxSeverity
  split_ifs with h
  · simp [h]
  · by_cases hc : ∃ i ∈ r.items, i.severity = .critical
    · have hany : (r.items.any fun i => i.severity == .critical) = true := by simpa using hc
      simp [severityOrder, List.find?, hany, hc]
    · have hany : (r.items.any fun i => i.severity == .critical) = false := by simpa using hc
      simp only [severityOrder, List.find?, hany, hc, iff_false]
      cases r.items.any (·.severity == .high) <;> cases r.items.any (·.severity == .medium) <;>
        cases r.items.any (·.severity == .low) <;> simp

end DriftReport

/-! ### The simulated detector -/

/-- A resource's state as a dict of text; `{}` is the empty list. -/
abbrev ResourceState := List (String × String)

/-- `SimulatedDriftDetector`: `drift_probability` and `_simulated_states`. -/
structure SimulatedDriftDetector where
  driftProbability : ℚ := 3 / 10
  simulatedStates : String → Option ResourceState := fun _ => none

namespace DriftItem

/-- The item for a resource whose actual state is empty. -/
def removed (r : String) : DriftItem :=
  { driftType := .resourceRemoved, resourceIdentifier := r, severity := .critical }

/-- The item for a resource whose draw fell below `drift_probability`. -/
def propertyChanged (r : String) : DriftItem :=
  { driftType := .propertyChanged, resourceIdentifier := r,
    propertyPath := "properties.instance_type", expectedValue := "t3.medium",
    actualValue := "t3.large", severity := .medium }

end DriftItem

namespace SimulatedDriftDetector

/-- The state `get_current_state` gives a resource with no simulated state. -/
def defaultState (provider : CloudProviderType) : ResourceState :=
  [("status", "running"), ("provider", provider.value)]

/-- `get_current_state`: each resource's simulated state, or the default. A resource listed
twice gets the same value twice, so lookups agree with the dict. -/
def getCurrentState (det : SimulatedDriftDetector) (provider : CloudProviderType)
    (resourceIds : List String) : List (String × ResourceState) :=
  resourceIds.map fun r => (r, (det.simulatedStates r).getD (defaultState provider))

/-- The loop of `detect_drift` over the resources `rs`, with `actual_state.get(r, {})` as
`actual r`: the items it appends, and the count of `random.random()` calls, from the
`n`-th on. -/
def driftItems (det : SimulatedDriftDetector) (random : ℕ → ℚ) (actual : String → ResourceState) :
    List String → ℕ → List DriftItem × ℕ
  | [], n => ([], n)
  | r :: rs, n =>
    if actual r = [] then
      let (items, n') := driftItems det random actual rs n
      (.removed r :: items, n')
    else if random n < det.driftProbability then
      let (items, n') := driftItems det random actual rs (n + 1)
      (.propertyChanged r :: items, n')
    else driftItems det random actual rs (n + 1)

end SimulatedDriftDetector

/-- The summary `detect_drift` writes. -/
def driftSummary (items : List DriftItem) : String :=
  if items = [] then "No drift detected" else "Found " ++ toString items.length ++ " drift items"

/-! ### The service -/

/-- The published `drift.detected` payload. -/
structure DriftDetected where
  deploymentId : String
  driftCount : ℕ
  maxSeverity : String
  deriving DecidableEq, Repr

/-- The deployment store, the drift report store, the publisher's log, and the calls made so
far to `generate_id` and `random.random`. -/
structure DriftState where
  deployments : Store Deployment Deployment.id
  driftReports : Store DriftReport DriftReport.id
  published : List (String × DriftDetected)
  nextId : ℕ
  draws : ℕ

/-- `DriftScanError`, with its message. -/
structure DriftScanError where
  message : String
  deriving DecidableEq, Repr

abbrev DriftM := EStateM DriftScanError DriftState

/-- `DriftDomainService` with its detector, and the outcomes of `generate_id` and of
`random.random()`. -/
structure DriftDomainService where
  env : Env
  random : ℕ → ℚ
  detector : SimulatedDriftDetector

/-- `_build_expected_state`: `state[resource_identifier] = resource_spec` for each step of
the plan, in order. -/
def buildExpectedState (deployment : Deployment) : Store ResourceSpec ResourceSpec.resourceIdentifier :=
  match deployment.plan with
  | none => .empty
  | some plan => plan.steps.foldl (fun state step => state.put step.resourceSpec) .empty

/-- `detect_drift`: the current state of the expected resources on AWS, the loop, and a new
report. -/
def SimulatedDriftDetector.detectDrift (det : SimulatedDriftDetector) (env : Env)
    (random : ℕ → ℚ) (deploymentId : String)
    (expectedState : Store ResourceSpec ResourceSpec.resourceIdentifier) : DriftM DriftReport :=
  fun s =>
    let resourceIds := expectedState.items.map ResourceSpec.resourceIdentifier
    let actualState := det.getCurrentState .aws resourceIds
    let (items, n) := det.driftItems random (fun r => (actualState.lookup r).getD []) resourceIds s.draws
    .ok { id := env.generateId s.nextId, deploymentId := deploymentId, items := items,
          summary := driftSummary items }
      { s with nextId := s.nextId + 1, draws := n }

namespace DriftM

def getDeployment (deploymentId : String) : DriftM (Option Deployment) := fun s =>
  .ok (s.deployments.getById deploymentId) s

/-- `save` of the drift report repository. -/
def saveReport (report : DriftReport) : DriftM DriftReport := fun s =>
  .ok report { s with driftReports := s.driftReports.put report }

def publish (eventType : String) (payload : DriftDetected) : DriftM Unit := fun s =>
  .ok () { s with published := s.published ++ [(eventType, payload)] }

end DriftM

/-- `scan_deployment`. -/
def DriftDomainService.scanDeployment (svc : DriftDomainService) (deploymentId : String) :
    DriftM DriftReport := do
  let some deployment ← DriftM.getDeployment deploymentId
    | throw ⟨"Deployment " ++ deploymentId ++ " not found"⟩
  let expectedState := buildExpectedState deployment
  let report ← svc.detector.detectDrift svc.env svc.random deploymentId expectedState
  let report ← DriftM.saveReport report
  if report.hasDrift then
    DriftM.publish "drift.detected" ⟨deploymentId, report.items.length, report.maxSeverity.value⟩
  pure report

/-! ### The detector's loop -/

/-- What the loop of `detect_drift` produces for the resources `rs`. -/
structure ItemsFor (actual : String → ResourceState) (rs : List String) (items : List DriftItem) :
    Prop where
  /-- The items name resources of `rs`, in order, each at most as often as `rs` lists it. -/
  sublist : List.Sublist (items.map (·.resourceIdentifier)) rs
  /-- Each item is RESOURCE_REMOVED for an empty state, or PROPERTY_CHANGED for another. -/
  item_cases : ∀ i ∈ items, (i = .removed i.resourceIdentifier ∧ actual i.resourceIdentifier = []) ∨
    (i = .propertyChanged i.resourceIdentifier ∧ actual i.resourceIdentifier ≠ [])
  /-- Every resource with an empty state has its RESOURCE_REMOVED item. -/
  removed_mem : ∀ r ∈ rs, actual r = [] → DriftItem.removed r ∈ items

namespace ItemsFor

variable {actual : String → ResourceState} {r : String} {rs : List String} {items : List DriftItem}

theorem nil : ItemsFor actual [] [] := ⟨.slnil, by simp, by simp⟩

theorem cons_removed (h : ItemsFor actual rs items) (hr : actual r = []) :
    ItemsFor actual (r :: rs) (.removed r :: items) where
  sublist := h.sublist.cons₂ r
  item_cases i hi := by
    rcases List.mem_cons.mp hi with rfl | hi
    · exact .inl ⟨rfl, hr⟩
    · exact h.item_cases i hi
  removed_mem r' hr' he := by
    rcases List.mem_cons.mp hr' with rfl | hr'
    · exact List.mem_cons_self _ _
    · exact List.mem_cons_of_mem _ (h.removed_mem r' hr' he)

theorem cons_changed (h : ItemsFor actual rs items) (hr : actual r ≠ []) :
    ItemsFor actual (r :: rs) (.propertyChanged r :: items) where
  sublist := h.sublist.cons₂ r
  item_cases i hi := by
    rcases List.mem_cons.mp hi with rfl | hi
    · exact .inr ⟨rfl, hr⟩
    · exact h.item_cases i hi
  removed_mem r' hr' he := by
    rcases List.mem_cons.mp hr' with rfl | hr'
    · exact absurd he hr
    · exact List.mem_cons_of_mem _ (h.removed_mem r' hr' he)

theorem skip (h : ItemsFor actual rs items) (hr : actual r ≠ []) : ItemsFor actual (r :: rs) items where
  sublist := h.sublist.cons r
  item_cases := h.item_cases
  removed_mem r' hr' he := by
    rcases List.mem_cons.mp hr' with rfl | hr'
    · exact absurd he hr
    · exact h.removed_mem r' hr' he

/-- Over resources listed once, an identifier is named by at most one item. -/
theorem length_filter_le_one (h : ItemsFor actual rs items) (hrs : rs.Nodup) (k : String) :
    (items.filter fun i => i.resourceIdentifier = k).length ≤ 1 := by
  set named := items.filter fun i => i.resourceIdentifier = k
  have hnd : (named.map (·.resourceIdentifier)).Nodup :=
    ((List.filter_sublist items).map _).nodup (h.sublist.nodup hrs)
  have hall : ∀ x ∈ named.map (·.resourceIdentifier), k = x := by
    simp only [named, List.mem_map, List.mem_filter, decide_eq_true_eq]
    rintro x ⟨i, ⟨-, rfl⟩, rfl⟩
    rfl
  calc named.length = (named.map (·.resourceIdentifier)).length := (List.length_map _ _).symm
    _ = (named.map (·.resourceIdentifier)).count k := (List.count_eq_length.mpr hall).symm
    _ ≤ 1 := List.nodup_iff_count_le_one.mp hnd k

end ItemsFor

/-- **The loop, for every outcome of the draws.** -/
theorem SimulatedDriftDetector.itemsFor_driftItems (det : SimulatedDriftDetector) (random : ℕ → ℚ)
    (actual : String → ResourceState) (rs : List String) (n : ℕ) :
    ItemsFor actual rs (det.driftItems random actual rs n).1 := by
  induction rs generalizing n with
  | nil => exact .nil
  | cons r rs ih =>
    unfold driftItems
    split_ifs with hr hdraw
    · exact (ih n).cons_removed hr
    · exact (ih (n + 1)).cons_changed hr
    · exact (ih (n + 1)).skip hr

/-- A listed resource's current state: the simulated one, or the default. -/
theorem SimulatedDriftDetector.lookup_getCurrentState (det : SimulatedDriftDetector)
    (provider : CloudProviderType) {resourceIds : List String} {r : String} (hr : r ∈ resourceIds) :
    (det.getCurrentState provider resourceIds).lookup r =
      some ((det.simulatedStates r).getD (defaultState provider)) := by
  induction resourceIds with
  | nil => cases hr
  | cons r' rs ih =>
    by_cases h : r = r'
    · subst h
      simp [getCurrentState]
    · simp only [getCurrentState, List.map_cons, List.lookup_cons, beq_false_of_ne h] at ih ⊢
      exact ih ((List.mem_cons.mp hr).resolve_left h)

/-- A listed resource's state is empty exactly when its simulated state is `{}`: the
default never is. -/
theorem SimulatedDriftDetector.lookup_getCurrentState_eq_nil_iff (det : SimulatedDriftDetector)
    (provider : CloudProviderType) {resourceIds : List String} {r : String} (hr : r ∈ resourceIds) :
    ((det.getCurrentState provider resourceIds).lookup r).getD [] = [] ↔ det.simulatedStates r = some [] := by
  rw [det.lookup_getCurrentState provider hr]
  cases det.simulatedStates r <;> simp [defaultState]

/-- The expected state's keys are the identifiers of the plan's steps. -/
theorem mem_keys_buildExpectedState {d : Deployment} {p : ExecutionPlan} (hp : d.plan = some p)
    (r : String) : r ∈ (buildExpectedState d).items.map ResourceSpec.resourceIdentifier ↔
      r ∈ p.steps.map (·.resourceSpec.resourceIdentifier) := by
  rw [buildExpectedState, hp]
  dsimp only
  rw [Store.mem_keys_foldl_put fun step : ExecutionStep => step.resourceSpec]
  simp [Store.empty]

namespace DriftDomainService

/-- **`scan_deployment` of a stored deployment**: the report of the loop over the expected
state's keys, saved, and `drift.detected` published when it has items. -/
theorem scanDeployment_eq (svc : DriftDomainService) (s : DriftState) {k : String} {d : Deployment}
    (hd : s.deployments.getById k = some d) :
    let ids := (buildExpectedState d).items.map ResourceSpec.resourceIdentifier
    let loop := svc.detector.driftItems svc.random
      (fun r => ((svc.detector.getCurrentState .aws ids).lookup r).getD []) ids s.draws
    let report : DriftReport :=
      { id := svc.env.generateId s.nextId, deploymentId := k, items := loop.1,
        summary := driftSummary loop.1 }
    svc.scanDeployment k s = .ok report
      { s with nextId := s.nextId + 1, draws := loop.2, driftReports := s.driftReports.put report,
               published := s.published ++ if report.hasDrift then
                 [("drift.detected", ⟨k, report.items.length, report.maxSeverity.value⟩)] else [] } := by
  intro ids loop report
  simp only [scanDeployment, bind, EStateM.bind, DriftM.getDeployment, hd,
    SimulatedDriftDetector.detectDrift, DriftM.saveReport]
  split_ifs
  · rfl
  · rw [List.append_nil]
    rfl

/-- A scan of an id with no stored deployment raises, and changes nothing. -/
theorem scanDeployment_of_getById_eq_none (svc : DriftDomainService) (s : DriftState) {k : String}
    (hd : s.deployments.getById k = none) :
    svc.scanDeployment k s = .error ⟨"Deployment " ++ k ++ " not found"⟩ s := by
  simp only [scanDeployment, bind, EStateM.bind, DriftM.getDeployment, hd]
  rfl

/-- **A scan's report and what it publishes**, for every plan, every simulated-state map and
every outcome of the draws: at most one item names an identifier; a step's identifier has a
RESOURCE_REMOVED item, CRITICAL, exactly when its simulated state is `{}`; every item names a
step's identifier; `drift.detected` is published exactly when there are items, with their
count; and the maximal severity is CRITICAL exactly when a resource was removed. -/
theorem scanDeployment_report (svc : DriftDomainService) (s : DriftState) (d : Deployment)
    (p : ExecutionPlan) (hd : s.deployments.getById d.id = some d) (hp : d.plan = some p) :
    ∃ report s', svc.scanDeployment d.id s = .ok report s' ∧
      (∀ k, (report.items.filter fun i => i.resourceIdentifier = k).length ≤ 1) ∧
      (∀ k ∈ p.steps.map (·.resourceSpec.resourceIdentifier),
        (∃ i ∈ report.items, i.resourceIdentifier = k ∧ i.driftType = .resourceRemoved ∧
          i.severity = .critical) ↔ svc.detector.simulatedStates k = some []) ∧
      (∀ i ∈ report.items, i.resourceIdentifier ∈ p.steps.map (·.resourceSpec.resourceIdentifier)) ∧
      s'.published = s.published ++ (if report.items = [] then [] else
        [("drift.detected", ⟨d.id, report.items.length, report.maxSeverity.value⟩)]) ∧
      (report.maxSeverity = .critical ↔ ∃ i ∈ report.items, i.driftType = .resourceRemoved) := by
  have hscan := svc.scanDeployment_eq s hd
  set ids := (buildExpectedState d).items.map ResourceSpec.resourceIdentifier
  set actual := fun r => ((svc.detector.getCurrentState .aws ids).lookup r).getD []
  set items := (svc.detector.driftItems svc.random actual ids s.draws).1
  have hfor : ItemsFor actual ids items := svc.detector.itemsFor_driftItems svc.random actual ids s.draws
  have hcrit : ∀ i ∈ items, i.severity = .critical ↔ i.driftType = .resourceRemoved := by
    intro i hi
    rcases hfor.item_cases i hi with ⟨he, -⟩ | ⟨he, -⟩ <;> rw [he] <;>
      simp [DriftItem.removed, DriftItem.propertyChanged]
  refine ⟨_, _, hscan, hfor.length_filter_le_one (buildExpectedState d).keys_nodup, fun k hk => ?_,
    fun i hi => (mem_keys_buildExpectedState hp _).mp (hfor.sublist.subset (List.mem_map_of_mem _ hi)),
    ?_, ?_⟩
  · have hk' := (mem_keys_buildExpectedState hp k).mpr hk
    rw [← svc.detector.lookup_getCurrentState_eq_nil_iff .aws hk']
    constructor
    · rintro ⟨i, hi, rfl, htype, -⟩
      rcases hfor.item_cases i hi with ⟨-, he⟩ | ⟨he, -⟩
      · exact he
      · rw [he] at htype
        cases htype
    · exact fun he => ⟨_, hfor.removed_mem k hk' he, rfl, rfl, rfl⟩
  · by_cases h : items = [] <;> simp [DriftReport.hasDrift, h, List.length_pos]
  · rw [DriftReport.maxSeverity_eq_critical_iff]
    exact exists_congr fun i => and_congr_right (hcrit i)

/-- Two steps on one VPC, and a database whose simulated state is `{}`. -/
theorem scanDeployment_report_shared_identifier :
    let vpc : ResourceSpec :=
      { resourceType := .network, provider := .aws, region := "us-east-1", name := "vpc" }
    let db : ResourceSpec :=
      { resourceType := .database, provider := .aws, region := "us-east-1", name := "db" }
    let step (i : String) (r : ResourceSpec) : ExecutionStep :=
      { stepId := i, name := i, description := "", provider := .aws, resourceSpec := r,
        terraformAction := "create", idempotencyKey := i }
    let p : ExecutionPlan := { planId := "p1", steps := [step "s1" vpc, step "s2" vpc, step "s3" db] }
    let d : Deployment :=
      { id := "d1", name := "deploy-staging-aws", intent := { targetProviders := [.aws] }, plan := some p }
    let s : DriftState := ⟨⟨[d], by decide⟩, .empty, [], 0, 0⟩
    let svc : DriftDomainService :=
      ⟨⟨fun _ => "r1", fun n => n⟩, fun _ => 0,
        { simulatedStates := fun r => if r = db.resourceIdentifier then some [] else none }⟩
    (s.deployments.getById d.id = some d ∧ d.plan = some p) ∧
    ∃ report s', svc.scanDeployment d.id s = .ok report s' ∧
      (∀ k, (report.items.filter fun i => i.resourceIdentifier = k).length ≤ 1) ∧
      (∀ k ∈ p.steps.map (·.resourceSpec.resourceIdentifier),
        (∃ i ∈ report.items, i.resourceIdentifier = k ∧ i.driftType = .resourceRemoved ∧
          i.severity = .critical) ↔ svc.detector.simulatedStates k = some []) ∧
      (∀ i ∈ report.items, i.resourceIdentifier ∈ p.steps.map (·.resourceSpec.resourceIdentifier)) ∧
      s'.published = s.published ++ (if report.items = [] then [] else
        [("drift.detected", ⟨d.id, report.items.length, report.maxSeverity.value⟩)]) ∧
      (report.maxSeverity = .critical ↔ ∃ i ∈ report.items, i.driftType = .resourceRemoved) := by
  intro vpc db step p d s svc
  have hd : s.deployments.getById d.id = some d := rfl
  exact ⟨⟨hd, rfl⟩, scanDeployment_report svc s d p hd rfl⟩

end DriftDomainService

end Orchestrator
