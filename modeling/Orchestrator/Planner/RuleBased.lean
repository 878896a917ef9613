/-
# The rule-based planner

`infrastructure/ai/planning_engine.py`, `RuleBasedPlanningEngine`. `generate_plan` makes a
`create` step per resource of the intent, sorted stably by `RESOURCE_PRIORITY`, or, for an
intent without resources, a network step and a compute step depending on it per target
provider; `_resolve_dependencies` then adds to each step the step ids of the resources it
depends on. Every `ExecutionStep` draws two ids (`step_id`, then `idempotency_key`) and the
plan one more: `generate_id` is `generateId` applied to a counter, which the planner starts
at `n` and returns advanced.

The resolved dependencies follow the resources' dependency graph over identifiers
(`identifierDependsOn_of_precedes`). So when that graph has no cycle and the ids are fresh,
the plan is one `get_execution_order` is meant for (`stepsAcyclic_generatePlan`), and its
waves are those of a dependency order (`executionOrder_generatePlan`).

Key definitions: `RuleBasedPlanningEngine.generatePlan`,
`RuleBasedPlanningEngine.resolveDependencies`, `RuleBasedPlanningEngine.validatePlan`,
`IdentifierDependsOn`.
Key theorems: `RuleBasedPlanningEngine.identifierDependsOn_of_precedes`,
`RuleBasedPlanningEngine.stepsAcyclic_generatePlan`,
`RuleBasedPlanningEngine.executionOrder_generatePlan`.
-/
import Orchestrator.Planner.Waves
import Mathlib.Data.List.Sort
import Mathlib.Algebra.Ring.Int.Defs

namespace Orchestrator

namespace RuleBasedPlanningEngine

/-- `RESOURCE_PRIORITY`; it names every resource type, so `.get(t, 99)` never falls
back. -/
def resourcePriority : ResourceType → ℕ
  | .network => 1 | .dns => 2 | .storage => 3 | .database => 4 | .cache => 5 | .queue => 6
  | .compute => 7 | .container => 8 | .serverless => 9 | .loadBalancer => 10 | .cdn => 11

/-- `_estimate_step_duration`. -/
def estimateStepDuration (resource : ResourceSpec) : ℤ :=
  match resource.resourceType with
  | .network => 30 | .compute => 60 | .database => 120 | .container => 90 | .storage => 15
  | .serverless => 30 | .loadBalancer => 45 | .cache => 60 | _ => 60

/-- The step `_create_steps_from_resources` makes for one resource. -/
def resourceStep (stepId idempotencyKey : String) (resource : ResourceSpec) :
    ExecutionStep where
  stepId := stepId
  name := "deploy-" ++ resource.name
  description := "Deploy " ++ resource.resourceType.value ++ " resource \x27" ++
    resource.name ++ "\x27 on " ++ resource.provider.value
  provider := resource.provider
  resourceSpec := resource
  terraformAction := "create"
  estimatedDurationSeconds := estimateStepDuration resource
  idempotencyKey := idempotencyKey

/-- The list comprehension of `_create_steps_from_resources`, drawing ids from `n` on. -/
def stepsFromResources (generateId : ℕ → String) : ℕ → List ResourceSpec → List ExecutionStep
  | _, [] => []
  | n, r :: rs => resourceStep (generateId n) (generateId (n + 1)) r ::
      stepsFromResources generateId (n + 2) rs

/-- `_create_steps_from_resources`: `sorted` is a stable sort, as `insertionSort` is, so the
two give the same list. -/
def createStepsFromResources (generateId : ℕ → String) (n : ℕ) (intent : DeploymentIntent) :
    List ExecutionStep :=
  stepsFromResources generateId n <| intent.resources.insertionSort fun a b =>
    resourcePriority a.resourceType ≤ resourcePriority b.resourceType

/-- `intent.target_regions[0] if intent.target_regions else "us-east-1"`. -/
def defaultRegion (intent : DeploymentIntent) : String :=
  intent.targetRegions.head?.getD "us-east-1"

def networkSpec (intent : DeploymentIntent) (provider : CloudProviderType) : ResourceSpec where
  resourceType := .network
  provider := provider
  region := defaultRegion intent
  name := intent.environment ++ "-vpc"
  properties := [("cidr_block", "10.0.0.0/16")]
  tags := [("environment", intent.environment)]

def computeSpec (intent : DeploymentIntent) (provider : CloudProviderType) : ResourceSpec where
  resourceType := .compute
  provider := provider
  region := defaultRegion intent
  name := intent.environment ++ "-app"
  properties := [("instance_type", "t3.medium")]
  tags := [("environment", intent.environment)]
  dependencies := [(networkSpec intent provider).resourceIdentifier]

/-- The loop of `_create_default_steps`, drawing ids from `n` on. -/
def defaultSteps (generateId : ℕ → String) (intent : DeploymentIntent) :
    ℕ → List CloudProviderType → List ExecutionStep
  | _, [] => []
  | n, p :: ps =>
    { stepId := generateId n
      name := "create-network-" ++ p.value
      description := "Create VPC/VNet on " ++ p.value
      provider := p
      resourceSpec := networkSpec intent p
      terraformAction := "create"
      estimatedDurationSeconds := 30
      idempotencyKey := generateId (n + 1) } ::
    { stepId := generateId (n + 2)
      name := "create-compute-" ++ p.value
      description := "Create compute instance on " ++ p.value
      provider := p
      resourceSpec := computeSpec intent p
      terraformAction := "create"
      estimatedDurationSeconds := 60
      dependencies := [generateId n]
      idempotencyKey := generateId (n + 3) } ::
    defaultSteps generateId intent (n + 4) ps

/-- `_create_default_steps`. -/
def createDefaultSteps (generateId : ℕ → String) (n : ℕ) (intent : DeploymentIntent) :
    List ExecutionStep :=
  defaultSteps generateId intent n intent.targetProviders

/-- `resource_to_step[step.resource_spec.resource_identifier] = step.step_id`, the dict as
a function. -/
def assignStep (resourceToStep : String → Option String) (step : ExecutionStep) :
    String → Option String := fun k =>
  if k = step.resourceSpec.resourceIdentifier then some step.stepId else resourceToStep k

/-- `resource_to_step` after its loop. -/
def resourceToStep (steps : List ExecutionStep) : String → Option String :=
  steps.foldl assignStep fun _ => none

/-- The inner loop of `_resolve_dependencies`: append each resolved step id that is
non-empty and not yet listed. -/
def appendResolved (resourceToStep : String → Option String) :
    List String → List String → List String
  | newDeps, [] => newDeps
  | newDeps, depResource :: rest =>
    match resourceToStep depResource with
    | some depStepId =>
      if depStepId ≠ "" ∧ depStepId ∉ newDeps then
        appendResolved resourceToStep (newDeps ++ [depStepId]) rest
      else appendResolved resourceToStep newDeps rest
    | none => appendResolved resourceToStep newDeps rest

/-- The body of `_resolve_dependencies`' outer loop for one step; a step whose list did
not change is written back as it was. -/
def resolveStep (resourceToStep : String → Option String) (step : ExecutionStep) :
    ExecutionStep :=
  { step with
    dependencies := appendResolved resourceToStep step.dependencies step.resourceSpec.dependencies }

/-- `_resolve_dependencies`. -/
def resolveDependencies (steps : List ExecutionStep) : List ExecutionStep :=
  steps.map (resolveStep (resourceToStep steps))

/-- `_assess_risk`. -/
def assessRisk (intent : DeploymentIntent) (steps : List ExecutionStep) : String :=
  if intent.environment = "production" then "high"
  else if intent.targetProviders.length > 1 then "medium"
  else if steps.length > 10 then "medium"
  else "low"

/-- `_generate_reasoning`. -/
def generateReasoning (intent : DeploymentIntent) (steps : List ExecutionStep) : String :=
  "Generated " ++ toString steps.length ++ " execution steps for deployment to " ++
    ", ".intercalate (intent.targetProviders.map (·.value)) ++ " using " ++
    intent.strategy.value ++ " strategy in " ++ intent.environment ++
    " environment. Risk assessment: " ++ assessRisk intent steps ++ "."

/-- The steps before `_resolve_dependencies`, and the counter after drawing their ids. -/
def initialSteps (generateId : ℕ → String) (n : ℕ) (intent : DeploymentIntent) :
    List ExecutionStep × ℕ :=
  if createStepsFromResources generateId n intent = [] then
    (createDefaultSteps generateId n intent, n + 4 * intent.targetProviders.length)
  else (createStepsFromResources generateId n intent, n + 2 * intent.resources.length)

/-- `generate_plan(intent)`, with the counter after the plan's own id. -/
def generatePlan (generateId : ℕ → String) (n : ℕ) (intent : DeploymentIntent) :
    ExecutionPlan × ℕ :=
  let steps := resolveDependencies (initialSteps generateId n intent).1
  let m := (initialSteps generateId n intent).2
  ({ planId := generateId m
     steps := steps
     estimatedTotalDurationSeconds := (steps.map (·.estimatedDurationSeconds)).sum
     riskAssessment := assessRisk intent steps
     reasoning := generateReasoning intent steps }, m + 1)

/-- `validate_plan(plan)`: the verdict and the errors. -/
def validatePlan (plan : ExecutionPlan) : Bool × List String :=
  let errors := (if plan.steps = [] then ["Plan has no execution steps"] else []) ++
    plan.steps.flatMap fun step =>
      (step.dependencies.filter (· ∉ plan.steps.map (·.stepId))).map fun dep =>
        "Step " ++ step.name ++ " depends on non-existent step " ++ dep
  (errors.isEmpty, errors)

/-! ### Ids drawn by the planner -/

/-- The ids an `ExecutionStep` draws, in the order of its fields. -/
def drawnIds (s : ExecutionStep) : List String := [s.stepId, s.idempotencyKey]

variable {generateId : ℕ → String}

theorem drawnIds_stepsFromResources (generateId : ℕ → String) :
    ∀ (n : ℕ) (rs : List ResourceSpec), (stepsFromResources generateId n rs).flatMap drawnIds =
      (List.range' n (2 * rs.length)).map generateId
  | _, [] => rfl
  | n, r :: rs => by
    rw [stepsFromResources, List.flatMap_cons, drawnIds_stepsFromResources generateId (n + 2),
      show 2 * (r :: rs).length = 2 * rs.length + 1 + 1 by simp; omega, List.range'_succ,
      List.range'_succ]
    rfl

theorem drawnIds_defaultSteps (generateId : ℕ → String) (intent : DeploymentIntent) :
    ∀ (n : ℕ) (ps : List CloudProviderType), (defaultSteps generateId intent n ps).flatMap
      drawnIds = (List.range' n (4 * ps.length)).map generateId
  | _, [] => rfl
  | n, p :: ps => by
    rw [defaultSteps, List.flatMap_cons, List.flatMap_cons,
      drawnIds_defaultSteps generateId intent (n + 4),
      show 4 * (p :: ps).length = 4 * ps.length + 1 + 1 + 1 + 1 by simp; omega]
    simp only [List.range'_succ, List.map_cons]
    rfl

/-- Fresh ids make every drawn id distinct. -/
theorem nodup_range'_map (hg : Function.Injective generateId) (n k : ℕ) :
    ((List.range' n k).map generateId).Nodup :=
  (List.nodup_range' n k).map hg

/-- A field holding one of a step's drawn ids is distinct across steps whose drawn ids are. -/
theorem nodup_map_of_drawnIds {steps : List ExecutionStep} (f : ExecutionStep → String)
    (hf : ∀ s, f s ∈ drawnIds s) (h : (steps.flatMap drawnIds).Nodup) : (steps.map f).Nodup := by
  rw [List.nodup_flatMap] at h
  rw [List.Nodup, List.pairwise_map]
  exact h.2.imp fun {a b} hd heq => hd (hf a) (by rw [heq]; exact hf b)

theorem nodup_stepId_of_drawnIds {steps : List ExecutionStep}
    (h : (steps.flatMap drawnIds).Nodup) : (steps.map (·.stepId)).Nodup :=
  nodup_map_of_drawnIds _ (fun _ => List.mem_cons_self _ _) h

/-! ### Resolution -/

theorem foldl_assignStep_eq_some {k d : String} : ∀ (steps : List ExecutionStep)
    (m : String → Option String), steps.foldl assignStep m k = some d →
      m k = some d ∨ ∃ t ∈ steps, t.resourceSpec.resourceIdentifier = k ∧ t.stepId = d
  | [], _, h => .inl h
  | s :: ss, m, h => by
    rcases foldl_assignStep_eq_some ss _ h with h | ⟨t, ht, h⟩
    · unfold assignStep at h
      split_ifs at h with hk
      · exact .inr ⟨s, List.mem_cons_self _ _, hk.symm, Option.some.inj h⟩
      · exact .inl h
    · exact .inr ⟨t, List.mem_cons_of_mem _ ht, h⟩

/-- A resolved id is the id of a step holding the identifier. -/
theorem resourceToStep_eq_some {steps : List ExecutionStep} {k d : String}
    (h : resourceToStep steps k = some d) :
    ∃ t ∈ steps, t.resourceSpec.resourceIdentifier = k ∧ t.stepId = d :=
  (foldl_assignStep_eq_some steps _ h).resolve_left nofun

/-- The inner loop adds only ids that some resource dependency resolves to. -/
theorem mem_appendResolved {f : String → Option String} {d : String} :
    ∀ {newDeps rs : List String}, d ∈ appendResolved f newDeps rs →
      d ∈ newDeps ∨ ∃ r ∈ rs, f r = some d
  | _, [], h => .inl h
  | newDeps, r :: rs, h => by
    have step : ∀ {l : List String}, d ∈ appendResolved f l rs → (d ∈ l → d ∈ newDeps ∨
        ∃ r' ∈ r :: rs, f r' = some d) → d ∈ newDeps ∨ ∃ r' ∈ r :: rs, f r' = some d :=
      fun h hl => (mem_appendResolved h).elim hl
        fun ⟨r', hr', h'⟩ => .inr ⟨r', List.mem_cons_of_mem _ hr', h'⟩
    rw [appendResolved] at h
    split at h
    · split_ifs at h
      · refine step h fun hd => (List.mem_append.mp hd).imp id fun hd => ?_
        exact ⟨r, List.mem_cons_self _ _, by rw [List.mem_singleton.mp hd]; assumption⟩
      · exact step h .inl
    · exact step h .inl

/-- What `_resolve_dependencies` relies on in the steps it is given: distinct ids, and every
dependency already listed is the id of a step whose identifier the step's resource depends
on. -/
structure ResolvableSteps (steps : List ExecutionStep) : Prop where
  ids_nodup : (steps.map (·.stepId)).Nodup
  listed_deps : ∀ s ∈ steps, ∀ d ∈ s.dependencies, ∃ t ∈ steps,
    t.stepId = d ∧ t.resourceSpec.resourceIdentifier ∈ s.resourceSpec.dependencies

variable {S : List ExecutionStep}

@[simp] theorem resolveStep_stepId (f : String → Option String) (s : ExecutionStep) :
    (resolveStep f s).stepId = s.stepId := rfl

@[simp] theorem resolveStep_resourceSpec (f : String → Option String) (s : ExecutionStep) :
    (resolveStep f s).resourceSpec = s.resourceSpec := rfl

@[simp] theorem resolveStep_dependencies (f : String → Option String) (s : ExecutionStep) :
    (resolveStep f s).dependencies =
      appendResolved f s.dependencies s.resourceSpec.dependencies := rfl

theorem stepId_resolveDependencies :
    (resolveDependencies S).map (·.stepId) = S.map (·.stepId) := by
  simp [resolveDependencies]

theorem drawnIds_resolveDependencies :
    (resolveDependencies S).flatMap drawnIds = S.flatMap drawnIds := by
  simp only [resolveDependencies, List.flatMap_map]
  rfl

/-- **Every resolved dependency follows the resource graph**: it is the id of a step whose
identifier the step's resource depends on. -/
theorem dep_resolveDependencies (hS : ResolvableSteps S) {s₀ : ExecutionStep} (hs : s₀ ∈ S)
    {d : String} (hd : d ∈ appendResolved (resourceToStep S) s₀.dependencies
      s₀.resourceSpec.dependencies) :
    ∃ t ∈ S, t.stepId = d ∧ t.resourceSpec.resourceIdentifier ∈ s₀.resourceSpec.dependencies := by
  rcases mem_appendResolved hd with hd | ⟨r, hr, hrd⟩
  · exact hS.listed_deps s₀ hs d hd
  · obtain ⟨t, ht, rfl, rfl⟩ := resourceToStep_eq_some hrd
    exact ⟨t, ht, rfl, hr⟩

end RuleBasedPlanningEngine

/-- The resources' dependency graph over identifiers: an edge from a resource's identifier
to each identifier in its dependencies. -/
def IdentifierDependsOn (resources : List ResourceSpec) (a b : String) : Prop :=
  ∃ r ∈ resources, r.resourceIdentifier = a ∧ b ∈ r.dependencies

theorem IdentifierDependsOn.mono {rs rs' : List ResourceSpec} (h : rs ⊆ rs') {a b : String} :
    IdentifierDependsOn rs a b → IdentifierDependsOn rs' a b
  | ⟨r, hr, hra, hb⟩ => ⟨r, h hr, hra, hb⟩

namespace RuleBasedPlanningEngine

variable {S : List ExecutionStep}

/-- A dependency between resolved steps is an edge of their resources' graph. -/
theorem identifierDependsOn_of_precedes (hS : ResolvableSteps S) {s t : ExecutionStep}
    (h : Precedes (resolveDependencies S) t s) :
    IdentifierDependsOn (S.map (·.resourceSpec)) s.resourceSpec.resourceIdentifier
      t.resourceSpec.resourceIdentifier := by
  obtain ⟨ht, hs, hd⟩ := h
  obtain ⟨s₀, hs₀, rfl⟩ := List.mem_map.mp hs
  obtain ⟨t₀, ht₀, rfl⟩ := List.mem_map.mp ht
  obtain ⟨u, hu, hut, hdep⟩ := dep_resolveDependencies hS hs₀ hd
  obtain rfl : u = t₀ := List.inj_on_of_nodup_map hS.ids_nodup hu ht₀ hut
  exact ⟨s₀.resourceSpec, List.mem_map_of_mem _ hs₀, rfl, hdep⟩

/-- **Resolution keeps the resource graph's acyclicity.** -/
theorem stepsAcyclic_resolveDependencies (hS : ResolvableSteps S)
    (hacyc : ∀ x, ¬ Relation.TransGen (IdentifierDependsOn (S.map (·.resourceSpec))) x x) :
    StepsAcyclic (resolveDependencies S) where
  ids_nodup := by rw [stepId_resolveDependencies]; exact hS.ids_nodup
  deps_closed := by
    intro s hs d hd
    obtain ⟨s₀, hs₀, rfl⟩ := List.mem_map.mp hs
    obtain ⟨t, ht, rfl, -⟩ := dep_resolveDependencies hS hs₀ hd
    exact ⟨_, List.mem_map_of_mem _ ht, rfl⟩
  acyclic s hcyc := hacyc _ <| Relation.transGen_swap.mp <|
    hcyc.lift _ fun _ _ h => identifierDependsOn_of_precedes hS h

/-! ### The steps `generate_plan` starts from -/

theorem mem_stepsFromResources {n : ℕ} {rs : List ResourceSpec} {s : ExecutionStep}
    (hs : s ∈ stepsFromResources generateId n rs) : s.dependencies = [] := by
  induction rs generalizing n with
  | nil => cases hs
  | cons r rs ih =>
    rcases List.mem_cons.mp hs with rfl | hs
    · rfl
    · exact ih hs

theorem resourceSpec_stepsFromResources (generateId : ℕ → String) :
    ∀ (n : ℕ) (rs : List ResourceSpec),
      (stepsFromResources generateId n rs).map (·.resourceSpec) = rs
  | _, [] => rfl
  | n, r :: rs => congrArg (r :: ·) (resourceSpec_stepsFromResources generateId (n + 2) rs)

theorem resolvable_stepsFromResources (hg : Function.Injective generateId) (n : ℕ)
    (rs : List ResourceSpec) : ResolvableSteps (stepsFromResources generateId n rs) where
  ids_nodup := nodup_stepId_of_drawnIds <|
    drawnIds_stepsFromResources generateId n rs ▸ nodup_range'_map hg _ _
  listed_deps s hs d hd := by simp [mem_stepsFromResources hs] at hd

/-- A step of `_create_default_steps` is a network step without dependencies, or a compute
step depending on the network step of its provider. -/
theorem mem_defaultSteps {intent : DeploymentIntent} {n : ℕ} {ps : List CloudProviderType}
    {s : ExecutionStep} (hs : s ∈ defaultSteps generateId intent n ps) : ∃ p,
      (s.resourceSpec = networkSpec intent p ∧ s.dependencies = []) ∨
      (s.resourceSpec = computeSpec intent p ∧ ∃ t ∈ defaultSteps generateId intent n ps,
        t.resourceSpec = networkSpec intent p ∧ s.dependencies = [t.stepId]) := by
  induction ps generalizing n with
  | nil => cases hs
  | cons p ps ih =>
    rw [defaultSteps] at hs ⊢
    rcases List.mem_cons.mp hs with rfl | hs
    · exact ⟨p, .inl ⟨rfl, rfl⟩⟩
    rcases List.mem_cons.mp hs with rfl | hs
    · exact ⟨p, .inr ⟨rfl, _, List.mem_cons_self _ _, rfl, rfl⟩⟩
    obtain ⟨q, h | ⟨hspec, t, ht, h⟩⟩ := ih hs
    · exact ⟨q, .inl h⟩
    · exact ⟨q, .inr ⟨hspec, t, List.mem_cons_of_mem _ (List.mem_cons_of_mem _ ht), h⟩⟩

theorem resolvable_defaultSteps (hg : Function.Injective generateId) (intent : DeploymentIntent)
    (n : ℕ) (ps : List CloudProviderType) : ResolvableSteps (defaultSteps generateId intent n ps) where
  ids_nodup := nodup_stepId_of_drawnIds <|
    drawnIds_defaultSteps generateId intent n ps ▸ nodup_range'_map hg _ _
  listed_deps s hs d hd := by
    obtain ⟨p, ⟨-, hdeps⟩ | ⟨hspec, t, ht, htspec, hdeps⟩⟩ := mem_defaultSteps hs
    · simp [hdeps] at hd
    · rw [hdeps, List.mem_singleton] at hd
      exact ⟨t, ht, hd.symm, by simp [hspec, htspec, computeSpec]⟩

/-- A compute identifier is never a network identifier: the two names end differently. -/
theorem computeSpec_ne_networkSpec (intent : DeploymentIntent) (p q : CloudProviderType) :
    (computeSpec intent q).resourceIdentifier ≠ (networkSpec intent p).resourceIdentifier := by
  intro h
  have := congrArg (fun s : String => s.data.reverse.head?) h
  simp [ResourceSpec.resourceIdentifier, computeSpec, networkSpec] at this

/-- In the default steps' graph every edge goes from a compute identifier to a network
identifier, so there is no cycle. -/
theorem acyclic_defaultSteps (intent : DeploymentIntent) (n : ℕ) (ps : List CloudProviderType)
    (x : String) : ¬ Relation.TransGen (IdentifierDependsOn
      ((defaultSteps generateId intent n ps).map (·.resourceSpec))) x x := by
  have edge : ∀ {a b}, IdentifierDependsOn
      ((defaultSteps generateId intent n ps).map (·.resourceSpec)) a b →
      (∃ q, a = (computeSpec intent q).resourceIdentifier) ∧
        ∃ p, b = (networkSpec intent p).resourceIdentifier := by
    rintro a b ⟨r, hr, rfl, hb⟩
    obtain ⟨s, hs, rfl⟩ := List.mem_map.mp hr
    obtain ⟨p, ⟨hspec, -⟩ | ⟨hspec, -⟩⟩ := mem_defaultSteps hs
    · simp [hspec, networkSpec] at hb
    · simp only [hspec, computeSpec, List.mem_singleton] at hb ⊢
      exact ⟨⟨p, rfl⟩, p, hb⟩
  intro hx
  obtain ⟨_, hfirst, -⟩ := Relation.TransGen.head'_iff.mp hx
  obtain ⟨_, -, hlast⟩ := Relation.TransGen.tail'_iff.mp hx
  obtain ⟨⟨q, rfl⟩, -⟩ := edge hfirst
  obtain ⟨-, p, hp⟩ := edge hlast
  exact computeSpec_ne_networkSpec intent p q hp

theorem resolvable_initialSteps (hg : Function.Injective generateId) (n : ℕ)
    (intent : DeploymentIntent) : ResolvableSteps (initialSteps generateId n intent).1 := by
  unfold initialSteps
  split
  · exact resolvable_defaultSteps hg _ _ _
  · exact resolvable_stepsFromResources hg _ _

theorem acyclic_initialSteps (n : ℕ) {intent : DeploymentIntent}
    (hacyc : ∀ x, ¬ Relation.TransGen (IdentifierDependsOn intent.resources) x x) (x : String) :
    ¬ Relation.TransGen (IdentifierDependsOn
      ((initialSteps generateId n intent).1.map (·.resourceSpec))) x x := by
  unfold initialSteps
  split
  · exact acyclic_defaultSteps _ _ _ x
  · rw [createStepsFromResources, resourceSpec_stepsFromResources]
    exact fun h => hacyc x (h.mono fun _ _ => IdentifierDependsOn.mono
      fun _ hr => (List.perm_insertionSort _ _).subset hr)

/-- **A generated plan draws fresh ids**: its steps carry `generateId` of one run of counters
from `n` on, and the counter it returns is past them and the plan's own id. -/
theorem drawnIds_generatePlan (generateId : ℕ → String) (n : ℕ) (intent : DeploymentIntent) :
    ∃ L, (generatePlan generateId n intent).1.steps.flatMap drawnIds =
        (List.range' n L).map generateId ∧ (generatePlan generateId n intent).2 = n + L + 1 := by
  simp only [generatePlan, drawnIds_resolveDependencies]
  unfold initialSteps
  split
  · exact ⟨_, drawnIds_defaultSteps generateId intent n _, rfl⟩
  · exact ⟨_, drawnIds_stepsFromResources generateId n _, by
      rw [createStepsFromResources, List.length_insertionSort]⟩

/-- **The planner's steps are a plan for `get_execution_order`** when the ids are fresh and
the resources' graph over identifiers has no cycle. -/
theorem stepsAcyclic_generatePlan (hg : Function.Injective generateId) (n : ℕ)
    {intent : DeploymentIntent}
    (hacyc : ∀ x, ¬ Relation.TransGen (IdentifierDependsOn intent.resources) x x) :
    StepsAcyclic (generatePlan generateId n intent).1.steps :=
  stepsAcyclic_resolveDependencies (resolvable_initialSteps hg n intent)
    (acyclic_initialSteps n hacyc)

/-- **Waves of a generated plan.** For an intent whose resources' graph over identifiers has
no cycle, and fresh ids, the waves of `generate_plan`'s plan hold every step exactly once,
the fallback is never taken, and every step lies in a strictly later wave than every step
its dependencies name. -/
theorem executionOrder_generatePlan (hg : Function.Injective generateId) (n : ℕ)
    {intent : DeploymentIntent}
    (hacyc : ∀ x, ¬ Relation.TransGen (IdentifierDependsOn intent.resources) x x) :
    List.Perm (generatePlan generateId n intent).1.getExecutionOrder.flatten
        (generatePlan generateId n intent).1.steps ∧
      WaveLoop.neverFallsBack (generatePlan generateId n intent).1.steps.length
        ⟨[], [], (generatePlan generateId n intent).1.steps⟩ ∧
      ∀ i j (hi : i < (generatePlan generateId n intent).1.getExecutionOrder.length)
        (hj : j < (generatePlan generateId n intent).1.getExecutionOrder.length),
        ∀ s ∈ (generatePlan generateId n intent).1.getExecutionOrder[i],
        ∀ t ∈ (generatePlan generateId n intent).1.getExecutionOrder[j],
          t.stepId ∈ s.dependencies → j < i :=
  ExecutionPlan.getExecutionOrder_of_acyclic (stepsAcyclic_generatePlan hg n hacyc)

/-- An application server on a VPC: the server's resource depends on the network's. -/
theorem executionOrder_app_on_vpc :
    let generateId : ℕ → String := fun k => ⟨List.replicate k 'a'⟩
    let vpc : ResourceSpec :=
      { resourceType := .network, provider := .aws, region := "us-east-1", name := "vpc" }
    let app : ResourceSpec :=
      { resourceType := .compute, provider := .aws, region := "us-east-1", name := "app",
        dependencies := [vpc.resourceIdentifier] }
    let intent : DeploymentIntent := { targetProviders := [.aws], resources := [vpc, app] }
    let plan := (generatePlan generateId 0 intent).1
    Function.Injective generateId ∧
      (∀ x, ¬ Relation.TransGen (IdentifierDependsOn intent.resources) x x) ∧
      List.Perm plan.getExecutionOrder.flatten plan.steps ∧
      WaveLoop.neverFallsBack plan.steps.length ⟨[], [], plan.steps⟩ ∧
      ∀ i j (hi : i < plan.getExecutionOrder.length) (hj : j < plan.getExecutionOrder.length),
        ∀ s ∈ plan.getExecutionOrder[i], ∀ t ∈ plan.getExecutionOrder[j],
          t.stepId ∈ s.dependencies → j < i := by
  intro generateId vpc app intent plan
  have hg : Function.Injective generateId := fun a b h => by
    simpa [generateId] using congrArg (fun s : String => s.data.length) h
  -- the one edge runs from the server to the network, and none leaves the network
  have hedge : ∀ a b, IdentifierDependsOn intent.resources a b →
      a = app.resourceIdentifier ∧ b = vpc.resourceIdentifier := by
    rintro a b ⟨r, hr, rfl, hb⟩
    rcases List.mem_pair.mp hr with rfl | rfl
    · cases hb
    · exact ⟨rfl, List.mem_singleton.mp hb⟩
  have hacyc : ∀ x, ¬ Relation.TransGen (IdentifierDependsOn intent.resources) x x := fun x h => by
    obtain ⟨b, hxb, hbx⟩ := Relation.TransGen.head'_iff.mp h
    obtain ⟨rfl, rfl⟩ := hedge _ _ hxb
    rcases Relation.ReflTransGen.cases_head_iff.mp hbx with h | ⟨c, hc, -⟩
    · exact absurd h (by decide)
    · exact absurd (hedge _ _ hc).1 (by decide)
  exact ⟨hg, hacyc, executionOrder_generatePlan hg 0 hacyc⟩

end RuleBasedPlanningEngine

end Orchestrator
