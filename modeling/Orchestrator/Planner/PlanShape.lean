/-
# What `generate_plan` returns

For every intent, and `generate_id` drawing non-empty ids as `uuid4` does, the plan of the
rule-based planner has the shape `PlanShape` describes (`generatePlan_shape`):

* every dependency is the id of a step of the plan, no dependency list repeats an id, and
  `_resolve_dependencies` keeps every step's `step_id` and `idempotency_key`;
* with resources, the steps are the resources sorted stably by `RESOURCE_PRIORITY`, one
  `create` step each, and a step depends on exactly the steps that `resource_to_step` names
  for its resource's dependencies, in first-occurrence order and without repeats: for an
  identifier, the last step in plan order that holds it (`lastStepId`);
* without resources, each compute step comes right after the network step created with it
  and depends on it;
* `validate_plan` accepts the plan whenever it has a step.

The last three follow from one description of `_resolve_dependencies`' inner loop: started
from a list without repeats, it appends the new ids in first-occurrence order
(`appendResolved_firstOccurrences`).

Key definitions: `RuleBasedPlanningEngine.firstOccurrences`,
`RuleBasedPlanningEngine.lastStepId`, `RuleBasedPlanningEngine.PlanShape`.
Key theorems: `RuleBasedPlanningEngine.appendResolved_firstOccurrences`,
`RuleBasedPlanningEngine.generatePlan_shape`.
-/
import Orchestrator.Planner.RuleBased
import Mathlib.Data.List.Dedup

namespace Orchestrator

namespace RuleBasedPlanningEngine

/-! ### First occurrences and last holders -/

/-- The entries of `l` in the order of their first occurrences, each once. -/
def firstOccurrences (l : List String) : List String := l.reverse.dedup.reverse

example : firstOccurrences ["b", "a", "b", "c", "a"] = ["b", "a", "c"] := by decide

/-- The id of the last step, in plan order, whose resource has identifier `r`. -/
def lastStepId (steps : List ExecutionStep) (r : String) : Option String :=
  (steps.reverse.find? (·.resourceSpec.resourceIdentifier = r)).map (·.stepId)

theorem mem_firstOccurrences {l : List String} {x : String} :
    x ∈ firstOccurrences l ↔ x ∈ l := by
  simp [firstOccurrences]

theorem firstOccurrences_append_singleton (l : List String) (x : String) :
    firstOccurrences (l ++ [x]) =
      if x ∈ l then firstOccurrences l else firstOccurrences l ++ [x] := by
  unfold firstOccurrences
  rw [List.reverse_append, List.reverse_singleton, List.singleton_append]
  split_ifs with hx
  · rw [List.dedup_cons_of_mem (List.mem_reverse.mpr hx)]
  · rw [List.dedup_cons_of_not_mem (mt List.mem_reverse.mp hx), List.reverse_cons]

/-- `resource_to_step` maps an identifier to the last step holding it, over what it held. -/
theorem foldl_assignStep (k : String) : ∀ (steps : List ExecutionStep)
    (m : String → Option String), steps.foldl assignStep m k = (lastStepId steps k).or (m k)
  | [], _ => rfl
  | s :: ss, m => by
    rw [List.foldl_cons, foldl_assignStep k ss, lastStepId, lastStepId, List.reverse_cons,
      List.find?_append, List.find?_singleton]
    unfold assignStep
    generalize List.find? (fun x => decide (x.resourceSpec.resourceIdentifier = k)) ss.reverse = o
    by_cases hk : s.resourceSpec.resourceIdentifier = k
    · cases o <;> simp [hk]
    · cases o <;> simp [hk, Ne.symm hk]

theorem resourceToStep_eq_lastStepId (steps : List ExecutionStep) :
    resourceToStep steps = lastStepId steps :=
  funext fun k => (foldl_assignStep k steps _).trans Option.or_none

theorem lastStepId_resolveDependencies (steps : List ExecutionStep) :
    lastStepId (resolveDependencies steps) = lastStepId steps := by
  funext k
  simp only [lastStepId, resolveDependencies, ← List.map_reverse, List.find?_map,
    Option.map_map]
  rfl

/-! ### The inner loop of `_resolve_dependencies` -/

section AppendResolved

variable {f : String → Option String}

/-- **From a list without repeats, the inner loop appends the new ids in first-occurrence
order**, when no resolved id is empty. -/
theorem appendResolved_firstOccurrences (hf : ∀ r, f r ≠ some "") :
    ∀ (acc rs : List String),
      appendResolved f (firstOccurrences acc) rs = firstOccurrences (acc ++ rs.filterMap f)
  | acc, [] => by simp [appendResolved]
  | acc, r :: rs => by
    rw [appendResolved, List.filterMap_cons]
    rcases hr : f r with _ | d
    · exact appendResolved_firstOccurrences hf acc rs
    · have hd : d ≠ "" := fun h => hf r (h ▸ hr)
      have key := appendResolved_firstOccurrences hf (acc ++ [d]) rs
      rw [firstOccurrences_append_singleton, List.append_assoc, List.singleton_append] at key
      dsimp only
      by_cases hm : d ∈ acc
      · rw [if_neg fun h => h.2 (mem_firstOccurrences.mpr hm)]
        rwa [if_pos hm] at key
      · rw [if_pos ⟨hd, mt mem_firstOccurrences.mp hm⟩]
        rwa [if_neg hm] at key

theorem nodup_appendResolved : ∀ {acc rs : List String}, acc.Nodup →
    (appendResolved f acc rs).Nodup
  | _, [], h => h
  | _, _ :: _, h => by
    rw [appendResolved]
    split
    · split_ifs with hc
      · exact nodup_appendResolved (List.concat_eq_append _ _ ▸ h.concat hc.2)
      · exact nodup_appendResolved h
    · exact nodup_appendResolved h

theorem subset_appendResolved : ∀ {acc rs : List String}, acc ⊆ appendResolved f acc rs
  | _, [] => List.Subset.refl _
  | _, _ :: _ => by
    rw [appendResolved]
    split
    · split_ifs
      · exact (List.subset_append_left _ _).trans subset_appendResolved
      · exact subset_appendResolved
    · exact subset_appendResolved

end AppendResolved

/-! ### The steps before resolution -/

variable {generateId : ℕ → String}

theorem length_stepsFromResources : ∀ (n : ℕ) (rs : List ResourceSpec),
    (stepsFromResources generateId n rs).length = rs.length
  | _, [] => rfl
  | n, _ :: rs => congrArg (· + 1) (length_stepsFromResources (n + 2) rs)

theorem initialSteps_of_ne_nil {n : ℕ} {intent : DeploymentIntent} (h : intent.resources ≠ []) :
    (initialSteps generateId n intent).1 = createStepsFromResources generateId n intent := by
  have : createStepsFromResources generateId n intent ≠ [] := by
    rw [← List.length_pos, createStepsFromResources, length_stepsFromResources,
      List.length_insertionSort, List.length_pos]
    exact h
  simp [initialSteps, this]

theorem initialSteps_of_nil {n : ℕ} {intent : DeploymentIntent} (h : intent.resources = []) :
    (initialSteps generateId n intent).1 = createDefaultSteps generateId n intent := by
  simp [initialSteps, createStepsFromResources, h, stepsFromResources]

theorem terraformAction_stepsFromResources : ∀ {n : ℕ} {rs : List ResourceSpec}
    {s : ExecutionStep}, s ∈ stepsFromResources generateId n rs → s.terraformAction = "create"
  | _, [], _, h => absurd h (List.not_mem_nil _)
  | _, _ :: _, _, h => by
    rcases List.mem_cons.mp h with rfl | h
    · rfl
    · exact terraformAction_stepsFromResources h

/-- A step made before resolution depends only on steps made with it. -/
theorem dep_initialSteps {n : ℕ} {intent : DeploymentIntent} {s : ExecutionStep}
    (hs : s ∈ (initialSteps generateId n intent).1) {d : String} (hd : d ∈ s.dependencies) :
    ∃ t ∈ (initialSteps generateId n intent).1, t.stepId = d := by
  by_cases hr : intent.resources = []
  · rw [initialSteps_of_nil hr] at hs ⊢
    obtain ⟨p, ⟨-, hdeps⟩ | ⟨-, t, ht, -, hdeps⟩⟩ := mem_defaultSteps hs
    · simp [hdeps] at hd
    · exact ⟨t, ht, (List.mem_singleton.mp (hdeps ▸ hd)).symm⟩
  · rw [initialSteps_of_ne_nil hr] at hs
    simp [mem_stepsFromResources hs] at hd

theorem nodup_dependencies_initialSteps {n : ℕ} {intent : DeploymentIntent} {s : ExecutionStep}
    (hs : s ∈ (initialSteps generateId n intent).1) : s.dependencies.Nodup := by
  by_cases hr : intent.resources = []
  · rw [initialSteps_of_nil hr] at hs
    obtain ⟨p, ⟨-, hdeps⟩ | ⟨-, t, -, -, hdeps⟩⟩ := mem_defaultSteps hs <;> simp [hdeps]
  · rw [initialSteps_of_ne_nil hr] at hs
    simp [mem_stepsFromResources hs]

/-- A compute step of `_create_default_steps` comes right after the network step of its
iteration, and depends on it. -/
theorem eq_append_of_compute {intent : DeploymentIntent} : ∀ {n : ℕ}
    {ps : List CloudProviderType} {s : ExecutionStep}, s ∈ defaultSteps generateId intent n ps →
    s.resourceSpec.resourceType = .compute → ∃ pre t post,
      defaultSteps generateId intent n ps = pre ++ t :: s :: post ∧
        t.resourceSpec = networkSpec intent s.provider ∧ s.dependencies = [t.stepId]
  | _, [], _, h, _ => absurd h (List.not_mem_nil _)
  | n, p :: ps, s, h, hc => by
    rw [defaultSteps] at h ⊢
    rcases List.mem_cons.mp h with rfl | h
    · cases hc
    rcases List.mem_cons.mp h with rfl | h
    · exact ⟨[], _, _, rfl, rfl, rfl⟩
    · obtain ⟨pre, t, post, heq, ht, hd⟩ := eq_append_of_compute h hc
      exact ⟨_ :: _ :: pre, t, post, by rw [heq]; rfl, ht, hd⟩

/-- The planner's ids are values of `generate_id`. -/
theorem stepId_initialSteps {n : ℕ} {intent : DeploymentIntent} {t : ExecutionStep}
    (ht : t ∈ (initialSteps generateId n intent).1) : ∃ k, generateId k = t.stepId := by
  obtain ⟨L, hL, -⟩ := drawnIds_generatePlan generateId n intent
  have hmem : t.stepId ∈ (generatePlan generateId n intent).1.steps.flatMap drawnIds := by
    simp only [generatePlan, drawnIds_resolveDependencies]
    exact List.mem_flatMap.mpr ⟨t, ht, List.mem_cons_self _ _⟩
  obtain ⟨k, -, hk⟩ := List.mem_map.mp (hL ▸ hmem)
  exact ⟨k, hk⟩

/-! ### The plan -/

/-- `validate_plan` accepts a plan with a step whose dependencies all name steps. -/
theorem validatePlan_of_deps (p : ExecutionPlan) (hne : p.steps ≠ [])
    (h : ∀ s ∈ p.steps, ∀ d ∈ s.dependencies, ∃ t ∈ p.steps, t.stepId = d) :
    validatePlan p = (true, []) := by
  simpa [validatePlan, hne] using h

/-- What `generate_plan` returns, from the steps it created before resolving them. -/
structure PlanShape (intent : DeploymentIntent) (created : List ExecutionStep)
    (plan : ExecutionPlan) : Prop where
  deps_are_steps : ∀ s ∈ plan.steps, ∀ d ∈ s.dependencies, ∃ t ∈ plan.steps, t.stepId = d
  deps_nodup : ∀ s ∈ plan.steps, s.dependencies.Nodup
  ids_kept : plan.steps.map (fun s => (s.stepId, s.idempotencyKey)) =
    created.map fun s => (s.stepId, s.idempotencyKey)
  resources_perm : intent.resources ≠ [] →
    List.Perm (plan.steps.map (·.resourceSpec)) intent.resources
  resources_sorted : intent.resources ≠ [] → (plan.steps.map (·.resourceSpec)).Sorted
    fun a b => resourcePriority a.resourceType ≤ resourcePriority b.resourceType
  resources_stable : intent.resources ≠ [] → ∀ a b, List.Sublist [a, b] intent.resources →
    resourcePriority a.resourceType ≤ resourcePriority b.resourceType →
    List.Sublist [a, b] (plan.steps.map (·.resourceSpec))
  resources_create : intent.resources ≠ [] → ∀ s ∈ plan.steps, s.terraformAction = "create"
  resource_deps : intent.resources ≠ [] → ∀ s ∈ plan.steps, s.dependencies =
    firstOccurrences (s.resourceSpec.dependencies.filterMap (lastStepId plan.steps))
  compute_after_network : intent.resources = [] → ∀ s ∈ plan.steps,
    s.resourceSpec.resourceType = .compute → ∃ pre t post, plan.steps = pre ++ t :: s :: post ∧
      t.resourceSpec = networkSpec intent s.provider ∧ t.stepId ∈ s.dependencies
  validates : plan.steps ≠ [] → validatePlan plan = (true, [])

section Shape

variable {n : ℕ} {intent : DeploymentIntent}

theorem steps_generatePlan :
    (generatePlan generateId n intent).1.steps =
      resolveDependencies (initialSteps generateId n intent).1 := rfl

theorem deps_generatePlan {s : ExecutionStep} (hs : s ∈ (generatePlan generateId n intent).1.steps)
    {d : String} (hd : d ∈ s.dependencies) :
    ∃ t ∈ (generatePlan generateId n intent).1.steps, t.stepId = d := by
  rw [steps_generatePlan] at hs ⊢
  obtain ⟨s₀, hs₀, rfl⟩ := List.mem_map.mp hs
  rcases mem_appendResolved hd with hd | ⟨r, -, hrd⟩
  · obtain ⟨t, ht, rfl⟩ := dep_initialSteps hs₀ hd
    exact ⟨_, List.mem_map_of_mem _ ht, rfl⟩
  · obtain ⟨t, ht, -, rfl⟩ := resourceToStep_eq_some hrd
    exact ⟨_, List.mem_map_of_mem _ ht, rfl⟩

/-- The sort of `_create_steps_from_resources`. -/
theorem resourceSpecs_generatePlan (h : intent.resources ≠ []) :
    (generatePlan generateId n intent).1.steps.map (·.resourceSpec) =
      intent.resources.insertionSort fun a b =>
        resourcePriority a.resourceType ≤ resourcePriority b.resourceType := by
  rw [steps_generatePlan, resolveDependencies, List.map_map, initialSteps_of_ne_nil h,
    ← resourceSpec_stepsFromResources generateId n (intent.resources.insertionSort _)]
  rfl

theorem resolvedDeps_generatePlan (hg : ∀ k, generateId k ≠ "") (h : intent.resources ≠ [])
    {s : ExecutionStep} (hs : s ∈ (generatePlan generateId n intent).1.steps) :
    s.dependencies = firstOccurrences (s.resourceSpec.dependencies.filterMap
      (lastStepId (generatePlan generateId n intent).1.steps)) := by
  rw [steps_generatePlan] at hs ⊢
  obtain ⟨s₀, hs₀, rfl⟩ := List.mem_map.mp hs
  have hnil : s₀.dependencies = [] := by
    rw [initialSteps_of_ne_nil h] at hs₀
    exact mem_stepsFromResources hs₀
  have hf : ∀ r, resourceToStep (initialSteps generateId n intent).1 r ≠ some "" := fun r hr => by
    obtain ⟨t, ht, -, hid⟩ := resourceToStep_eq_some hr
    obtain ⟨k, hk⟩ := stepId_initialSteps ht
    exact hg k (hk.trans hid)
  rw [resolveStep_dependencies, resolveStep_resourceSpec, lastStepId_resolveDependencies,
    ← resourceToStep_eq_lastStepId, hnil]
  exact appendResolved_firstOccurrences hf [] _

theorem computeAfterNetwork_generatePlan (h : intent.resources = []) {s : ExecutionStep}
    (hs : s ∈ (generatePlan generateId n intent).1.steps)
    (hc : s.resourceSpec.resourceType = .compute) :
    ∃ pre t post, (generatePlan generateId n intent).1.steps = pre ++ t :: s :: post ∧
      t.resourceSpec = networkSpec intent s.provider ∧ t.stepId ∈ s.dependencies := by
  rw [steps_generatePlan] at hs ⊢
  obtain ⟨s₀, hs₀, rfl⟩ := List.mem_map.mp hs
  rw [initialSteps_of_nil h] at hs₀
  obtain ⟨pre, t, post, heq, ht, hd⟩ := eq_append_of_compute hs₀ hc
  set R := resolveStep (resourceToStep (initialSteps generateId n intent).1)
  refine ⟨pre.map R, R t, post.map R, ?_, ht,
    subset_appendResolved (by rw [hd]; exact List.mem_singleton_self _)⟩
  show List.map R (initialSteps generateId n intent).1 = _
  rw [(initialSteps_of_nil h).trans heq]
  simp

/-- **The shape of every generated plan**, for `generate_id` drawing non-empty ids. -/
theorem generatePlan_shape (hg : ∀ k, generateId k ≠ "") (n : ℕ) (intent : DeploymentIntent) :
    PlanShape intent (initialSteps generateId n intent).1 (generatePlan generateId n intent).1 := by
  haveI : IsTotal ResourceSpec fun a b => resourcePriority a.resourceType ≤
      resourcePriority b.resourceType := ⟨fun _ _ => le_total _ _⟩
  haveI : IsTrans ResourceSpec fun a b => resourcePriority a.resourceType ≤
      resourcePriority b.resourceType := ⟨fun _ _ _ => le_trans⟩
  refine ⟨fun s hs d hd => deps_generatePlan hs hd, fun s hs => ?_, ?_, fun h => ?_, fun h => ?_,
    fun h a b hab hr => ?_, fun h s hs => ?_, fun h s hs => resolvedDeps_generatePlan hg h hs,
    fun h s hs hc => computeAfterNetwork_generatePlan h hs hc,
    fun hne => validatePlan_of_deps _ hne fun s hs d hd => deps_generatePlan hs hd⟩
  · rw [steps_generatePlan] at hs
    obtain ⟨s₀, hs₀, rfl⟩ := List.mem_map.mp hs
    exact nodup_appendResolved (nodup_dependencies_initialSteps hs₀)
  · simp [steps_generatePlan, resolveDependencies, resolveStep]
  · rw [resourceSpecs_generatePlan h]
    exact List.perm_insertionSort _ _
  · rw [resourceSpecs_generatePlan h]
    exact List.sorted_insertionSort _ _
  · rw [resourceSpecs_generatePlan h]
    exact List.pair_sublist_insertionSort hr hab
  · rw [steps_generatePlan, initialSteps_of_ne_nil h] at hs
    obtain ⟨s₀, hs₀, rfl⟩ := List.mem_map.mp hs
    exact terraformAction_stepsFromResources (s := s₀) hs₀

/-- Two resources listed against their priority, the server depending on the network. -/
theorem generatePlan_shape_two_resources :
    let generateId : ℕ → String := fun k => ⟨'i' :: List.replicate k 'd'⟩
    let vpc : ResourceSpec :=
      { resourceType := .network, provider := .aws, region := "us-east-1", name := "vpc" }
    let intent : DeploymentIntent :=
      { targetProviders := [.aws],
        resources := [{ resourceType := .compute, provider := .aws, region := "us-east-1",
                        name := "app", dependencies := [vpc.resourceIdentifier] }, vpc] }
    (∀ k, generateId k ≠ "") ∧
      PlanShape intent (initialSteps generateId 0 intent).1 (generatePlan generateId 0 intent).1 := by
  intro generateId vpc intent
  have hg : ∀ k, generateId k ≠ "" := fun k h => List.cons_ne_nil _ _ (congrArg String.data h)
  exact ⟨hg, generatePlan_shape hg 0 intent⟩

end Shape

end RuleBasedPlanningEngine

end Orchestrator
