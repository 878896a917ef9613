/-
# Waves are depths

For a plan whose step ids are distinct, whose dependencies all name steps and form no cycle
(`StepsAcyclic`), `get_execution_order` puts every step in the wave of its depth: 0 for a
step without dependencies, otherwise one more than the deepest of its dependencies. The
depth is the spec's recursive definition, stated as the equation a depth function solves
(`IsDepth`).

The loop keeps `WaveLoop.ReadyWaves`: each wave is every step not yet placed whose
dependencies all are. With `EarlierDeps`, a step of wave `i + 1` has a dependency in wave
`i` (`ExecutionPlan.exists_dep_mem_getElem`), so the index of a step's wave solves the depth
equation (`ExecutionPlan.isDepth_waveOf`) and every solution is that index
(`ExecutionPlan.eq_of_isDepth`). A dependency chain climbs at least one wave per link, and
one climbing exactly one per link reaches the last wave, so the waves are as many as the
steps of a longest chain.

Key definitions: `IsDepth`, `WaveLoop.ReadyWaves`, `ExecutionPlan.waveOf`.
Key theorems: `WaveLoop.ReadyWaves.run`, `ExecutionPlan.getExecutionOrder_depth`.
-/
import Orchestrator.Planner.Waves
import Mathlib.Data.List.MinMax

namespace Orchestrator

/-- One level of the spec's `depth`: 0 for a step without dependencies, otherwise one more
than the deepest of its dependencies, `δ` giving the depth of the step an id names. -/
def depthStep (δ : String → ℕ) (s : ExecutionStep) : ℕ :=
  if s.dependencies = [] then 0 else (s.dependencies.map δ).foldr max 0 + 1

/-- `δ` gives every step of the plan its depth. -/
def IsDepth (steps : List ExecutionStep) (δ : String → ℕ) : Prop :=
  ∀ s ∈ steps, δ s.stepId = depthStep δ s

/-- A plan whose dependencies climb a rank has no cycle. -/
theorem StepsAcyclic.of_rank {steps : List ExecutionStep} (rank : ExecutionStep → ℕ)
    (hids : (steps.map (·.stepId)).Nodup)
    (hdeps : ∀ s ∈ steps, ∀ d ∈ s.dependencies, ∃ t ∈ steps, t.stepId = d)
    (hrank : ∀ s ∈ steps, ∀ t ∈ steps, t.stepId ∈ s.dependencies → rank t < rank s) :
    StepsAcyclic steps where
  ids_nodup := hids
  deps_closed := hdeps
  acyclic s h := by
    have := h.lift rank fun _ _ ⟨ht, hs, hd⟩ => hrank _ hs _ ht hd
    rw [Relation.transGen_eq_self (r := (· < ·)) fun _ _ _ => lt_trans] at this
    exact lt_irrefl _ this

namespace WaveLoop

/-- Every wave is the steps not placed before it whose dependencies all were. -/
def ReadyWaves (steps : List ExecutionStep) (st : WaveLoop) : Prop :=
  ∀ i (hi : i < st.waves.length), ∀ s ∈ steps, s ∈ st.waves[i] ↔
    s ∉ (st.waves.take i).flatten ∧
      ∀ d ∈ s.dependencies, d ∈ (st.waves.take i).flatten.map (·.stepId)

variable {steps : List ExecutionStep} {st : WaveLoop}

/-- Of a plan without repeated steps, what remains is what no wave holds. -/
theorem mem_remaining_iff (hnd : steps.Nodup) (h : Coherent steps st) {s : ExecutionStep}
    (hs : s ∈ steps) : s ∈ st.remaining ↔ s ∉ st.waves.flatten :=
  ⟨fun hr hf => (List.nodup_append.mp (h.perm.nodup_iff.mpr hnd)).2.2 hf hr,
    fun hf => ((mem_of_coherent h).1 hs).resolve_left hf⟩

theorem ReadyWaves.step (hnd : steps.Nodup) (h : Coherent steps st) (hready : st.ready ≠ [])
    (hw : ReadyWaves steps st) : ReadyWaves steps st.step := by
  intro i hi s hs
  simp only [step_waves, List.length_append, List.length_singleton] at hi ⊢
  rcases Nat.lt_succ_iff_lt_or_eq.mp hi with hlt | rfl
  · rw [List.getElem_append_left hlt, List.take_append_of_le_length hlt.le]
    exact hw i hlt s hs
  · rw [List.getElem_concat_length _ _ _ rfl, wave_eq_ready hready,
      List.take_append_of_le_length le_rfl, List.take_length, ← h.completed_eq,
      ← mem_remaining_iff hnd h hs]
    simp [ready]

theorem ReadyWaves.run (hs : StepsAcyclic steps) :
    ∀ (fuel : ℕ) {st : WaveLoop}, Coherent steps st → ReadyWaves steps st →
      ReadyWaves steps (run fuel st)
  | 0, _, _, hw => hw
  | fuel + 1, st, h, hw => by
    rw [WaveLoop.run]
    split
    · exact hw
    · exact ReadyWaves.run hs fuel (h.step ‹_›)
        (hw.step hs.ids_nodup.of_map h (ready_ne_nil hs h ‹_›))

end WaveLoop

namespace ExecutionPlan

/-- The index of the first wave holding a step with id `d`. -/
def waveOf (p : ExecutionPlan) (d : String) : ℕ :=
  p.getExecutionOrder.findIdx fun w => w.any (·.stepId == d)

theorem mem_steps_of_mem_getElem {p : ExecutionPlan} {i : ℕ} {hi : i < p.getExecutionOrder.length}
    {s : ExecutionStep} (hsi : s ∈ p.getExecutionOrder[i]) : s ∈ p.steps :=
  p.flatten_getExecutionOrder_perm.subset (List.mem_flatten_of_mem (List.getElem_mem _) hsi)

theorem exists_mem_getElem {p : ExecutionPlan} {s : ExecutionStep} (hsteps : s ∈ p.steps) :
    ∃ i, ∃ hi : i < p.getExecutionOrder.length, s ∈ p.getExecutionOrder[i] := by
  obtain ⟨w, hw, hsw⟩ := List.mem_flatten.mp (p.flatten_getExecutionOrder_perm.symm.subset hsteps)
  obtain ⟨i, hi, rfl⟩ := List.mem_iff_getElem.mp hw
  exact ⟨i, hi, hsw⟩

section Acyclic

variable {p : ExecutionPlan} (hs : StepsAcyclic p.steps)
include hs

theorem readyWaves_getExecutionOrder (i : ℕ) (hi : i < p.getExecutionOrder.length)
    {s : ExecutionStep} (hsteps : s ∈ p.steps) :
    s ∈ p.getExecutionOrder[i] ↔ s ∉ (p.getExecutionOrder.take i).flatten ∧
      ∀ d ∈ s.dependencies, d ∈ (p.getExecutionOrder.take i).flatten.map (·.stepId) :=
  WaveLoop.ReadyWaves.run hs _ (.init _) (fun _ hi => absurd hi (Nat.not_lt_zero _)) i hi s hsteps

/-- A step lies in one wave only. -/
theorem index_eq {i j : ℕ} {hi : i < p.getExecutionOrder.length}
    {hj : j < p.getExecutionOrder.length} {s : ExecutionStep}
    (hsi : s ∈ p.getExecutionOrder[i]) (hsj : s ∈ p.getExecutionOrder[j]) : i = j :=
  eq_of_mem_getElem_of_nodup_flatten
    (p.flatten_getExecutionOrder_perm.nodup_iff.mpr hs.ids_nodup.of_map) hi hj hsi hsj

theorem lt_of_dep {i j : ℕ} {hi : i < p.getExecutionOrder.length}
    {hj : j < p.getExecutionOrder.length} {s t : ExecutionStep}
    (hsi : s ∈ p.getExecutionOrder[i]) (htj : t ∈ p.getExecutionOrder[j])
    (hd : t.stepId ∈ s.dependencies) : j < i :=
  (getExecutionOrder_of_acyclic hs).2.2 i j hi hj s hsi t htj hd

/-- A step without dependencies is in the first wave. -/
theorem mem_getElem_zero (h0 : 0 < p.getExecutionOrder.length) {s : ExecutionStep}
    (hsteps : s ∈ p.steps) (hnil : s.dependencies = []) : s ∈ p.getExecutionOrder[0] :=
  (readyWaves_getExecutionOrder hs 0 h0 hsteps).mpr ⟨by simp, by simp [hnil]⟩

/-- **A step of wave `k + 1` has a dependency in wave `k`**: were all its dependencies
placed before wave `k`, it would have been ready for wave `k`. -/
theorem exists_dep_mem_getElem {k : ℕ} {hk : k + 1 < p.getExecutionOrder.length}
    {s : ExecutionStep} (hsk : s ∈ p.getExecutionOrder[k + 1]) :
    ∃ t ∈ p.steps, t.stepId ∈ s.dependencies ∧ ∃ hk' : k < p.getExecutionOrder.length,
      t ∈ p.getExecutionOrder[k] := by
  have hk' : k < p.getExecutionOrder.length := by omega
  have hsteps := mem_steps_of_mem_getElem hsk
  have htake : (p.getExecutionOrder.take (k + 1)).flatten =
      (p.getExecutionOrder.take k).flatten ++ p.getExecutionOrder[k] := by
    rw [List.take_succ, List.getElem?_eq_getElem hk', Option.toList_some, List.flatten_append,
      List.flatten_cons, List.flatten_nil, List.append_nil]
  obtain ⟨hnot, hdeps⟩ := (readyWaves_getExecutionOrder hs (k + 1) hk hsteps).mp hsk
  by_contra hno
  have hsk' : s ∈ p.getExecutionOrder[k] := by
    refine (readyWaves_getExecutionOrder hs k hk' hsteps).mpr
      ⟨fun h => hnot (htake ▸ List.mem_append_left _ h), fun d hd => ?_⟩
    rw [htake, List.map_append] at hdeps
    refine (List.mem_append.mp (hdeps d hd)).resolve_right fun hdk => ?_
    obtain ⟨t, ht, rfl⟩ := List.mem_map.mp hdk
    exact hno ⟨t, mem_steps_of_mem_getElem ht, hd, hk', ht⟩
  exact absurd (index_eq hs hsk hsk') (by omega)

/-- The depth equation holds at a step of wave `i` for any `δ` that gives the steps of the
earlier waves their index. -/
theorem depthStep_eq {δ : String → ℕ} {i : ℕ} {hi : i < p.getExecutionOrder.length}
    {s : ExecutionStep} (hsi : s ∈ p.getExecutionOrder[i])
    (hδ : ∀ j (hj : j < p.getExecutionOrder.length), j < i →
      ∀ t ∈ p.getExecutionOrder[j], δ t.stepId = j) :
    depthStep δ s = i := by
  have hsteps := mem_steps_of_mem_getElem hsi
  unfold depthStep
  split_ifs with hnil
  · exact index_eq hs (mem_getElem_zero hs (by omega) hsteps hnil) hsi
  -- every dependency is in an earlier wave
  have hlt : ∀ d ∈ s.dependencies, δ d < i := fun d hd => by
    obtain ⟨t, ht, rfl⟩ := hs.deps_closed s hsteps d hd
    obtain ⟨j, hj, htj⟩ := exists_mem_getElem ht
    have hji := lt_of_dep hs hsi htj hd
    exact hδ j hj hji t htj ▸ hji
  obtain ⟨k, rfl⟩ : ∃ k, i = k + 1 := by
    obtain ⟨d, hd⟩ := List.exists_mem_of_ne_nil _ hnil
    exact ⟨i - 1, by have := hlt d hd; omega⟩
  -- and one is in the wave just before
  obtain ⟨t, -, htd, hk, htk⟩ := exists_dep_mem_getElem hs hsi
  have hmax : (s.dependencies.map δ).foldr max 0 = k := le_antisymm
    (List.max_le_of_forall_le _ _ fun x hx => by
      obtain ⟨d, hd, rfl⟩ := List.mem_map.mp hx
      exact Nat.le_of_lt_succ (hlt d hd))
    (List.le_max_of_le (List.mem_map_of_mem δ htd) (hδ k hk k.lt_succ_self t htk).ge)
  rw [hmax]

/-- **Every depth function gives a step the index of its wave.** -/
theorem eq_of_isDepth {δ : String → ℕ} (hδ : IsDepth p.steps δ) :
    ∀ i (hi : i < p.getExecutionOrder.length), ∀ s ∈ p.getExecutionOrder[i], δ s.stepId = i := by
  intro i
  induction i using Nat.strong_induction_on with
  | _ i ih =>
    intro hi s hsi
    rw [hδ s (mem_steps_of_mem_getElem hsi)]
    exact depthStep_eq hs hsi fun j hj hji t ht => ih j hji hj t ht

theorem waveOf_eq {i : ℕ} {hi : i < p.getExecutionOrder.length} {s : ExecutionStep}
    (hsi : s ∈ p.getExecutionOrder[i]) : p.waveOf s.stepId = i := by
  rw [waveOf, List.findIdx_eq hi]
  refine ⟨List.any_eq_true.mpr ⟨s, hsi, beq_self_eq_true _⟩, fun j hji => ?_⟩
  rw [List.any_eq_false]
  intro t htj heq
  have hts : t = s := List.inj_on_of_nodup_map hs.ids_nodup (mem_steps_of_mem_getElem htj)
    (mem_steps_of_mem_getElem hsi) (beq_iff_eq.mp heq)
  subst hts
  exact absurd (index_eq hs hsi htj) (by omega)

/-- **The wave index is a depth function.** -/
theorem isDepth_waveOf : IsDepth p.steps p.waveOf := fun s hsteps => by
  obtain ⟨i, hi, hsi⟩ := exists_mem_getElem hsteps
  rw [waveOf_eq hs hsi, depthStep_eq hs hsi fun j _ _ t ht => waveOf_eq hs ht]

theorem waveOf_lt_length {s : ExecutionStep} (hsteps : s ∈ p.steps) :
    p.waveOf s.stepId < p.getExecutionOrder.length := by
  obtain ⟨i, hi, hsi⟩ := exists_mem_getElem hsteps
  rw [waveOf_eq hs hsi]
  exact hi

theorem waveOf_lt_of_precedes {t s : ExecutionStep} (h : Precedes p.steps t s) :
    p.waveOf t.stepId < p.waveOf s.stepId := by
  obtain ⟨ht, hsteps, hd⟩ := h
  obtain ⟨i, hi, hsi⟩ := exists_mem_getElem hsteps
  obtain ⟨j, hj, htj⟩ := exists_mem_getElem ht
  rw [waveOf_eq hs hsi, waveOf_eq hs htj]
  exact lt_of_dep hs hsi htj hd

/-- **A dependency chain has at most as many steps as there are waves**: its steps' waves
strictly increase. -/
theorem length_le_of_chain {c : List ExecutionStep} (hc : ∀ x ∈ c, x ∈ p.steps)
    (hch : c.Chain' (Precedes p.steps)) : c.length ≤ p.getExecutionOrder.length := by
  have hsorted : (c.map fun x => p.waveOf x.stepId).Pairwise (· < ·) :=
    List.chain'_iff_pairwise.mp ((List.chain'_map _).mpr
      (hch.imp fun _ _ => waveOf_lt_of_precedes hs))
  have hsub : (c.map fun x => p.waveOf x.stepId) ⊆ List.range p.getExecutionOrder.length :=
    fun n hn => by
      obtain ⟨x, hx, rfl⟩ := List.mem_map.mp hn
      exact List.mem_range.mpr (waveOf_lt_length hs (hc x hx))
  simpa using (List.subperm_of_subset (hsorted.imp ne_of_lt) hsub).length_le

/-- A step of wave `i` ends a chain of `i + 1` steps, one per wave. -/
theorem exists_chain_mem_getElem : ∀ i (hi : i < p.getExecutionOrder.length),
    ∀ s ∈ p.getExecutionOrder[i], ∃ c : List ExecutionStep, (∀ x ∈ c, x ∈ p.steps) ∧
      c.Chain' (Precedes p.steps) ∧ c.length = i + 1 ∧ c.getLast? = some s
  | 0, _, s, hs0 => ⟨[s], by simpa using mem_steps_of_mem_getElem hs0, List.chain'_singleton s,
      rfl, rfl⟩
  | k + 1, _, s, hsk => by
    obtain ⟨t, ht, htd, hk, htk⟩ := exists_dep_mem_getElem hs hsk
    obtain ⟨c, hc, hch, hlen, hlast⟩ := exists_chain_mem_getElem k hk t htk
    refine ⟨c ++ [s], fun x hx => ?_, hch.append (List.chain'_singleton s) fun x hx y hy => ?_,
      by simp [hlen], by simp⟩
    · rcases List.mem_append.mp hx with hx | hx
      · exact hc x hx
      · exact List.mem_singleton.mp hx ▸ mem_steps_of_mem_getElem hsk
    · obtain rfl : x = t := Option.some.inj (hlast ▸ hx).symm
      obtain rfl : y = s := Option.some.inj hy.symm
      exact ⟨ht, mem_steps_of_mem_getElem hsk, htd⟩

end Acyclic

/-- **Waves are depths.** For a plan whose step ids are distinct and whose dependencies name
steps and form no cycle: a depth function exists, and every one gives each step the index of
the one wave holding it; every dependency lies in an earlier wave; each wave is every step
not placed before it whose dependencies all were; the fallback is never taken; and a longest
dependency chain has as many steps as there are waves, so waves `w_0 .. w_h` mean `h` links. -/
theorem getExecutionOrder_depth {p : ExecutionPlan} (hs : StepsAcyclic p.steps) :
    (∃ δ, IsDepth p.steps δ) ∧
    (∀ δ, IsDepth p.steps δ → ∀ s ∈ p.steps, δ s.stepId < p.getExecutionOrder.length ∧
      ∀ i (hi : i < p.getExecutionOrder.length), s ∈ p.getExecutionOrder[i] ↔ δ s.stepId = i) ∧
    (∀ i j (hi : i < p.getExecutionOrder.length) (hj : j < p.getExecutionOrder.length),
      ∀ s ∈ p.getExecutionOrder[i], ∀ t ∈ p.getExecutionOrder[j], t.stepId ∈ s.dependencies →
        j < i) ∧
    (∀ i (hi : i < p.getExecutionOrder.length), ∀ s ∈ p.steps, s ∈ p.getExecutionOrder[i] ↔
      s ∉ (p.getExecutionOrder.take i).flatten ∧
        ∀ d ∈ s.dependencies, d ∈ (p.getExecutionOrder.take i).flatten.map (·.stepId)) ∧
    WaveLoop.neverFallsBack p.steps.length ⟨[], [], p.steps⟩ ∧
    (∀ c : List ExecutionStep, (∀ x ∈ c, x ∈ p.steps) → c.Chain' (Precedes p.steps) →
      c.length ≤ p.getExecutionOrder.length) ∧
    (p.steps ≠ [] → ∃ c : List ExecutionStep, (∀ x ∈ c, x ∈ p.steps) ∧
      c.Chain' (Precedes p.steps) ∧ c.length = p.getExecutionOrder.length) := by
  refine ⟨⟨_, isDepth_waveOf hs⟩, fun δ hδ s hsteps => ?_,
    fun i j hi hj s hsi t htj hd => lt_of_dep hs hsi htj hd,
    fun i hi s hsteps => readyWaves_getExecutionOrder hs i hi hsteps,
    (getExecutionOrder_of_acyclic hs).2.1, fun c hc hch => length_le_of_chain hs hc hch,
    fun hne => ?_⟩
  · obtain ⟨j, hj, hsj⟩ := exists_mem_getElem hsteps
    have hδs := eq_of_isDepth hs hδ j hj s hsj
    refine ⟨hδs ▸ hj, fun i hi => ⟨fun hsi => eq_of_isDepth hs hδ i hi s hsi, fun h => ?_⟩⟩
    obtain rfl : i = j := h.symm.trans hδs
    exact hsj
  · -- a step of the last wave ends a chain with a step in every wave
    obtain ⟨s, hsteps⟩ := List.exists_mem_of_ne_nil _ hne
    obtain ⟨i, hi, -⟩ := exists_mem_getElem hsteps
    have hlast := Nat.sub_lt (Nat.zero_lt_of_lt hi) Nat.one_pos
    obtain ⟨s, hs'⟩ := List.exists_mem_of_ne_nil _
      (p.coherent_getExecutionOrder.1.waves_ne_nil _ (List.getElem_mem hlast))
    obtain ⟨c, hc, hch, hlen, -⟩ := exists_chain_mem_getElem hs _ hlast s hs'
    exact ⟨c, hc, hch, by omega⟩

/-- A diamond listed against its order: `d` needs `b` and `c`, which need `a`. -/
theorem getExecutionOrder_depth_diamond :
    let a : ExecutionStep :=
      { stepId := "a", name := "deploy-vpc", description := "", provider := .aws,
        resourceSpec := { resourceType := .network, provider := .aws, region := "us-east-1",
                          name := "vpc" },
        terraformAction := "create", idempotencyKey := "ka" }
    let p : ExecutionPlan :=
      { planId := "p1", steps := [{ a with stepId := "d", dependencies := ["b", "c"] },
          { a with stepId := "b", dependencies := ["a"] },
          { a with stepId := "c", dependencies := ["a"] }, a] }
    StepsAcyclic p.steps ∧ (∃ δ, IsDepth p.steps δ) ∧
    (∀ δ, IsDepth p.steps δ → ∀ s ∈ p.steps, δ s.stepId < p.getExecutionOrder.length ∧
      ∀ i (hi : i < p.getExecutionOrder.length), s ∈ p.getExecutionOrder[i] ↔ δ s.stepId = i) ∧
    (∀ i j (hi : i < p.getExecutionOrder.length) (hj : j < p.getExecutionOrder.length),
      ∀ s ∈ p.getExecutionOrder[i], ∀ t ∈ p.getExecutionOrder[j], t.stepId ∈ s.dependencies →
        j < i) ∧
    (∀ i (hi : i < p.getExecutionOrder.length), ∀ s ∈ p.steps, s ∈ p.getExecutionOrder[i] ↔
      s ∉ (p.getExecutionOrder.take i).flatten ∧
        ∀ d ∈ s.dependencies, d ∈ (p.getExecutionOrder.take i).flatten.map (·.stepId)) ∧
    WaveLoop.neverFallsBack p.steps.length ⟨[], [], p.steps⟩ ∧
    (∀ c : List ExecutionStep, (∀ x ∈ c, x ∈ p.steps) → c.Chain' (Precedes p.steps) →
      c.length ≤ p.getExecutionOrder.length) ∧
    (p.steps ≠ [] → ∃ c : List ExecutionStep, (∀ x ∈ c, x ∈ p.steps) ∧
      c.Chain' (Precedes p.steps) ∧ c.length = p.getExecutionOrder.length) := by
  intro a p
  have hs : StepsAcyclic p.steps :=
    .of_rank (·.dependencies.length) (by decide) (by decide) (by decide)
  exact ⟨hs, getExecutionOrder_depth hs⟩

end ExecutionPlan

end Orchestrator
