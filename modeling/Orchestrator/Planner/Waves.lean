/-
# Wave partitioning

`ExecutionPlan.get_execution_order`: a `while remaining` loop whose body takes as the next
wave the remaining steps with every dependency completed, or the first remaining step when
none is (the fallback), appends it to the waves, and moves its steps from `remaining` to
`completed`. `WaveLoop` is the loop's state and `WaveLoop.step` its body; `WaveLoop.run`
runs it with at most `fuel` iterations, and `getExecutionOrder` gives it the number of
steps, which is enough: every iteration removes at least one step (`run_remaining_eq_nil`).

Whatever the dependencies, the waves hold the plan's steps once each
(`WaveLoop.Coherent`). When the steps' ids are distinct, every dependency names a step and
the dependency relation has no cycle, the loop never takes the fallback
(`neverFallsBack_of_acyclic`) and every dependency lies in a strictly earlier wave
(`EarlierDeps`).

Key definitions: `WaveLoop.step`, `WaveLoop.run`, `ExecutionPlan.getExecutionOrder`,
`WaveLoop.neverFallsBack`, `StepsAcyclic`.
Key theorems: `WaveLoop.run_remaining_eq_nil`, `WaveLoop.Coherent.run`,
`WaveLoop.neverFallsBack_of_acyclic`, `getExecutionOrder_of_acyclic`.
-/
import Orchestrator.Domain.Deployment
import Mathlib.Data.Fintype.Card
import Mathlib.Logic.Relation

namespace Orchestrator

/-- The variables of `get_execution_order`'s loop. -/
structure WaveLoop where
  completed : List String
  waves : List (List ExecutionStep)
  remaining : List ExecutionStep

namespace WaveLoop

/-- `[step for step in remaining if all(dep in completed for dep in step.dependencies)]`. -/
def ready (st : WaveLoop) : List ExecutionStep :=
  st.remaining.filter fun step => step.dependencies.all (· ∈ st.completed)

/-- The wave of this iteration: the ready steps, or `[remaining[0]]` when none is ready. -/
def wave (st : WaveLoop) : List ExecutionStep :=
  if st.ready = [] then st.remaining.take 1 else st.ready

/-- The body of the `while` loop. -/
def step (st : WaveLoop) : WaveLoop where
  completed := st.completed ++ st.wave.map (·.stepId)
  waves := st.waves ++ [st.wave]
  remaining := st.wave.foldl List.erase st.remaining

@[simp] theorem step_completed (st : WaveLoop) :
    st.step.completed = st.completed ++ st.wave.map (·.stepId) := rfl

@[simp] theorem step_waves (st : WaveLoop) : st.step.waves = st.waves ++ [st.wave] := rfl

/-- The loop, with at most `fuel` iterations. -/
def run : ℕ → WaveLoop → WaveLoop
  | 0, st => st
  | fuel + 1, st => if st.remaining = [] then st else run fuel st.step

/-- The fallback is not taken in the first `fuel` iterations. -/
def neverFallsBack : ℕ → WaveLoop → Prop
  | 0, _ => True
  | fuel + 1, st => st.remaining ≠ [] → st.ready ≠ [] ∧ neverFallsBack fuel st.step

end WaveLoop

/-- `get_execution_order()`. -/
def ExecutionPlan.getExecutionOrder (p : ExecutionPlan) : List (List ExecutionStep) :=
  (WaveLoop.run p.steps.length ⟨[], [], p.steps⟩).waves

namespace WaveLoop

/-! ### One iteration -/

theorem wave_sublist (st : WaveLoop) : List.Sublist st.wave st.remaining := by
  unfold wave
  split
  · exact List.take_sublist _ _
  · exact List.filter_sublist _

theorem wave_ne_nil {st : WaveLoop} (h : st.remaining ≠ []) : st.wave ≠ [] := by
  unfold wave
  split
  · obtain ⟨x, xs, hx⟩ := List.exists_cons_of_ne_nil h
    simp [hx]
  · assumption

theorem wave_eq_ready {st : WaveLoop} (h : st.ready ≠ []) : st.wave = st.ready := if_neg h

/-- The body moves the wave out of `remaining`. -/
theorem remaining_perm (st : WaveLoop) : List.Perm (st.wave ++ st.step.remaining) st.remaining := by
  rw [step, ← List.diff_eq_foldl]
  exact List.subperm_append_diff_self_of_count_le fun x _ =>
    (st.wave_sublist.subperm).count_le x

theorem length_step_remaining {st : WaveLoop} (h : st.remaining ≠ []) :
    st.step.remaining.length < st.remaining.length := by
  have := st.remaining_perm.length_eq
  have := List.length_pos.mpr (wave_ne_nil h)
  simp only [List.length_append] at *
  omega

/-- The fuel `get_execution_order` gives is enough: the loop ends with nothing left. -/
theorem run_remaining_eq_nil : ∀ (fuel : ℕ) (st : WaveLoop), st.remaining.length ≤ fuel →
    (run fuel st).remaining = []
  | 0, st, h => List.eq_nil_of_length_eq_zero (Nat.le_zero.mp h)
  | fuel + 1, st, h => by
    rw [run]
    split
    · assumption
    · exact run_remaining_eq_nil fuel _ (by have := length_step_remaining ‹_›; omega)

theorem run_of_remaining_eq_nil : ∀ (fuel : ℕ) {st : WaveLoop}, st.remaining = [] →
    run fuel st = st
  | 0, _, _ => rfl
  | _ + 1, _, h => if_pos h

/-- Iterations beyond the number of remaining steps change nothing: the loop has exited. -/
theorem run_eq_of_le : ∀ (fuel : ℕ) {fuel' : ℕ} {st : WaveLoop}, st.remaining.length ≤ fuel →
    fuel ≤ fuel' → run fuel' st = run fuel st
  | 0, _, _, h, _ => run_of_remaining_eq_nil _ (List.eq_nil_of_length_eq_zero (Nat.le_zero.mp h))
  | _ + 1, 0, _, _, hle => absurd hle (Nat.not_succ_le_zero _)
  | fuel + 1, _ + 1, st, h, hle => by
    simp only [run]
    split
    · rfl
    · exact run_eq_of_le fuel (by have := length_step_remaining ‹_›; omega) (by omega)

/-! ### What every iteration keeps -/

/-- What the loop keeps whatever the dependencies: the waves and what remains are the plan's
steps, `completed` holds the ids of the steps placed so far, and no wave is empty. -/
structure Coherent (steps : List ExecutionStep) (st : WaveLoop) : Prop where
  perm : List.Perm (st.waves.flatten ++ st.remaining) steps
  completed_eq : st.completed = st.waves.flatten.map (·.stepId)
  waves_ne_nil : ∀ w ∈ st.waves, w ≠ []

theorem Coherent.init (steps : List ExecutionStep) : Coherent steps ⟨[], [], steps⟩ :=
  ⟨by simp, rfl, by simp⟩

theorem Coherent.step {steps : List ExecutionStep} {st : WaveLoop} (h : Coherent steps st)
    (hr : st.remaining ≠ []) : Coherent steps st.step where
  perm := by
    have : st.step.waves.flatten ++ st.step.remaining =
        st.waves.flatten ++ (st.wave ++ st.step.remaining) := by simp
    rw [this]
    exact (st.remaining_perm.append_left _).trans h.perm
  completed_eq := by simp [h.completed_eq]
  waves_ne_nil w hw := by
    rcases List.mem_append.mp hw with hw | hw
    · exact h.waves_ne_nil w hw
    · exact List.mem_singleton.mp hw ▸ wave_ne_nil hr

theorem Coherent.run {steps : List ExecutionStep} :
    ∀ (fuel : ℕ) {st : WaveLoop}, Coherent steps st → Coherent steps (run fuel st)
  | 0, _, h => h
  | fuel + 1, st, h => by
    rw [WaveLoop.run]
    split
    · exact h
    · exact Coherent.run fuel (h.step ‹_›)

theorem mem_of_coherent {steps : List ExecutionStep} {st : WaveLoop} (h : Coherent steps st)
    {s : ExecutionStep} : s ∈ steps ↔ s ∈ st.waves.flatten ∨ s ∈ st.remaining := by
  rw [← h.perm.mem_iff, List.mem_append]

end WaveLoop

/-- The loop run by `get_execution_order` ends with every step placed. -/
theorem ExecutionPlan.coherent_getExecutionOrder (p : ExecutionPlan) :
    WaveLoop.Coherent p.steps (WaveLoop.run p.steps.length ⟨[], [], p.steps⟩) ∧
      (WaveLoop.run p.steps.length ⟨[], [], p.steps⟩).remaining = [] :=
  ⟨.run _ (.init _), WaveLoop.run_remaining_eq_nil _ _ le_rfl⟩

theorem ExecutionPlan.flatten_getExecutionOrder_perm (p : ExecutionPlan) :
    List.Perm p.getExecutionOrder.flatten p.steps := by
  obtain ⟨h, hnil⟩ := p.coherent_getExecutionOrder
  simpa [hnil] using h.perm

/-- **The loop ends on every plan.** Whatever the dependencies (cycles, a step that depends
on itself, ids no step has, repeated steps), the `while` loop has exited after as many
iterations as the plan has steps: nothing remains, and further iterations change nothing.
Every wave it returns is non-empty, and the waves hold the plan's steps, each as often as the
plan does. -/
theorem ExecutionPlan.getExecutionOrder_terminates (p : ExecutionPlan) :
    (WaveLoop.run p.steps.length ⟨[], [], p.steps⟩).remaining = [] ∧
      (∀ fuel, p.steps.length ≤ fuel →
        WaveLoop.run fuel ⟨[], [], p.steps⟩ = WaveLoop.run p.steps.length ⟨[], [], p.steps⟩) ∧
      (∀ w ∈ p.getExecutionOrder, w ≠ []) ∧ List.Perm p.getExecutionOrder.flatten p.steps :=
  ⟨p.coherent_getExecutionOrder.2, fun _ h => WaveLoop.run_eq_of_le _ le_rfl h,
    p.coherent_getExecutionOrder.1.waves_ne_nil, p.flatten_getExecutionOrder_perm⟩

/-! ### Plans without cycles -/

/-- `t` has to run before `s`: both are steps and `s` lists `t`'s id among its
dependencies. -/
def Precedes (steps : List ExecutionStep) (t s : ExecutionStep) : Prop :=
  t ∈ steps ∧ s ∈ steps ∧ t.stepId ∈ s.dependencies

/-- The plans the waves are meant for: distinct ids, every dependency the id of a step,
and no cycle of dependencies. -/
structure StepsAcyclic (steps : List ExecutionStep) : Prop where
  ids_nodup : (steps.map (·.stepId)).Nodup
  deps_closed : ∀ s ∈ steps, ∀ d ∈ s.dependencies, ∃ t ∈ steps, t.stepId = d
  acyclic : ∀ s, ¬ Relation.TransGen (Precedes steps) s s

namespace WaveLoop

variable {steps : List ExecutionStep} {st : WaveLoop}

/-- **Without cycles some remaining step is always ready.** A remaining step minimal for
the transitive dependency relation, which is well founded on the finitely many steps, has
every dependency placed. -/
theorem ready_ne_nil (hs : StepsAcyclic steps) (h : Coherent steps st)
    (hr : st.remaining ≠ []) : st.ready ≠ [] := by
  let r : {s // s ∈ steps} → {s // s ∈ steps} → Prop :=
    fun a b => Relation.TransGen (Precedes steps) a.1 b.1
  haveI : IsTrans _ r := ⟨fun _ _ _ => Relation.TransGen.trans⟩
  haveI : IsIrrefl _ r := ⟨fun a => hs.acyclic a.1⟩
  obtain ⟨x, hx⟩ := List.exists_mem_of_ne_nil _ hr
  obtain ⟨m, hm, hmin⟩ := (Finite.wellFounded_of_trans_of_irrefl r).has_min
    {a | a.1 ∈ st.remaining} ⟨⟨x, (mem_of_coherent h).2 (.inr hx)⟩, hx⟩
  intro hnil
  obtain ⟨d, hd, hdc⟩ : ∃ d ∈ m.1.dependencies, d ∉ st.completed := by
    simpa [ready] using List.filter_eq_nil_iff.mp hnil m.1 hm
  obtain ⟨t, ht, rfl⟩ := hs.deps_closed m.1 m.2 d hd
  have htr : t ∈ st.remaining := by
    refine ((mem_of_coherent h).1 ht).resolve_left fun hp => hdc ?_
    rw [h.completed_eq]
    exact List.mem_map_of_mem _ hp
  exact hmin ⟨t, ht⟩ htr (.single ⟨ht, m.2, hd⟩)

theorem neverFallsBack_of_acyclic (hs : StepsAcyclic steps) :
    ∀ (fuel : ℕ) {st : WaveLoop}, Coherent steps st → neverFallsBack fuel st
  | 0, _, _ => trivial
  | fuel + 1, _, h => fun hr =>
    ⟨ready_ne_nil hs h hr, neverFallsBack_of_acyclic hs fuel (h.step hr)⟩

/-- Every dependency of a step in wave `i` is the id of a step in a wave before `i`. -/
def EarlierDeps (st : WaveLoop) : Prop :=
  ∀ i (hi : i < st.waves.length), ∀ s ∈ st.waves[i], ∀ d ∈ s.dependencies,
    d ∈ (st.waves.take i).flatten.map (·.stepId)

theorem EarlierDeps.step (h : Coherent steps st) (hready : st.ready ≠ [])
    (he : EarlierDeps st) : EarlierDeps st.step := by
  intro i hi s hs d hd
  simp only [step_waves, List.length_append, List.length_singleton] at hi hs ⊢
  rcases Nat.lt_succ_iff_lt_or_eq.mp hi with hlt | rfl
  · rw [List.getElem_append_left hlt] at hs
    rw [List.take_append_of_le_length hlt.le]
    exact he i hlt s hs d hd
  · rw [List.getElem_concat_length _ _ _ rfl, wave_eq_ready hready] at hs
    rw [List.take_append_of_le_length le_rfl, List.take_length, ← h.completed_eq]
    exact of_decide_eq_true (List.all_eq_true.mp (List.mem_filter.mp hs).2 d hd)

theorem EarlierDeps.run (hs : StepsAcyclic steps) :
    ∀ (fuel : ℕ) {st : WaveLoop}, Coherent steps st → EarlierDeps st →
      EarlierDeps (run fuel st)
  | 0, _, _, he => he
  | fuel + 1, st, h, he => by
    rw [WaveLoop.run]
    split
    · exact he
    · exact EarlierDeps.run hs fuel (h.step ‹_›) (he.step h (ready_ne_nil hs h ‹_›))

end WaveLoop

/-- A step that occurs in two waves of a list whose flattening has no repeats occurs in one
wave only. -/
theorem eq_of_mem_getElem_of_nodup_flatten {L : List (List ExecutionStep)}
    (hL : L.flatten.Nodup) {x : ExecutionStep} {j k : ℕ} (hj : j < L.length)
    (hk : k < L.length) (hxj : x ∈ L[j]) (hxk : x ∈ L[k]) : j = k := by
  have hdisj := (List.pairwise_iff_getElem.mp (List.nodup_flatten.mp hL).2)
  by_contra hne
  rcases Nat.lt_or_gt_of_ne hne with hlt | hlt
  · exact hdisj j k hj hk hlt hxj hxk
  · exact hdisj k j hk hj hlt hxk hxj

/-- **Waves of a plan without cycles.** When the step ids are distinct, every dependency
names a step and no dependency cycle exists, `get_execution_order` places every step once,
never takes the fallback, and puts each step in a strictly later wave than every step its
dependencies name. -/
theorem ExecutionPlan.getExecutionOrder_of_acyclic {p : ExecutionPlan}
    (hs : StepsAcyclic p.steps) :
    List.Perm p.getExecutionOrder.flatten p.steps ∧
      WaveLoop.neverFallsBack p.steps.length ⟨[], [], p.steps⟩ ∧
      ∀ i j (hi : i < p.getExecutionOrder.length) (hj : j < p.getExecutionOrder.length),
        ∀ s ∈ p.getExecutionOrder[i], ∀ t ∈ p.getExecutionOrder[j],
          t.stepId ∈ s.dependencies → j < i := by
  obtain ⟨h, -⟩ := p.coherent_getExecutionOrder
  have hperm := p.flatten_getExecutionOrder_perm
  refine ⟨hperm, WaveLoop.neverFallsBack_of_acyclic hs _ (.init _), ?_⟩
  intro i j hi hj s hs' t ht hd
  have he := WaveLoop.EarlierDeps.run hs p.steps.length (.init _) (by simp [WaveLoop.EarlierDeps])
  obtain ⟨u, hu, hut⟩ := List.mem_map.mp (he i hi s hs' _ hd)
  obtain ⟨w, hw, huw⟩ := List.mem_flatten.mp hu
  obtain ⟨k, hk, rfl⟩ := List.mem_iff_getElem.mp hw
  rw [List.getElem_take] at huw
  have hnodup : p.getExecutionOrder.flatten.Nodup := hperm.nodup_iff.mpr hs.ids_nodup.of_map
  have hsteps : ∀ x ∈ p.getExecutionOrder.flatten, x ∈ p.steps := fun x hx => hperm.subset hx
  have hut' : u = t := List.inj_on_of_nodup_map hs.ids_nodup
    (hsteps u (List.mem_flatten_of_mem (List.getElem_mem _) huw))
    (hsteps t (List.mem_flatten_of_mem (List.getElem_mem _) ht)) hut
  subst hut'
  have : k < i := (by simpa using hk : k < i ∧ _).1
  have := eq_of_mem_getElem_of_nodup_flatten hnodup hj _ ht huw
  omega

end Orchestrator
