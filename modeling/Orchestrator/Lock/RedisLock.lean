/-
# The planning lock over Redis

`RedisDistributedLock` (`infrastructure/cache/redis_cache.py`) as `plan_deployment` uses it:
`acquire` sends `SET lock:<id> <token> NX EX ttl` with a fresh token and, once the answer
is back, records the token in the instance's `_lock_values[resource_id]`; `release` in the
`finally` block reads `_lock_values[resource_id]` and sends the check-and-delete script with
it, and once that answer is back deletes the entry.

Redis runs each command and script atomically, and a key may expire at any time. The calls
of `plan_deployment` that share the instance interleave at their awaits: a call is a
`PlanLockPc`, a program counter with what it holds, and `PlanSystem.step` runs one call up to
its next await, or lets a key expire. What the call does between `acquire` and `release`
touches neither Redis nor the lock, and is one step here.

As long as no key expires the lock does what it is for: each key is held by at most one call,
whose token Redis holds under it (`PlanSystem.Exclusive`), so two calls on one deployment are
never both inside the `try` block (`holding_unique_without_expiry`). Expiry breaks this, and
the `_lock_values` entry belongs to the resource, not to the call: once a key has expired and
a second call has acquired it, the first call's release sends the second call's token, finds
it in Redis and deletes the second call's lock
(`release_after_expiry_deletes_other_calls_lock`).

Key definitions: `PlanLockPc`, `PlanSystem.step`, `PlanSystem.run`, `PlanSystem.Exclusive`.
Key theorems: `PlanSystem.release_after_expiry_deletes_other_calls_lock`,
`PlanSystem.holding_unique_without_expiry`.
-/
import Mathlib.Logic.Function.Basic

namespace Orchestrator

/-- The Redis server's keys, the `_lock_values` dict of the shared lock instance, and the
number of tokens `uuid4()` has produced. -/
structure LockState where
  redis : String → Option String
  lockValues : String → Option String
  tokensDrawn : ℕ

/-- `f"lock:{resource_id}"`. -/
def lockKey (resourceId : String) : String := "lock:" ++ resourceId

/-- The resource `plan_deployment` locks: `f"deployment:{deployment_id}:planning"`. -/
def planningResource (deploymentId : String) : String :=
  "deployment:" ++ deploymentId ++ ":planning"

/-- Where a call of `plan_deployment` stands with the lock. -/
inductive PlanLockPc
  /-- Not yet in `acquire`. -/
  | start
  /-- `SET NX` has run with this token; the call has not resumed. -/
  | acquireSent (token : String) (acquired : Bool)
  /-- Inside the `try` block, after a successful `acquire`. -/
  | holding (token : String)
  /-- The release script has run with `lockValue`, and deleted the key or not. -/
  | releaseSent (token lockValue : String) (deleted : Bool)
  | finished
  deriving DecidableEq, Repr

namespace LockState

/-- `SET key value NX EX ttl`: whether the key was set. -/
def setNx (lk : LockState) (key value : String) : LockState × Bool :=
  if lk.redis key = none then ({ lk with redis := Function.update lk.redis key (some value) }, true)
  else (lk, false)

/-- The release script: delete the key if it holds `value`. -/
def evalRelease (lk : LockState) (key value : String) : LockState × Bool :=
  if lk.redis key = some value then ({ lk with redis := Function.update lk.redis key none }, true)
  else (lk, false)

end LockState

/-- One step of a call on `resourceId`, up to its next await; `generateToken` gives the
successive values of `str(uuid.uuid4())`. -/
def planLockStep (generateToken : ℕ → String) (resourceId : String) (lk : LockState) :
    PlanLockPc → LockState × PlanLockPc
  | .start =>
    let token := generateToken lk.tokensDrawn
    let (lk', acquired) := { lk with tokensDrawn := lk.tokensDrawn + 1 }.setNx (lockKey resourceId) token
    (lk', .acquireSent token acquired)
  | .acquireSent token true =>
    ({ lk with lockValues := Function.update lk.lockValues resourceId (some token) }, .holding token)
  -- `DeploymentLockError`, raised before the `try`: no release.
  | .acquireSent _ false => (lk, .finished)
  | .holding token =>
    match lk.lockValues resourceId with
    | none => (lk, .finished)
    | some lockValue =>
      let (lk', deleted) := lk.evalRelease (lockKey resourceId) lockValue
      (lk', .releaseSent token lockValue deleted)
  -- `del self._lock_values[resource_id]`; when another call has already deleted the entry
  -- this raises `KeyError`, and leaves the same state.
  | .releaseSent _ _ true =>
    ({ lk with lockValues := Function.update lk.lockValues resourceId none }, .finished)
  | .releaseSent _ _ false => (lk, .finished)
  | .finished => (lk, .finished)

/-- The calls of `plan_deployment` sharing one lock instance, each with its deployment id. -/
structure PlanSystem where
  lock : LockState
  calls : List (String × PlanLockPc)

/-- What can happen next: call `i` runs to its next await, or a key expires. -/
inductive PlanEvent
  | run (i : ℕ)
  | expire (key : String)
  deriving DecidableEq, Repr

namespace PlanSystem

/-- One event: call `i` runs to its next await, or `key` expires. -/
def step (generateToken : ℕ → String) (sys : PlanSystem) : PlanEvent → PlanSystem
  | .run i =>
    match sys.calls[i]? with
    | none => sys
    | some (deploymentId, pc) =>
      let (lk, pc') := planLockStep generateToken (planningResource deploymentId) sys.lock pc
      { lock := lk, calls := sys.calls.set i (deploymentId, pc') }
  | .expire key => { sys with lock := { sys.lock with redis := Function.update sys.lock.redis key none } }

/-- The events of a schedule, one after the other. -/
def run (generateToken : ℕ → String) (sys : PlanSystem) (events : List PlanEvent) : PlanSystem :=
  events.foldl (step generateToken) sys

/-- **A release deletes another call's lock.** Let call `i` hold the lock of deployment `d`
and call `j` not have started on `d`. If the key expires, `j` acquires it with a fresh token
and resumes; `i`'s release then reads `j`'s token from `_lock_values`, finds it in Redis and
deletes the key, while `j` still holds the lock. -/
theorem release_after_expiry_deletes_other_calls_lock (generateToken : ℕ → String)
    (sys : PlanSystem) {i j : ℕ} {d t : String} (hij : i ≠ j)
    (hi : sys.calls[i]? = some (d, .holding t)) (hj : sys.calls[j]? = some (d, .start)) :
    let key := lockKey (planningResource d)
    let t' := generateToken sys.lock.tokensDrawn
    let sys' := sys.run generateToken [.expire key, .run j, .run j, .run i]
    sys'.calls[i]? = some (d, .releaseSent t t' true) ∧
      sys'.calls[j]? = some (d, .holding t') ∧ sys'.lock.redis key = none := by
  have hilen : i < sys.calls.length := (List.getElem?_eq_some_iff.mp hi).1
  have hjlen : j < sys.calls.length := (List.getElem?_eq_some_iff.mp hj).1
  simp [run, step, hi, hj, hij, hjlen, planLockStep, LockState.setNx, LockState.evalRelease,
    Ne.symm hij]
  exact List.getElem?_set_self (by simpa using hilen)

/-- Two calls of `plan_deployment` on the same deployment, with an empty Redis. -/
def twoCalls (deploymentId : String) : PlanSystem :=
  ⟨⟨fun _ => none, fun _ => none, 0⟩, [(deploymentId, .start), (deploymentId, .start)]⟩

theorem release_deletes_other_calls_lock :
    let token : ℕ → String := fun k => "token-" ++ toString k
    let sys := (twoCalls "d1").run token [.run 0, .run 0]
    0 ≠ 1 ∧ sys.calls[0]? = some ("d1", .holding "token-0") ∧
      sys.calls[1]? = some ("d1", .start) ∧
      let key := lockKey (planningResource "d1")
      let sys' := sys.run token [.expire key, .run 1, .run 1, .run 0]
      sys'.calls[0]? = some ("d1", .releaseSent "token-0" (token sys.lock.tokensDrawn) true) ∧
        sys'.calls[1]? = some ("d1", .holding (token sys.lock.tokensDrawn)) ∧
        sys'.lock.redis key = none :=
  ⟨by decide, by decide, by decide,
    release_after_expiry_deletes_other_calls_lock _ _ (by decide) (by decide) (by decide)⟩

end PlanSystem

/-! ### Without expiry the lock is exclusive -/

/-- The token of a call that has set the key and has not sent its release. -/
def PlanLockPc.heldToken : PlanLockPc → Option String
  | .acquireSent token true => some token
  | .holding token => some token
  | _ => none

/-- **What one step of a call does to Redis, said once**: nothing, and the call holds no new
token; or it sets the absent key and holds it; or, holding, it deletes the key and lets go. -/
theorem planLockStep_cases (generateToken : ℕ → String) (r : String) (lk : LockState)
    (pc : PlanLockPc) :
    ((planLockStep generateToken r lk pc).1.redis = lk.redis ∧
      ((planLockStep generateToken r lk pc).2.heldToken = none ∨
        (planLockStep generateToken r lk pc).2.heldToken = pc.heldToken)) ∨
    (∃ t, lk.redis (lockKey r) = none ∧
      (planLockStep generateToken r lk pc).1.redis = Function.update lk.redis (lockKey r) (some t) ∧
      (planLockStep generateToken r lk pc).2.heldToken = some t) ∨
    (∃ t, pc.heldToken = some t ∧
      (planLockStep generateToken r lk pc).1.redis = Function.update lk.redis (lockKey r) none ∧
      (planLockStep generateToken r lk pc).2.heldToken = none) := by
  cases pc with
  | start =>
    simp only [planLockStep, LockState.setNx]
    split_ifs with h
    · exact .inr (.inl ⟨_, h, rfl, rfl⟩)
    · exact .inl ⟨rfl, .inl rfl⟩
  | acquireSent t acquired => cases acquired <;> exact .inl ⟨rfl, .inr rfl⟩
  | holding t =>
    simp only [planLockStep]
    split
    · exact .inl ⟨rfl, .inl rfl⟩
    · simp only [LockState.evalRelease]
      split_ifs
      · exact .inr (.inr ⟨t, rfl, rfl, rfl⟩)
      · exact .inl ⟨rfl, .inl rfl⟩
  | releaseSent _ _ deleted => cases deleted <;> exact .inl ⟨rfl, .inl rfl⟩
  | finished => exact .inl ⟨rfl, .inl rfl⟩

/-- An entry of `l.set i c`: `c` at `i`, the old entry elsewhere. -/
theorem List.getElem?_set_eq_some {α : Type} {l : List α} {i j : ℕ} {c c' : α}
    (h : (l.set i c)[j]? = some c') : (i = j ∧ c' = c) ∨ (i ≠ j ∧ l[j]? = some c') := by
  rw [List.getElem?_set] at h
  split_ifs at h with hij
  · exact .inl ⟨hij, (Option.some.inj h).symm⟩
  · exact .inr ⟨hij, h⟩

namespace PlanSystem

/-- **Each key is held by at most one call, whose token Redis holds under it.** -/
structure Exclusive (sys : PlanSystem) : Prop where
  key_held : ∀ {i : ℕ} {d : String} {pc : PlanLockPc} {t : String}, sys.calls[i]? = some (d, pc) →
    pc.heldToken = some t → sys.lock.redis (lockKey (planningResource d)) = some t
  unique : ∀ {i j : ℕ} {d d' : String} {pc pc' : PlanLockPc} {t t' : String},
    sys.calls[i]? = some (d, pc) →
    sys.calls[j]? = some (d', pc') → pc.heldToken = some t → pc'.heldToken = some t' →
    lockKey (planningResource d) = lockKey (planningResource d') → i = j

namespace Exclusive

variable {generateToken : ℕ → String} {sys : PlanSystem}

/-- No call has started. -/
theorem of_start (h : ∀ c ∈ sys.calls, c.2 = .start) : Exclusive sys :=
  have start : ∀ {i : ℕ} {d : String} {pc : PlanLockPc}, sys.calls[i]? = some (d, pc) →
      pc.heldToken = none := fun {_ _ pc} hi => by
    have hs : pc = .start := h _ (List.getElem?_mem hi)
    rw [hs]; rfl
  ⟨fun hi ht => (by rw [start hi] at ht; cases ht), fun hi _ ht => (by rw [start hi] at ht; cases ht)⟩

/-- A call's step keeps exclusivity. -/
theorem run_step (h : Exclusive sys) (i : ℕ) : Exclusive (sys.step generateToken (.run i)) := by
  simp only [PlanSystem.step]
  split
  · exact h
  rename_i d pc hi
  have hcases := planLockStep_cases generateToken (planningResource d) sys.lock pc
  generalize planLockStep generateToken (planningResource d) sys.lock pc = res at hcases ⊢
  obtain ⟨lk', pc'⟩ := res
  dsimp only at hcases ⊢
  -- a holder after the step is the stepped call or held before it
  have back : ∀ {j : ℕ} {d₁ : String} {pc₁ : PlanLockPc} {t₁ : String},
      (sys.calls.set i (d, pc'))[j]? = some (d₁, pc₁) →
      pc₁.heldToken = some t₁ →
      (i = j ∧ d₁ = d ∧ pc'.heldToken = some t₁) ∨ (i ≠ j ∧ sys.calls[j]? = some (d₁, pc₁)) := by
    intro j d₁ pc₁ t₁ hj ht₁
    rcases List.getElem?_set_eq_some hj with ⟨rfl, he⟩ | ⟨hij, hj⟩
    · obtain ⟨rfl, rfl⟩ := Prod.mk.inj he
      exact .inl ⟨rfl, rfl, ht₁⟩
    · exact .inr ⟨hij, hj⟩
  rcases hcases with ⟨hr, hh⟩ | ⟨t, hnone, hr, hh⟩ | ⟨t, hheld, hr, hh⟩
  · -- Redis unchanged, and the call holds at most what it held
    have old : ∀ {j : ℕ} {d₁ : String} {pc₁ : PlanLockPc} {t₁ : String},
        (sys.calls.set i (d, pc'))[j]? = some (d₁, pc₁) →
        pc₁.heldToken = some t₁ → ∃ pc₀, sys.calls[j]? = some (d₁, pc₀) ∧ pc₀.heldToken = some t₁ := by
      intro j d₁ pc₁ t₁ hj ht₁
      rcases back hj ht₁ with ⟨rfl, rfl, ht⟩ | ⟨-, hj⟩
      · rcases hh with hh | hh
        · rw [hh] at ht; cases ht
        · exact ⟨pc, hi, hh ▸ ht⟩
      · exact ⟨pc₁, hj, ht₁⟩
    refine ⟨fun hj ht => ?_, fun hj hj' ht ht' hk => ?_⟩
    · obtain ⟨_, hj, ht⟩ := old hj ht
      rw [hr]; exact h.key_held hj ht
    · obtain ⟨_, hj, ht⟩ := old hj ht
      obtain ⟨_, hj', ht'⟩ := old hj' ht'
      exact h.unique hj hj' ht ht' hk
  · -- the key was absent, so no call held it; the stepped call now does
    have free : ∀ {j : ℕ} {d₁ : String} {pc₁ : PlanLockPc} {t₁ : String},
        sys.calls[j]? = some (d₁, pc₁) → pc₁.heldToken = some t₁ →
        lockKey (planningResource d₁) ≠ lockKey (planningResource d) := fun hj ht hk => by
      rw [← hk, h.key_held hj ht] at hnone; cases hnone
    refine ⟨fun hj ht => ?_, fun hj hj' ht ht' hk => ?_⟩
    · rcases back hj ht with ⟨-, rfl, ht'⟩ | ⟨-, hj⟩
      · rw [hr, Function.update_same, ← ht', hh]
      · rw [hr, Function.update_noteq (free hj ht)]; exact h.key_held hj ht
    · rcases back hj ht with ⟨rfl, rfl, -⟩ | ⟨-, hj₀⟩ <;>
        rcases back hj' ht' with ⟨rfl, rfl, -⟩ | ⟨-, hj₀'⟩
      · rfl
      · exact absurd hk.symm (free hj₀' ht')
      · exact absurd hk (free hj₀ ht)
      · exact h.unique hj₀ hj₀' ht ht' hk
  · -- the stepped call held the key, so no other call did, and it let go
    have other : ∀ {j : ℕ} {d₁ : String} {pc₁ : PlanLockPc} {t₁ : String},
        sys.calls[j]? = some (d₁, pc₁) → pc₁.heldToken = some t₁ →
        i ≠ j → lockKey (planningResource d₁) ≠ lockKey (planningResource d) :=
      fun hj ht hij hk => hij (h.unique hi hj hheld ht hk.symm)
    have old : ∀ {j : ℕ} {d₁ : String} {pc₁ : PlanLockPc} {t₁ : String},
        (sys.calls.set i (d, pc'))[j]? = some (d₁, pc₁) →
        pc₁.heldToken = some t₁ → i ≠ j ∧ sys.calls[j]? = some (d₁, pc₁) := by
      intro j d₁ pc₁ t₁ hj ht₁
      rcases back hj ht₁ with ⟨-, -, ht⟩ | hj
      · rw [hh] at ht; cases ht
      · exact hj
    refine ⟨fun hj ht => ?_, fun hj hj' ht ht' hk => ?_⟩
    · obtain ⟨hij, hj⟩ := old hj ht
      rw [hr, Function.update_noteq (other hj ht hij)]; exact h.key_held hj ht
    · exact h.unique (old hj ht).2 (old hj' ht').2 ht ht' hk

/-- Runs of calls' steps, with no key expiring, keep exclusivity. -/
theorem run (h : Exclusive sys) (is : List ℕ) :
    Exclusive (sys.run generateToken (is.map .run)) := by
  induction is generalizing sys with
  | nil => exact h
  | cons i is ih => exact ih (h.run_step i)

end Exclusive

/-- **Without expiry the planning lock is exclusive.** From calls that have not started, as
long as no key expires, two calls on the same deployment are never both inside the `try`
block that `acquire` guards. -/
theorem holding_unique_without_expiry (generateToken : ℕ → String) (sys : PlanSystem)
    (h₀ : ∀ c ∈ sys.calls, c.2 = .start) (is : List ℕ) {i j : ℕ} {d t t' : String}
    (hi : (sys.run generateToken (is.map .run)).calls[i]? = some (d, .holding t))
    (hj : (sys.run generateToken (is.map .run)).calls[j]? = some (d, .holding t')) : i = j :=
  ((Exclusive.of_start h₀).run is).unique hi hj rfl rfl rfl

/-- Two calls on one deployment: the first acquires and holds the lock, the second's `SET NX`
fails and it never enters the `try` block. -/
theorem holding_unique_two_calls :
    let token : ℕ → String := fun k => "token-" ++ toString k
    let sys := (twoCalls "d1").run token ([0, 0, 1, 1].map .run)
    sys.calls[0]? = some ("d1", .holding "token-0") ∧ sys.calls[1]? = some ("d1", .finished) ∧
      0 = 0 := by
  intro token sys
  have h₀ : sys.calls[0]? = some ("d1", .holding "token-0") := by decide
  exact ⟨h₀, by decide, holding_unique_without_expiry token _ (by decide) [0, 0, 1, 1] h₀ h₀⟩

end PlanSystem

end Orchestrator
