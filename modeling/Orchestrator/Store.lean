/-
# The in-memory stores and what the code reads from outside

The repositories of `infrastructure/persistence/repositories/in_memory.py` keep each kind of
aggregate in a module-level dict from id to object. `Store` is such a dict: its objects in
insertion order (the order of `values()`), one per id, since every `save` and `update`
writes an object under its own `id`. `Store.put` is `self._store[x.id] = x`: it replaces
the object of that id where it stands, or appends a new one; `Store.getById` is
`self._store.get(id)`.

`Env` is what the code reads from outside the process: `generate_id`
(`str(uuid.uuid4())`) and `utc_now`, each as the sequence of values its successive calls
return. A state counts the calls made so far.

A method that mutates an object and may raise is an `EStateM`: its result keeps the object
as the method left it, returned (`.ok`) or raised (`.error`); `EStateM.Result.state` reads
it either way.

Key definitions: `Store`, `Store.put`, `Store.getById`, `Env`.
Key theorems: `Store.getById_eq_some_iff`, `Store.mem_put`.
-/
import Mathlib.Data.List.Nodup

/-- The object a method leaves behind, whether it returned or raised. -/
def EStateM.Result.state {ε σ α : Type} : EStateM.Result ε σ α → σ
  | .ok _ s => s
  | .error _ s => s

@[simp] theorem EStateM.Result.state_ok {ε σ α : Type} (a : α) (s : σ) :
    (EStateM.Result.ok a s : EStateM.Result ε σ α).state = s := rfl

@[simp] theorem EStateM.Result.state_error {ε σ α : Type} (e : ε) (s : σ) :
    (EStateM.Result.error e s : EStateM.Result ε σ α).state = s := rfl

/-- The method returned normally. -/
def EStateM.Result.isOk {ε σ α : Type} : EStateM.Result ε σ α → Bool
  | .ok _ _ => true
  | .error _ _ => false

namespace Orchestrator

theorem get_bind_apply {ε σ α : Type} (f : σ → EStateM ε σ α) (s : σ) : (get >>= f) s = f s s := rfl

theorem modify_bind_apply {ε σ α : Type} (g : σ → σ) (f : PUnit → EStateM ε σ α) (s : σ) :
    (modify g >>= f) s = f () (g s) := rfl

/-- A dict from id to object whose keys are the objects' own ids, in insertion order. -/
structure Store (α : Type) (key : α → String) where
  items : List α
  keys_nodup : (items.map key).Nodup

namespace Store

variable {α : Type} {key : α → String}

/-- The empty dict of a fresh process (`clear()`). -/
def empty : Store α key := ⟨[], List.nodup_nil⟩

/-- `self._store.get(id)`. -/
def getById (s : Store α key) (k : String) : Option α := s.items.find? (key · = k)

theorem map_key_replace (x : α) (items : List α) :
    (items.map fun y => if key y = key x then x else y).map key = items.map key := by
  rw [List.map_map]
  exact List.map_congr_left fun y _ => by simp only [Function.comp_apply]; split <;> simp_all

/-- `self._store[x.id] = x`: the object of that id is replaced where it stands, or `x` is
appended. -/
def put (s : Store α key) (x : α) : Store α key :=
  if h : key x ∈ s.items.map key then
    ⟨s.items.map fun y => if key y = key x then x else y, by rw [map_key_replace]; exact s.keys_nodup⟩
  else
    ⟨s.items ++ [x], by
      simp only [List.map_append, List.map_cons, List.map_nil]
      exact List.nodup_append.mpr ⟨s.keys_nodup, List.nodup_singleton _,
        List.disjoint_singleton.mpr h⟩⟩

theorem getById_eq_some_iff (s : Store α key) (k : String) (x : α) :
    s.getById k = some x ↔ x ∈ s.items ∧ key x = k := by
  refine ⟨fun h => ⟨List.mem_of_find?_eq_some h, by simpa using List.find?_some h⟩, ?_⟩
  rintro ⟨hx, rfl⟩
  cases hy : s.getById (key x) with
  | none => exact ((List.find?_eq_none.mp hy) x hx (by simp)).elim
  | some y =>
    have hkey : key y = key x := by simpa using List.find?_some hy
    rw [List.inj_on_of_nodup_map s.keys_nodup (List.mem_of_find?_eq_some hy) hx hkey]

theorem getById_eq_none_iff (s : Store α key) (k : String) :
    s.getById k = none ↔ ∀ x ∈ s.items, key x ≠ k := by
  simp [getById]

theorem mem_put (s : Store α key) (x y : α) :
    y ∈ (s.put x).items ↔ y = x ∨ (y ∈ s.items ∧ key y ≠ key x) := by
  unfold put
  split
  · rename_i hx
    simp only [List.mem_map]
    constructor
    · rintro ⟨z, hz, rfl⟩
      split <;> simp_all
    · rintro (rfl | ⟨hy, hne⟩)
      · obtain ⟨z, hz, hzk⟩ := List.mem_map.mp hx
        exact ⟨z, hz, by simp [hzk]⟩
      · exact ⟨y, hy, by simp [hne]⟩
  · rename_i hx
    simp only [List.mem_append, List.mem_singleton]
    constructor
    · rintro (hy | rfl)
      · exact .inr ⟨hy, fun h => hx (h ▸ List.mem_map_of_mem key hy)⟩
      · exact .inl rfl
    · rintro (rfl | ⟨hy, -⟩)
      · exact .inr rfl
      · exact .inl hy

@[simp] theorem getById_put_self (s : Store α key) (x : α) : (s.put x).getById (key x) = some x :=
  (getById_eq_some_iff _ _ _).mpr ⟨(mem_put s x x).mpr (.inl rfl), rfl⟩

theorem getById_put_ne (s : Store α key) (x : α) {k : String} (hk : key x ≠ k) :
    (s.put x).getById k = s.getById k := by
  cases h : s.getById k with
  | none =>
    rw [getById_eq_none_iff] at h ⊢
    intro y hy
    rcases (mem_put s x y).mp hy with rfl | ⟨hy, -⟩
    · exact hk
    · exact h y hy
  | some y =>
    obtain ⟨hy, rfl⟩ := (getById_eq_some_iff _ _ _).mp h
    exact (getById_eq_some_iff _ _ _).mpr ⟨(mem_put s x y).mpr (.inr ⟨hy, Ne.symm hk⟩), rfl⟩

theorem getById_put (s : Store α key) (x : α) (k : String) :
    (s.put x).getById k = if key x = k then some x else s.getById k := by
  split
  · subst k; exact getById_put_self s x
  · exact getById_put_ne s x ‹_›

theorem getById_put_eq_some {s : Store α key} {x y : α} {k : String}
    (h : (s.put x).getById k = some y) : (key x = k ∧ y = x) ∨ (key x ≠ k ∧ s.getById k = some y) := by
  rw [getById_put] at h
  split_ifs at h with hk
  · exact .inl ⟨hk, (Option.some_injective _ h).symm⟩
  · exact .inr ⟨hk, h⟩

theorem mem_foldl_put {y : α} : ∀ (xs : List α) (s : Store α key),
    y ∈ (xs.foldl put s).items → y ∈ xs ∨ y ∈ s.items
  | [], _, h => .inr h
  | x :: xs, s, h => by
    rcases mem_foldl_put xs (s.put x) h with h | h
    · exact .inl (List.mem_cons_of_mem x h)
    · rcases (mem_put s x y).mp h with rfl | ⟨h, -⟩
      · exact .inl (List.mem_cons_self y xs)
      · exact .inr h

theorem mem_keys_put (s : Store α key) (x : α) (k : String) :
    k ∈ (s.put x).items.map key ↔ key x = k ∨ k ∈ s.items.map key := by
  unfold put
  split
  · rw [map_key_replace]
    exact ⟨.inr, fun h => h.elim (· ▸ ‹_›) id⟩
  · simp [or_comm, eq_comm]

/-- The keys after a run of writes: those written and those there before. -/
theorem mem_keys_foldl_put {β : Type} (f : β → α) (k : String) : ∀ (xs : List β) (s : Store α key),
    k ∈ (xs.foldl (fun s x => s.put (f x)) s).items.map key ↔
      k ∈ xs.map (fun x => key (f x)) ∨ k ∈ s.items.map key
  | [], _ => by simp
  | x :: xs, s => by
    rw [List.foldl_cons, mem_keys_foldl_put f k xs, mem_keys_put, List.map_cons, List.mem_cons]
    tauto

/-- Putting back the object a key already holds changes nothing. -/
theorem put_of_getById (s : Store α key) (x : α) (h : s.getById (key x) = some x) : s.put x = s := by
  have hx := ((getById_eq_some_iff _ _ _).mp h).1
  rw [put, dif_pos (List.mem_map_of_mem key hx)]
  cases s with
  | mk items nd =>
    rw [mk.injEq]
    refine (List.map_congr_left fun y hy => ?_).trans (List.map_id _)
    split
    · exact (List.inj_on_of_nodup_map nd hy hx ‹_›).symm
    · rfl

/-- `self._state.pop(k, None)`: the dict without key `k`. -/
def pop (s : Store α key) (k : String) : Store α key :=
  ⟨s.items.filter (key · ≠ k), ((List.filter_sublist _).map key).nodup s.keys_nodup⟩

@[simp] theorem pop_pop (s : Store α key) (k : String) : (s.pop k).pop k = s.pop k := by
  simp [pop, List.filter_filter]

end Store

/-- The values the code reads from outside: the successive results of `generate_id()` and of
`utc_now()` (a timestamp, as a number). -/
structure Env where
  generateId : ℕ → String
  utcNow : ℕ → ℕ

end Orchestrator
