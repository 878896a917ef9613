/-
# Token-bucket rate limiting

`RateLimiterMiddleware` (`api/middleware/rate_limiter.py`) keeps one bucket per client
address. The `defaultdict` factory creates a client's bucket full, holding `burst_size`
tokens, at the client's first request. `dispatch` refills the bucket at
`requests_per_minute / 60` tokens a second, up to `burst_size`. It then takes a token, or
answers 429 when less than one is left. Requests under `/health` pass without touching a
bucket.

The clock is `time.time()`, and its readings are arbitrary: the wall clock may step back.
A step back removes tokens, possibly to below zero, and the bound must hold anyway. So the
argument runs on what a bucket still has to spend, `max 0 tokens` (`Bucket.potential`). On
one request, the token taken plus what is left is at most what was there before, plus the
refill of the clock's forward step (`Bucket.dispatch_potential`). The middleware's run over
one client's requests is the run of `Bucket.dispatch` over that client's bucket
(`RateLimiterMiddleware.clientBucket_succ`). Summing the one-request inequality over a
window of requests gives the admission bound: at most `burst_size` plus the refill of the
forward steps inside the window (`RateLimiterMiddleware.admitted_window`,
`RateLimiterMiddleware.dispatch_admission_bound`).

Clients share one dict, and the middleware serves them interleaved. Requests of other
clients, and requests under `/health`, neither change a client's bucket nor affect its
admissions. Seen from one address, the middleware's run is that client's bucket run over
its own requests (`RateLimiterMiddleware.run_refines_bucket`).

Time and tokens are exact rationals. The code's floats are not modelled.

Key definitions: `Bucket.refill`, `Bucket.dispatch`, `RateLimiterMiddleware.dispatch`,
`RateLimiterMiddleware.serveClient`, `RateLimiterMiddleware.run`, `Bucket.run`.
Key theorems: `Bucket.dispatch_potential`, `RateLimiterMiddleware.clientBucket_succ`,
`RateLimiterMiddleware.admitted_window`, `RateLimiterMiddleware.dispatch_admission_bound`,
`RateLimiterMiddleware.run_refines_bucket`.
-/
import Mathlib.Algebra.BigOperators.Intervals
import Mathlib.Algebra.Order.Field.Rat
import Orchestrator.Store

namespace Orchestrator

/-- Python's `str.startswith`, on the strings' characters. -/
def startswith (s pre : String) : Bool := pre.data.isPrefixOf s.data

/-- `RateLimitSettings`, with its defaults. -/
structure RateLimitSettings where
  requestsPerMinute : ℤ := 60
  burstSize : ℤ := 10
  deriving DecidableEq, Repr

/-- `refill_rate`: tokens a second. -/
def RateLimitSettings.refillRate (s : RateLimitSettings) : ℚ := s.requestsPerMinute / 60

/-- The 429 answer's `Retry-After` header, `str(int(60 / requests_per_minute))`. If
`requests_per_minute` is 0, Python raises `ZeroDivisionError` here. -/
def RateLimitSettings.retryAfter (s : RateLimitSettings) : Except String ℤ :=
  if s.requestsPerMinute = 0 then .error "division by zero" else .ok (Int.tdiv 60 s.requestsPerMinute)

/-- A client's bucket, the dict `{"tokens": ..., "last_refill": ...}`. -/
structure Bucket where
  tokens : ℚ
  lastRefill : ℚ
  deriving DecidableEq, Repr

/-- The `defaultdict` factory: a full bucket, refilled at the reading `now`. -/
def RateLimitSettings.newBucket (s : RateLimitSettings) (now : ℚ) : Bucket := ⟨s.burstSize, now⟩

/-- What `dispatch` reads of a request: its path, and its client's host if it has one. -/
structure Request where
  path : String
  client : Option String
  deriving DecidableEq, Repr

/-- The detail of the 429 answer. -/
def rateLimitExceeded : String := "Rate limit exceeded. Please retry later."

/-- What `dispatch` answers: the response of the rest of the app (`call_next`), or the 429
`JSONResponse` with its detail and its `Retry-After` header. -/
inductive MiddlewareResponse
  | callNext
  | tooManyRequests (detail : String) (retryAfter : ℤ)
  deriving DecidableEq, Repr

/-- A request is admitted when it is not answered 429. -/
def MiddlewareResponse.admits : MiddlewareResponse → Bool
  | .callNext => true
  | .tooManyRequests _ _ => false

/-- `dispatch` admitted the request: it did not answer 429. -/
def admits {ε σ : Type} : EStateM.Result ε σ MiddlewareResponse → Bool
  | .ok r _ => r.admits
  | .error _ _ => true

namespace Bucket

/-- The refill `dispatch` makes at the reading `now`: `elapsed * refill_rate` more tokens, at
most `burst_size`, and `last_refill` moved to `now` (back, if the clock stepped back). -/
def refill (s : RateLimitSettings) (b : Bucket) (now : ℚ) : Bucket :=
  ⟨min (s.burstSize : ℚ) (b.tokens + (now - b.lastRefill) * s.refillRate), now⟩

/-- What `dispatch` does to the client's bucket at the reading `now`: refill, then take a
token, or answer 429 when less than one is left. -/
def dispatch (b : Bucket) (s : RateLimitSettings) (now : ℚ) :
    EStateM.Result String Bucket MiddlewareResponse :=
  let b := b.refill s now
  if b.tokens < 1 then
    match s.retryAfter with
    | .ok n => .ok (.tooManyRequests rateLimitExceeded n) b
    | .error e => .error e b
  else .ok .callNext { b with tokens := b.tokens - 1 }

/-- The tokens a bucket still has to spend: none when the clock took it below zero. -/
def potential (b : Bucket) : ℚ := max 0 b.tokens

variable {s : RateLimitSettings} (b : Bucket) (now : ℚ)

theorem potential_nonneg : 0 ≤ b.potential := le_max_left _ _

theorem potential_le_burstSize (hb : 0 ≤ s.burstSize) (h : b.tokens ≤ s.burstSize) :
    b.potential ≤ s.burstSize := max_le (by exact_mod_cast hb) h

/-- A refill adds at most the refill of the clock's forward step. -/
theorem refill_tokens_le (hr : 0 ≤ s.refillRate) :
    (b.refill s now).tokens ≤ b.potential + s.refillRate * max 0 (now - b.lastRefill) := by
  have hpot : b.tokens ≤ b.potential := le_max_right _ _
  have hstep := mul_le_mul_of_nonneg_left (le_max_right 0 (now - b.lastRefill)) hr
  calc (b.refill s now).tokens ≤ b.tokens + (now - b.lastRefill) * s.refillRate := min_le_right _ _
    _ ≤ b.potential + s.refillRate * max 0 (now - b.lastRefill) := by linarith [mul_comm (now - b.lastRefill) s.refillRate]

/-- `dispatch` when the Retry-After header can be computed: 429 on the refilled bucket, or a
token taken from it. -/
theorem dispatch_cases (hr : s.requestsPerMinute ≠ 0) :
    ((b.refill s now).tokens < 1 ∧
      b.dispatch s now = .ok (.tooManyRequests rateLimitExceeded (Int.tdiv 60 s.requestsPerMinute))
        (b.refill s now)) ∨
    (1 ≤ (b.refill s now).tokens ∧
      b.dispatch s now = .ok .callNext { b.refill s now with tokens := (b.refill s now).tokens - 1 }) := by
  by_cases h : (b.refill s now).tokens < 1
  · exact .inl ⟨h, by simp [dispatch, h, RateLimitSettings.retryAfter, hr]⟩
  · exact .inr ⟨not_lt.mp h, if_neg h⟩

/-- The bucket `dispatch` leaves, whatever it answers. -/
theorem dispatch_state : (b.dispatch s now).state = if (b.refill s now).tokens < 1 then b.refill s now
    else { b.refill s now with tokens := (b.refill s now).tokens - 1 } := by
  dsimp only [dispatch]
  split_ifs
  · split <;> rfl
  · rfl

theorem dispatch_lastRefill : (b.dispatch s now).state.lastRefill = now := by
  rw [dispatch_state]
  split_ifs <;> rfl

theorem dispatch_tokens_le_burstSize : (b.dispatch s now).state.tokens ≤ s.burstSize := by
  have h : (b.refill s now).tokens ≤ s.burstSize := min_le_left _ _
  rw [dispatch_state]
  split_ifs
  · exact h
  · exact (sub_le_self _ zero_le_one).trans h

/-- **One request.** The token taken, if the request is admitted, plus what the bucket has
left to spend, is at most what it had before plus the refill of the clock's forward step. -/
theorem dispatch_potential (hr : 0 < s.requestsPerMinute) :
    (if admits (b.dispatch s now) then 1 else 0 : ℚ) + (b.dispatch s now).state.potential ≤
      b.potential + s.refillRate * max 0 (now - b.lastRefill) := by
  have hrate : 0 ≤ s.refillRate := div_nonneg (by exact_mod_cast hr.le) (by norm_num)
  have hrefill := b.refill_tokens_le now hrate
  rcases b.dispatch_cases now hr.ne' with ⟨hlt, heq⟩ | ⟨hge, heq⟩ <;> rw [heq]
  · simpa [admits, MiddlewareResponse.admits, potential] using max_le (add_nonneg b.potential_nonneg
      (mul_nonneg hrate (le_max_left _ _))) hrefill
  · simp only [admits, MiddlewareResponse.admits, if_true, EStateM.Result.state, potential] at hrefill ⊢
    rw [max_eq_right (by linarith)]
    linarith [le_max_right 0 b.tokens]

end Bucket

/-- `RateLimiterMiddleware`: its settings and `_buckets`, by client address. -/
structure RateLimiterMiddleware where
  settings : RateLimitSettings
  buckets : String → Option Bucket

namespace RateLimiterMiddleware

/-- `RateLimiterMiddleware.__init__`: the given settings or the defaults, and no bucket. -/
def init (settings : Option RateLimitSettings) : RateLimiterMiddleware :=
  ⟨settings.getD {}, fun _ => none⟩

/-- `dispatch`, with the two readings of `time.time()` it can make: `created`, read by the
factory when the client has no bucket yet, and `now`. The bucket is changed in place, so
it is stored changed whether the 429 branch raises or not. -/
def dispatch (mw : RateLimiterMiddleware) (request : Request) (created now : ℚ) :
    EStateM.Result String RateLimiterMiddleware MiddlewareResponse :=
  if startswith request.path "/health" then .ok .callNext mw
  else
    let clientIp := request.client.getD "unknown"
    let r := ((mw.buckets clientIp).getD (mw.settings.newBucket created)).dispatch mw.settings now
    let mw' := { mw with buckets := Function.update mw.buckets clientIp (some r.state) }
    match r with
    | .ok a _ => .ok a mw'
    | .error e _ => .error e mw'

variable (mw : RateLimiterMiddleware) (request : Request) (created now : ℚ)

theorem dispatch_of_health (h : startswith request.path "/health" = true) :
    mw.dispatch request created now = .ok .callNext mw := if_pos h

/-- Outside `/health`, `dispatch` is the bucket's: the client's bucket, or a new one, goes
through `Bucket.dispatch` and is stored, and the answer is the bucket's. -/
theorem dispatch_of_not_health (h : startswith request.path "/health" = false) :
    let r := ((mw.buckets (request.client.getD "unknown")).getD
      (mw.settings.newBucket created)).dispatch mw.settings now
    (mw.dispatch request created now).state =
        { mw with buckets := Function.update mw.buckets (request.client.getD "unknown") (some r.state) } ∧
      admits (mw.dispatch request created now) = admits r := by
  simp only [dispatch, h, Bool.false_eq_true, if_false]
  split <;> rename_i heq <;> exact ⟨rfl, by rw [heq]; rfl⟩

@[simp] theorem settings_dispatch : (mw.dispatch request created now).state.settings = mw.settings := by
  cases hp : startswith request.path "/health"
  · rw [(mw.dispatch_of_not_health request created now hp).1]
  · rw [mw.dispatch_of_health request created now hp]
    rfl

/-- Only the requesting client's bucket changes, and only outside `/health`. -/
theorem dispatch_buckets_of_not_own (ip : String)
    (h : startswith request.path "/health" = false → request.client.getD "unknown" ≠ ip) :
    (mw.dispatch request created now).state.buckets ip = mw.buckets ip := by
  cases hp : startswith request.path "/health"
  · rw [(mw.dispatch_of_not_health request created now hp).1]
    exact Function.update_noteq (h hp).symm _ _
  · rw [mw.dispatch_of_health request created now hp]
    rfl

/-! ### One client's requests -/

section Client

variable (client : Option String) (paths : ℕ → String) (c : ℕ → ℚ)

/-- The middleware after a client's first `n` requests. Request `k`, counted from 1, has the
path `paths k` and reads the clock as `c k`. The factory reads it as `c 0`, which matters
only when it creates the bucket, at the first request. -/
def serveClient : ℕ → RateLimiterMiddleware
  | 0 => mw
  | k + 1 => ((serveClient k).dispatch ⟨paths (k + 1), client⟩ (c 0) (c (k + 1))).state

/-- The answer to the client's `k`-th request, counted from 1. -/
def answer (k : ℕ) : EStateM.Result String RateLimiterMiddleware MiddlewareResponse :=
  (mw.serveClient client paths c (k - 1)).dispatch ⟨paths k, client⟩ (c 0) (c k)

/-- The client's `k`-th request was admitted. -/
def admitted (k : ℕ) : Bool := admits (mw.answer client paths c k)

/-- The bucket `self._buckets[client_ip]` gives after `n` requests: the stored one, or the
factory's at `c 0`. -/
def clientBucket (n : ℕ) : Bucket :=
  ((mw.serveClient client paths c n).buckets (client.getD "unknown")).getD (mw.settings.newBucket (c 0))

@[simp] theorem settings_serveClient (n : ℕ) : (mw.serveClient client paths c n).settings = mw.settings := by
  induction n with
  | zero => rfl
  | succ n ih => simp only [serveClient, settings_dispatch, ih]

variable {mw client paths}
variable (hpaths : ∀ k, 0 < k → startswith (paths k) "/health" = false)
include hpaths

/-- **The client's run is its bucket's run**: request `n + 1` is `Bucket.dispatch` on the
bucket the first `n` left, at the reading `c (n + 1)`. -/
theorem clientBucket_succ (n : ℕ) :
    mw.clientBucket client paths c (n + 1) =
        ((mw.clientBucket client paths c n).dispatch mw.settings (c (n + 1))).state ∧
      mw.admitted client paths c (n + 1) =
        admits ((mw.clientBucket client paths c n).dispatch mw.settings (c (n + 1))) := by
  have h := (mw.serveClient client paths c n).dispatch_of_not_health ⟨paths (n + 1), client⟩ (c 0)
    (c (n + 1)) (hpaths _ n.succ_pos)
  simp only [settings_serveClient] at h
  exact ⟨by simp [clientBucket, serveClient, h.1], h.2⟩

variable (hfresh : mw.buckets (client.getD "unknown") = none)
include hfresh

/-- After `n` requests the client's bucket was last refilled at `c n` and holds at most
`burst_size` tokens. -/
theorem clientBucket_inv (n : ℕ) :
    (mw.clientBucket client paths c n).lastRefill = c n ∧
      (mw.clientBucket client paths c n).tokens ≤ mw.settings.burstSize := by
  cases n with
  | zero => simp [clientBucket, serveClient, hfresh, RateLimitSettings.newBucket]
  | succ n =>
    rw [(clientBucket_succ c hpaths n).1]
    exact ⟨Bucket.dispatch_lastRefill _ _, Bucket.dispatch_tokens_le_burstSize _ _⟩

/-- **A window of requests**: the requests admitted among `i + 1 .. i + m`, plus what the
bucket has left to spend after them, are at most what it had before them plus the refill
of the clock's forward steps inside the window. -/
theorem admitted_window (hr : 0 < mw.settings.requestsPerMinute) (i m : ℕ) :
    (((Finset.Icc (i + 1) (i + m)).filter fun k => mw.admitted client paths c k).card : ℚ) +
        (mw.clientBucket client paths c (i + m)).potential ≤
      (mw.clientBucket client paths c i).potential +
        mw.settings.refillRate * ∑ k ∈ Finset.Icc (i + 1) (i + m), max 0 (c k - c (k - 1)) := by
  induction m with
  | zero =>
    rw [add_zero, Finset.Icc_eq_empty_of_lt (Nat.lt_succ_self i)]
    simp
  | succ m ih =>
    have hle : i + 1 ≤ i + m + 1 := by omega
    have hstep := (mw.clientBucket client paths c (i + m)).dispatch_potential (c (i + m + 1)) hr
    rw [← (clientBucket_succ c hpaths _).1, ← (clientBucket_succ c hpaths _).2,
      (clientBucket_inv c hpaths hfresh _).1] at hstep
    rw [← add_assoc, Finset.card_filter, Finset.sum_Icc_succ_top hle, ← Finset.card_filter,
      Finset.sum_Icc_succ_top hle]
    push_cast
    linarith

/-- **The token bucket's guarantees**, for any clock readings, forward or back: the client's
bucket never holds more than `burst_size` tokens, and among any of its requests `i .. j` at
most `burst_size` plus `requests_per_minute / 60` times the clock's forward steps are
admitted. -/
theorem dispatch_admission_bound (hb : 0 ≤ mw.settings.burstSize)
    (hr : 0 < mw.settings.requestsPerMinute) :
    (∀ n b, (mw.serveClient client paths c n).buckets (client.getD "unknown") = some b →
        b.tokens ≤ mw.settings.burstSize) ∧
      ∀ i j, 1 ≤ i → i ≤ j →
        (((Finset.Icc i j).filter fun k => mw.admitted client paths c k).card : ℚ) ≤
          mw.settings.burstSize + (mw.settings.requestsPerMinute : ℚ) / 60 *
            ∑ k ∈ Finset.Icc i j, max 0 (c k - c (k - 1)) := by
  refine ⟨fun n b h => ?_, fun i j hi hij => ?_⟩
  · have := (clientBucket_inv c hpaths hfresh n).2
    rwa [clientBucket, h] at this
  · obtain ⟨i, rfl⟩ := Nat.exists_eq_add_of_le' hi
    obtain ⟨m, rfl⟩ := Nat.exists_eq_add_of_le (Nat.le_of_succ_le hij)
    have hwin := admitted_window c hpaths hfresh hr i m
    have hstart := Bucket.potential_le_burstSize _ hb (clientBucket_inv c hpaths hfresh i).2
    have hend := (mw.clientBucket client paths c (i + m)).potential_nonneg
    unfold RateLimitSettings.refillRate at hwin
    linarith

end Client

/-- The default settings, and a client whose clock reads one second more at each request. -/
theorem dispatch_admission_bound_defaults :
    let mw := init none
    let client := some "10.0.0.7"
    let paths : ℕ → String := fun _ => "/api/v1/deployments"
    let c : ℕ → ℚ := fun k => k
    ((∀ k, 0 < k → startswith (paths k) "/health" = false) ∧
      mw.buckets (client.getD "unknown") = none ∧ 0 ≤ mw.settings.burstSize ∧
      0 < mw.settings.requestsPerMinute) ∧
    (∀ n b, (mw.serveClient client paths c n).buckets (client.getD "unknown") = some b →
        b.tokens ≤ mw.settings.burstSize) ∧
      ∀ i j, 1 ≤ i → i ≤ j →
        (((Finset.Icc i j).filter fun k => mw.admitted client paths c k).card : ℚ) ≤
          mw.settings.burstSize + (mw.settings.requestsPerMinute : ℚ) / 60 *
            ∑ k ∈ Finset.Icc i j, max 0 (c k - c (k - 1)) := by
  intro mw client paths c
  have hpaths : ∀ k, 0 < k → startswith (paths k) "/health" = false := fun _ _ => rfl
  have hfresh : mw.buckets (client.getD "unknown") = none := rfl
  have hb : 0 ≤ mw.settings.burstSize := by decide
  have hr : 0 < mw.settings.requestsPerMinute := by decide
  exact ⟨⟨hpaths, hfresh, hb, hr⟩, @dispatch_admission_bound mw client paths c hpaths hfresh hb hr⟩

/-! ### Many clients

The middleware serves every client from one dict, in one order. Seen from one address, its
run is the run of that client's bucket over the client's own requests outside `/health`:
the other requests neither change the bucket nor are seen by it. -/

/-- A request of the client `ip` that goes through its bucket. -/
def isOwn (ip : String) (x : Request × ℚ × ℚ) : Bool :=
  x.1.client.getD "unknown" == ip && !startswith x.1.path "/health"

/-- The middleware after serving `requests` in order, each with its two clock readings, and
whether each was admitted. -/
def run (mw : RateLimiterMiddleware) : List (Request × ℚ × ℚ) → List Bool × RateLimiterMiddleware
  | [] => ([], mw)
  | (request, created, now) :: rest =>
    let r := mw.dispatch request created now
    (admits r :: (run r.state rest).1, (run r.state rest).2)

end RateLimiterMiddleware

/-- One client's bucket over its own requests' readings: the factory's bucket at the first
when there is none, `Bucket.dispatch` at each, and whether each was admitted. -/
def Bucket.run (s : RateLimitSettings) : Option Bucket → List (ℚ × ℚ) → List Bool × Option Bucket
  | b, [] => ([], b)
  | b, (created, now) :: rest =>
    let r := (b.getD (s.newBucket created)).dispatch s now
    (admits r :: (Bucket.run s (some r.state) rest).1, (Bucket.run s (some r.state) rest).2)

namespace RateLimiterMiddleware

/-- **Clients are isolated.** After any interleaving of requests, from any clients and on any
paths, the bucket of `ip` and the admission of each of its requests are those of its bucket
run over its own requests alone. -/
theorem run_refines_bucket (ip : String) (requests : List (Request × ℚ × ℚ)) :
    ∀ mw : RateLimiterMiddleware,
      (mw.run requests).2.buckets ip =
          (Bucket.run mw.settings (mw.buckets ip) ((requests.filter (isOwn ip)).map (·.2))).2 ∧
        ((requests.zip (mw.run requests).1).filter (isOwn ip ·.1)).map (·.2) =
          (Bucket.run mw.settings (mw.buckets ip) ((requests.filter (isOwn ip)).map (·.2))).1 ∧
        (mw.run requests).2.settings = mw.settings := by
  induction requests with
  | nil => exact fun _ => ⟨rfl, rfl, rfl⟩
  | cons x rest ih =>
    intro mw
    obtain ⟨request, created, now⟩ := x
    obtain ⟨ih1, ih2, ih3⟩ := ih (mw.dispatch request created now).state
    rw [settings_dispatch] at ih1 ih2 ih3
    simp only [run, List.zip_cons_cons]
    by_cases hown : isOwn ip (request, created, now) = true
    · obtain ⟨hc, hp⟩ : request.client.getD "unknown" = ip ∧
          startswith request.path "/health" = false := by simpa [isOwn] using hown
      obtain ⟨hstate, hadm⟩ := mw.dispatch_of_not_health request created now hp
      rw [hc] at hstate hadm
      have hb : (mw.dispatch request created now).state.buckets ip =
          some (((mw.buckets ip).getD (mw.settings.newBucket created)).dispatch mw.settings now).state := by
        rw [hstate]
        exact Function.update_same _ _ _
      rw [hb] at ih1 ih2
      simp only [List.filter_cons, hown, if_true, List.map_cons, Bucket.run]
      exact ⟨ih1, by rw [hadm, ih2], ih3⟩
    · have hb := mw.dispatch_buckets_of_not_own request created now ip fun hp hc =>
        hown (by simp [isOwn, hc, hp])
      rw [hb] at ih1 ih2
      simp only [List.filter_cons, hown, Bool.false_eq_true, if_false]
      exact ⟨ih1, ih2, ih3⟩

end RateLimiterMiddleware

end Orchestrator
