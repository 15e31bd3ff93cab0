import Mathlib.Algebra.Order.Ring.Int
import OmniRouters.Lib.Runs

/-!
# The limits per minute and per day

`newRateLimitHandler` (`middleware/model-rate-limit.go`) checks a request against the limits of
requests per minute (RPM), tokens per minute (TPM) and requests per day (RPD), one after the other,
and returns at the first that rejects it. A check of the requests counts the request at once; the
tokens are counted when the request ends. The counters are in Redis or in memory. Redis does not
fail. A counter outlives the window in its name, so that its expiration is not modelled.

* `redis_eq_memory`: the two stores decide and count alike.
* `rejected_unspent`: a rejected request leaves the counters, where the RPM limit is off, rejects
  the request itself or is followed by limits that admit it.
* `rejected_counted`: a request that the tokens reject uses up the requests per minute.
-/

namespace OmniRouters.RateLimit.FixedWindow

open Lib Function

/-! ## Counters -/

/-- The name of a limit. -/
inductive Name
  | rpm
  | tpm
  | rpd
  deriving DecidableEq

/-- A counter: the limit, the subject and the number of the window. -/
structure Key where
  name : Name
  subject : String
  bucket : ℤ
  deriving DecidableEq

/-- The counters. A missing one is zero. -/
abbrev Values := Key → ℤ

/-- A limit of the loop in `newRateLimitHandler` with the length of its window in seconds. -/
structure Check where
  name : Name
  limit : ℤ
  window : ℤ

/-- The counter of a check at a time. -/
def Check.key (check : Check) (subject : String) (now : ℤ) : Key :=
  ⟨check.name, subject, now / check.window⟩

/-- `checkFixedWindowMemory` (lines 47-65). -/
def checkFixedWindowMemory (values : Values) (key : Key) (limit amount : ℤ) : Bool × Values :=
  if limit ≤ 0 then (true, values)
  else
    let current := values key
    if amount = 0 then (current < limit, values)
    else if current + amount > limit then (false, values)
    else (true, Function.update values key (current + amount))

/-- `checkFixedWindowRedis` (lines 67-93): `INCRBY`, and `DECRBY` above the limit. -/
def checkFixedWindowRedis (values : Values) (key : Key) (limit amount : ℤ) : Bool × Values :=
  if limit ≤ 0 then (true, values)
  else if amount = 0 then (values key < limit, values)
  else
    let value := values key + amount
    let incremented := Function.update values key value
    if value ≤ limit then (true, incremented)
    else (false, Function.update incremented key (value - amount))

/-- **The two stores** decide and count alike. -/
theorem redis_eq_memory : checkFixedWindowRedis = checkFixedWindowMemory := by
  funext values key limit amount
  simp only [checkFixedWindowRedis, checkFixedWindowMemory, update_idem,
    add_sub_cancel_right, update_eq_self, gt_iff_lt, ← not_le, ite_not]

/-! ## Requests -/

/-- `ModelRateLimit` (setting/rate_limit.go:31-35). -/
structure ModelRateLimit where
  rpm : ℤ
  tpm : ℤ
  rpd : ℤ

/-- A request of a subject, with the second at which each check reads the clock. -/
structure Request where
  subject : String
  limits : ModelRateLimit
  now : Name → ℤ

/-- The checks of a request (lines 124-132). -/
def ModelRateLimit.rpmCheck (limits : ModelRateLimit) : Check := ⟨.rpm, limits.rpm, 60⟩
@[inherit_doc ModelRateLimit.rpmCheck] def ModelRateLimit.tpmCheck (limits : ModelRateLimit) :
    Check := ⟨.tpm, limits.tpm, 60⟩
@[inherit_doc ModelRateLimit.rpmCheck] def ModelRateLimit.rpdCheck (limits : ModelRateLimit) :
    Check := ⟨.rpd, limits.rpd, 86400⟩

/-- The counter that a check of a request reads. -/
def Request.key (r : Request) (check : Check) : Key := check.key r.subject (r.now check.name)

/-- The loop over the checks (lines 133-157): the limit that rejects the request, if any, and the
counters afterwards. -/
def runChecks (redisEnabled : Bool) (r : Request) : List Check → Values → Option Name × Values
  | [], values => (none, values)
  | check :: rest, values =>
    let amount := if check.name = .tpm then 0 else 1
    let checked :=
      if redisEnabled then checkFixedWindowRedis values (r.key check) check.limit amount
      else checkFixedWindowMemory values (r.key check) check.limit amount
    if checked.1 then runChecks redisEnabled r rest checked.2 else (some check.name, checked.2)

/-- The part of `newRateLimitHandler` before the request is served. -/
def checkLimits (redisEnabled : Bool) (r : Request) (values : Values) : Option Name × Values :=
  runChecks redisEnabled r [r.limits.rpmCheck, r.limits.tpmCheck, r.limits.rpdCheck] values

/-- The part after it (lines 159-174): the tokens are counted, up to the limit. `usage` and
`estimated` are `ContextKeyRateLimitTokens` and `ContextKeyEstimatedTokens`. -/
def record (r : Request) (now usage estimated : ℤ) (values : Values) : Values :=
  if r.limits.tpm > 0 then
    let tokens := min (if usage ≤ 0 then estimated else usage) r.limits.tpm
    let key : Key := ⟨.tpm, r.subject, now / 60⟩
    if tokens > 0 then Function.update values key (values key + tokens) else values
  else values

/-! ## Runs -/

/-- The counters, what the admitted requests have used of them, and the requests that are being
served. -/
structure State where
  values : Values
  used : Values
  serving : List Request

/-- A request comes, or the `i`-th of those that are being served ends. -/
inductive Action
  | come (r : Request)
  | finish (i : ℕ) (now usage estimated : ℤ)

/-- One step of `newRateLimitHandler`. -/
def step (redisEnabled : Bool) (s : State) : Action → Option State
  | .come r =>
    let (rejected, values) := checkLimits redisEnabled r s.values
    if rejected.isSome then some { s with values := values }
    else some ⟨values, fun key => s.used key + (values key - s.values key), r :: s.serving⟩
  | .finish i now usage estimated => do
    let r ← s.serving[i]?
    some ⟨record r now usage estimated s.values, fun key =>
      s.used key + (record r now usage estimated s.values key - s.values key), s.serving.eraseIdx i⟩

/-- A check lets a request pass. -/
def Request.passes (r : Request) (values : Values) (check : Check) : Prop :=
  check.limit ≤ 0 ∨ values (r.key check) < check.limit

instance (r : Request) (values : Values) (check : Check) : Decidable (r.passes values check) :=
  inferInstanceAs (Decidable (_ ∨ _))

/-- The RPM limit is off, it rejects the request, or the other limits let the request pass. -/
def Spared (s : State) : Action → Prop
  | .come r => r.limits.rpm ≤ 0 ∨ ¬ r.passes s.values r.limits.rpmCheck ∨
      r.passes s.values r.limits.tpmCheck ∧ r.passes s.values r.limits.rpdCheck
  | .finish .. => True

instance (s : State) : ∀ a, Decidable (Spared s a)
  | .come _ => inferInstanceAs (Decidable (_ ∨ _ ∨ _ ∧ _))
  | .finish .. => inferInstanceAs (Decidable True)

/-- The counters after a request has passed a check. -/
def Request.count (r : Request) (check : Check) (values : Values) : Values :=
  if check.limit ≤ 0 ∨ check.name = .tpm then values
  else Function.update values (r.key check) (values (r.key check) + 1)

section Checks

variable {redisEnabled : Bool} {r : Request}

theorem runChecks_cons (check : Check) (rest : List Check) (values : Values) :
    runChecks redisEnabled r (check :: rest) values =
      if r.passes values check then runChecks redisEnabled r rest (r.count check values)
      else (some check.name, values) := by
  simp only [runChecks, redis_eq_memory, ite_self, checkFixedWindowMemory, Request.passes,
    Request.count]
  by_cases hlimit : check.limit ≤ 0
  · simp [hlimit]
  by_cases hname : check.name = .tpm
  · simp [hlimit, hname]
  by_cases hroom : values (r.key check) < check.limit
  · have hfits : ¬ check.limit < values (r.key check) + 1 := by omega
    simp [hlimit, hname, hroom, hfits]
  · have hfull : check.limit < values (r.key check) + 1 := by omega
    simp [hlimit, hname, hroom, hfull]

/-- A check does not read the counter of another. -/
theorem passes_count (check other : Check) (hne : other.name ≠ check.name) (values : Values) :
    r.passes (r.count check values) other ↔ r.passes values other := by
  have hkey : r.key other ≠ r.key check := fun h => hne (congrArg Key.name h)
  unfold Request.passes Request.count
  split
  · rfl
  · rw [update_of_ne hkey]

/-- **A rejected request** leaves the counters. -/
theorem admit_rejected {s : State} (hspared : Spared s (.come r))
    (h : (checkLimits redisEnabled r s.values).1.isSome) :
    (checkLimits redisEnabled r s.values).2 = s.values := by
  have htokens : ∀ values, r.count r.limits.tpmCheck values = values := fun values =>
    if_pos (Or.inr rfl)
  have htpm := passes_count (r := r) r.limits.rpmCheck r.limits.tpmCheck Name.noConfusion s.values
  have hrpd := passes_count (r := r) r.limits.rpmCheck r.limits.rpdCheck Name.noConfusion s.values
  unfold checkLimits at h ⊢
  simp only [runChecks_cons, htokens, htpm, hrpd] at h ⊢
  rcases hspared with hoff | hrejects | ⟨htokensPass, hdayPasses⟩
  · have hcount : r.count r.limits.rpmCheck s.values = s.values := if_pos (Or.inl hoff)
    rw [hcount] at h ⊢
    split_ifs at h ⊢
    · exact absurd h Bool.false_ne_true
    · rfl
    · rfl
    · rfl
  · rw [if_neg hrejects]
  · rw [if_pos htokensPass, if_pos hdayPasses] at h ⊢
    split_ifs at h ⊢
    · exact absurd h Bool.false_ne_true
    · rfl

end Checks

/-- One step counts for the admitted requests what it counts. -/
theorem values_eq_used {redisEnabled : Bool} {s s' : State} {a : Action}
    (hvalues : s.values = s.used) (hspared : Spared s a) (hstep : step redisEnabled s a = some s') :
    s'.values = s'.used := by
  cases a with
  | come r =>
    simp only [step] at hstep
    split_ifs at hstep with h
    · cases hstep
      exact (admit_rejected hspared h).trans hvalues
    · cases hstep
      simp [hvalues]
  | finish i now usage estimated =>
    obtain ⟨r, -, hr⟩ := Option.bind_eq_some_iff.1 hstep
    cases hr
    simp [hvalues]

/-- **Rejected requests use nothing.** In a run whose requests are spared, the counters hold what
the admitted requests have used, and a rejected request leaves them. -/
theorem rejected_unspent {redisEnabled : Bool} {s t : State} (hstart : s.values = s.used)
    (hrun : Exec (step redisEnabled) Spared s t) :
    t.values = t.used ∧ ∀ r, Spared t (.come r) → (checkLimits redisEnabled r t.values).1.isSome →
      (checkLimits redisEnabled r t.values).2 = t.values :=
  ⟨hrun.invariant (I := fun s => s.values = s.used) (fun _ _ _ => values_eq_used) hstart,
    fun _ => admit_rejected⟩

/-- No request has come. -/
def initial : State := ⟨fun _ => 0, fun _ => 0, []⟩

/-- A request in the first minute, with two requests and `tpm` tokens per minute. -/
def requestOf (tpm : ℤ) : Request := ⟨"1", ⟨2, tpm, 0⟩, fun _ => 0⟩

/-- A request of one token has been served. -/
theorem rejected_unspent_served : ∃ t, Exec (step false) Spared initial t ∧
    t.values ⟨.tpm, "1", 0⟩ = 1 ∧ t.values = t.used :=
  Exec.exists_and_of_actions [.come (requestOf 1), .finish 0 0 1 0] (by decide +kernel)
    fun _ hrun _ => (rejected_unspent rfl hrun).1

/-- A request uses up the tokens of the minute. The next is rejected for that, and counts as the
second request. With more tokens the third is rejected as well, after one was admitted. -/
theorem rejected_counted : ∃ t, Exec (step true) (fun _ _ => True) initial t ∧
    t.values ⟨.rpm, "1", 0⟩ = 2 ∧ t.used ⟨.rpm, "1", 0⟩ = 1 ∧
      (checkLimits true (requestOf 9) t.values).1 = some .rpm :=
  Exec.exists_of_actions [.come (requestOf 1), .finish 0 0 1 0, .come (requestOf 1)]
    (by decide +kernel)

end OmniRouters.RateLimit.FixedWindow
