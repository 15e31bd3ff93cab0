import Mathlib.Data.List.Chain
import Mathlib.Data.Rat.Floor

/-!
# The token bucket of the total limit

`RedisLimiter.Allow` (`common/limiter/limiter.go`) runs `rate_limit.lua` on the bucket of a key.
The script runs at once, its key stays, and its numbers are exact. `redisRateLimitHandler`
(`middleware/model-rate-limit.go`) takes `duration` tokens for a request from a bucket that gets
`totalMaxCount` tokens a second.

* `allow_limits`: the tokens used in an interval, the tokens stored and the requests rejected.
-/

namespace OmniRouters.RateLimit.TokenBucket

open List

/-! ## Calls -/

/-- `Config` (limiter.go:86-90) with the defaults of `Allow`. -/
structure Config where
  capacity : ℤ := 10
  rate : ℤ := 1
  requested : ℤ := 1

/-- The hash of a key, of which the script writes both fields. -/
structure Bucket where
  tokens : ℤ
  lastTime : ℤ

/-- The tokens at a second (rate_limit.lua:22-33). -/
def available (cfg : Config) (now : ℤ) : Option Bucket → ℤ
  | none => cfg.capacity
  | some b => min cfg.capacity (b.tokens + (now - b.lastTime) * cfg.rate)

/-- `rate_limit.lua` (lines 7-44). -/
def rateLimit (cfg : Config) (now : ℤ) (bucket : Option Bucket) : Bool × Bucket :=
  let tokens := available cfg now bucket
  if tokens ≥ cfg.requested then (true, ⟨tokens - cfg.requested, now⟩) else (false, ⟨tokens, now⟩)

/-- What becomes of a command that runs the script: the result arrives or is lost, Redis does not
have the script, or the command fails. -/
inductive Reply
  | result
  | lost
  | noScript
  | failed

/-- A call of `Allow`: the second of the Redis clock and the replies to `EVALSHA` and `EVAL`. -/
structure Call where
  now : ℤ
  evalSha : Reply := .result
  eval : Reply := .result

/-- The reply that `Allow` goes by: to `EVAL` where `EVALSHA` finds no script (lines 66-80). -/
def Call.reply (call : Call) : Reply :=
  match call.evalSha with
  | .noScript => call.eval
  | reply => reply

/-- `RedisLimiter.Allow` (lines 43-83): whether the request is allowed, `none` for an error, and the
bucket afterwards. -/
def allow (cfg : Config) (call : Call) (bucket : Option Bucket) : Option Bool × Option Bucket :=
  match call.reply with
  | .result => (some (rateLimit cfg call.now bucket).1, some (rateLimit cfg call.now bucket).2)
  | .lost => (none, some (rateLimit cfg call.now bucket).2)
  | .noScript => (none, bucket)
  | .failed => (none, bucket)

/-- The bucket after calls. -/
def after (cfg : Config) : Option Bucket → List Call → Option Bucket
  | bucket, [] => bucket
  | bucket, call :: rest => after cfg (allow cfg call bucket).2 rest

/-- The seconds and the answers of calls. -/
def answers (cfg : Config) : Option Bucket → List Call → List (ℤ × Option Bool)
  | _, [] => []
  | bucket, call :: rest =>
    (call.now, (allow cfg call bucket).1) :: answers cfg (allow cfg call bucket).2 rest

/-- The number of requests accepted from `s` to `t`. -/
def accepted (s t : ℤ) (answers : List (ℤ × Option Bool)) : ℤ :=
  answers.countP fun a => (s ≤ a.1 ∧ a.1 ≤ t) ∧ a.2 = some true

/-! ## The handler -/

def maxInt64 : ℤ := 2 ^ 63 - 1

/-- `rateLimitCapacity` (model-rate-limit.go:381-390). -/
def rateLimitCapacity (count durationSeconds : ℤ) : ℤ :=
  if count ≤ 0 ∨ durationSeconds ≤ 0 then 0
  else if count > maxInt64 / durationSeconds then maxInt64
  else count * durationSeconds

/-- The options of `redisRateLimitHandler` (lines 260-262). -/
def totalConfig (totalMaxCount duration : ℤ) : Config where
  capacity := rateLimitCapacity totalMaxCount duration
  rate := totalMaxCount
  requested := duration

/-! ## The tokens of a bucket -/

variable {cfg : Config} {bucket : Option Bucket} {call : Call} {calls : List Call}
  {now later s t gap : ℤ}

/-- What a call does: it leaves the bucket, or the script runs and there are enough tokens or not.
The answer may be lost. -/
inductive Outcome (cfg : Config) (call : Call) (bucket : Option Bucket) :
    Option Bool × Option Bucket → Prop
  | same : Outcome cfg call bucket (none, bucket)
  | allowed {answer : Option Bool} (henough : cfg.requested ≤ available cfg call.now bucket)
      (hanswer : answer ≠ some false) : Outcome cfg call bucket
        (answer, some ⟨available cfg call.now bucket - cfg.requested, call.now⟩)
  | rejected {answer : Option Bool} (hfew : available cfg call.now bucket < cfg.requested)
      (hanswer : answer ≠ some true) : Outcome cfg call bucket
        (answer, some ⟨available cfg call.now bucket, call.now⟩)

theorem allow_outcome (cfg : Config) (call : Call) (bucket : Option Bucket) :
    Outcome cfg call bucket (allow cfg call bucket) := by
  fun_cases allow cfg call bucket
  case case3 | case4 => exact .same
  all_goals
    fun_cases rateLimit cfg call.now bucket
    · exact .allowed ‹_› (by simp)
    · exact .rejected (not_le.1 ‹_›) (by simp)

/-- What the script leaves in a bucket that was last used by `now`. -/
def Stored (cfg : Config) (now : ℤ) (bucket : Option Bucket) : Prop :=
  ∀ b, bucket = some b → 0 ≤ b.tokens ∧ b.tokens ≤ cfg.capacity ∧ b.lastTime ≤ now

theorem Stored.mono (h : Stored cfg now bucket) (hle : now ≤ later) : Stored cfg later bucket :=
  fun b hb => ⟨(h b hb).1, (h b hb).2.1, (h b hb).2.2.trans hle⟩

theorem available_le (cfg : Config) (now : ℤ) (bucket : Option Bucket) :
    available cfg now bucket ≤ cfg.capacity := by
  cases bucket with
  | none => exact le_refl _
  | some b => exact min_le_left _ _

theorem accepted_cons (s t now : ℤ) (answer : Option Bool) (rest : List (ℤ × Option Bool)) :
    accepted s t ((now, answer) :: rest) =
      accepted s t rest + if (s ≤ now ∧ now ≤ t) ∧ answer = some true then 1 else 0 := by
  simp [accepted, countP_cons]

theorem accepted_late (hlate : ∀ call ∈ calls, t < call.now) :
    accepted s t (answers cfg bucket calls) = 0 := by
  induction calls generalizing bucket with
  | nil => rfl
  | cons call rest ih =>
    have hnow := hlate call mem_cons_self
    rw [answers, accepted_cons, ih fun other hother => hlate other (mem_cons_of_mem _ hother),
      if_neg (by omega), add_zero]

/-- What a call uses, if it is counted. -/
theorem allow_uses (hrequested : 0 < cfg.requested) (call : Call) (bucket : Option Bucket)
    (counted : Prop) [Decidable counted] :
    (cfg.requested * if counted ∧ (allow cfg call bucket).1 = some true then 1 else 0) +
        available cfg call.now (allow cfg call bucket).2 ≤ available cfg call.now bucket := by
  have hout := allow_outcome cfg call bucket
  generalize allow cfg call bucket = res at hout ⊢
  cases hout with
  | same => simp
  | allowed =>
    have hkept := min_le_right cfg.capacity (available cfg call.now bucket - cfg.requested)
    simp only [available, sub_self, zero_mul, add_zero]
    split <;> omega
  | rejected _ hanswer =>
    have hkept := min_le_right cfg.capacity (available cfg call.now bucket)
    simpa only [available, sub_self, zero_mul, add_zero, hanswer, and_false, if_false, mul_zero,
      zero_add] using hkept

section Positive

variable (hcapacity : 0 < cfg.capacity) (hrate : 0 < cfg.rate)

include hrate

/-- The rate bounds the tokens that a bucket gets. -/
theorem available_later (bucket : Option Bucket) (hle : now ≤ later) :
    available cfg now bucket ≤ available cfg later bucket ∧
      available cfg later bucket ≤ available cfg now bucket + (later - now) * cfg.rate := by
  have hadded : 0 ≤ (later - now) * cfg.rate := mul_nonneg (by omega) hrate.le
  cases bucket with
  | none =>
    dsimp only [available]
    omega
  | some b =>
    have hsum : (later - b.lastTime) * cfg.rate =
        (now - b.lastTime) * cfg.rate + (later - now) * cfg.rate := by ring
    dsimp only [available]
    omega

include hcapacity

theorem Stored.available_nonneg (h : Stored cfg now bucket) : 0 ≤ available cfg now bucket := by
  cases bucket with
  | none => exact hcapacity.le
  | some b =>
    obtain ⟨htokens, -, hpast⟩ := h b rfl
    have hadded : 0 ≤ (now - b.lastTime) * cfg.rate := mul_nonneg (by omega) hrate.le
    exact le_min hcapacity.le (by omega)

variable (hrequested : 0 < cfg.requested)

include hrequested

theorem Stored.allow (h : Stored cfg call.now bucket) :
    Stored cfg call.now (allow cfg call bucket).2 := by
  have hnonneg := h.available_nonneg hcapacity hrate
  have hle := available_le cfg call.now bucket
  have hout := allow_outcome cfg call bucket
  generalize TokenBucket.allow cfg call bucket = res at hout ⊢
  cases hout with
  | same => exact h
  | allowed henough =>
    rintro b ⟨⟩
    dsimp only
    omega
  | rejected =>
    rintro b ⟨⟩
    exact ⟨hnonneg, hle, le_refl _⟩

section

variable (hclock : calls.Pairwise fun a b => a.now ≤ b.now)

include hclock

theorem Stored.after (h : ∀ call ∈ calls, Stored cfg call.now bucket)
    (hnow : Stored cfg now bucket) :
    ∃ now, Stored cfg now (after cfg bucket calls) := by
  induction calls generalizing bucket now with
  | nil => exact ⟨now, hnow⟩
  | cons call rest ih =>
    obtain ⟨hfirst, hclock⟩ := pairwise_cons.1 hclock
    have hcall := (h call mem_cons_self).allow hcapacity hrate hrequested
    exact ih hclock (fun other hother => hcall.mono (hfirst other hother)) hcall

/-- **The potential.** The requests use the tokens that are available and those that are added. -/
theorem accepted_le_available (hfrom : ∀ call ∈ calls, now ≤ call.now) (h : Stored cfg now bucket)
    (hle : now ≤ t) : cfg.requested * accepted s t (answers cfg bucket calls) ≤
      available cfg now bucket + (t - now) * cfg.rate := by
  have hadded : 0 ≤ (t - now) * cfg.rate := mul_nonneg (by omega) hrate.le
  have hnonneg := h.available_nonneg hcapacity hrate
  induction calls generalizing bucket now with
  | nil => simpa [answers, accepted] using add_nonneg hnonneg hadded
  | cons call rest ih =>
    obtain ⟨hfirst, hclock⟩ := pairwise_cons.1 hclock
    have hnow := hfrom call mem_cons_self
    rcases lt_or_ge t call.now with hlt | hge
    · have hlate : ∀ other ∈ call :: rest, t < other.now :=
        forall_mem_cons.2 ⟨hlt, fun other hother => hlt.trans_le (hfirst other hother)⟩
      rw [accepted_late hlate, mul_zero]
      exact add_nonneg hnonneg hadded
    have hcall := (h.mono hnow).allow hcapacity hrate hrequested
    have hrest := ih hclock hfirst hcall hge (mul_nonneg (by omega) hrate.le)
      (hcall.available_nonneg hcapacity hrate)
    have huses := allow_uses hrequested call bucket (s ≤ call.now ∧ call.now ≤ t)
    have hlater := (available_later hrate bucket hnow).2
    have hsum : (t - now) * cfg.rate =
        (call.now - now) * cfg.rate + (t - call.now) * cfg.rate := by ring
    rw [answers, accepted_cons, mul_add]
    omega

/-- The requests from `s` to `t` use a full bucket and the tokens that are added. -/
theorem accepted_le (h : ∀ call ∈ calls, Stored cfg call.now bucket) (hs : Stored cfg s bucket)
    (hle : s ≤ t) : cfg.requested * accepted s t (answers cfg bucket calls) ≤
      cfg.capacity + (t - s) * cfg.rate := by
  induction calls generalizing bucket with
  | nil =>
    have hadded : 0 ≤ (t - s) * cfg.rate := mul_nonneg (by omega) hrate.le
    simpa [answers, accepted] using add_nonneg hcapacity.le hadded
  | cons call rest ih =>
    obtain ⟨hfirst, hrest⟩ := pairwise_cons.1 hclock
    rcases lt_or_ge call.now s with hlt | hge
    · have hcall := (h call mem_cons_self).allow hcapacity hrate hrequested
      rw [answers, accepted_cons, if_neg (by omega), add_zero]
      exact ih hrest (fun other hother => hcall.mono (hfirst other hother)) (hcall.mono hlt.le)
    · have hfrom : ∀ other ∈ call :: rest, s ≤ other.now :=
        forall_mem_cons.2 ⟨hge, fun other hother => hge.trans (hfirst other hother)⟩
      have hbound := accepted_le_available hcapacity hrate hrequested hclock hfrom hs hle (s := s)
      have hcapped := available_le cfg s bucket
      omega

end

end Positive

/-- **Spaced calls** find their tokens. -/
theorem spaced_allowed (hrate : 0 < cfg.rate) (hrequested : 0 < cfg.requested)
    (hfits : cfg.requested ≤ cfg.capacity) (hgap : cfg.requested ≤ gap * cfg.rate)
    (hspaced : calls.IsChain fun a b => a.now + gap ≤ b.now)
    (hhead : ∀ call, calls.head? = some call → cfg.requested ≤ available cfg call.now bucket) :
    ∀ a ∈ answers cfg bucket calls, a.2 ≠ some false := by
  have hpos : 0 < gap := (pos_iff_pos_of_mul_pos (hrequested.trans_le hgap)).2 hrate
  induction calls generalizing bucket with
  | nil => simp [answers]
  | cons call rest ih =>
    have henough := hhead call rfl
    obtain ⟨hnext, hrest⟩ := isChain_cons.1 hspaced
    have hout := allow_outcome cfg call bucket
    rw [answers, forall_mem_cons]
    generalize allow cfg call bucket = res at hout ⊢
    cases hout with
    | same =>
      refine ⟨by simp, ih hrest fun next hmem => henough.trans ?_⟩
      exact (available_later hrate bucket (by have := hnext next hmem; omega)).1
    | allowed _ hanswer =>
      refine ⟨hanswer, ih hrest fun next hmem => le_min hfits ?_⟩
      have hadded : gap * cfg.rate ≤ (next.now - call.now) * cfg.rate :=
        mul_le_mul_of_nonneg_right (by have := hnext next hmem; omega) hrate.le
      dsimp only
      omega
    | rejected hfew => omega

/-! ## The limits -/

/-- What the calls on a key keep to. -/
structure Limits (cfg : Config) (calls : List Call) : Prop where
  window : ∀ s t, s ≤ t → cfg.requested * accepted s t (answers cfg none calls) ≤
    cfg.capacity + (t - s) * cfg.rate
  stored : ∀ b, after cfg none calls = some b → 0 ≤ b.tokens ∧ b.tokens ≤ cfg.capacity
  rejected : ∀ init call, init ++ [call] <+: calls →
    (allow cfg call (after cfg none init)).1 = some false →
    available cfg call.now (after cfg none init) < cfg.requested

/-- What the calls of `redisRateLimitHandler` keep to. -/
structure TotalLimit (totalMaxCount duration : ℤ) (calls : List Call) : Prop where
  window : ∀ s t, s ≤ t → accepted s t (answers (totalConfig totalMaxCount duration) none calls) ≤
    totalMaxCount + totalMaxCount * (t - s) / duration
  spaced : (calls.IsChain fun a b => a.now + ⌈(duration / totalMaxCount : ℚ)⌉ ≤ b.now) →
    ∀ a ∈ answers (totalConfig totalMaxCount duration) none calls, a.2 ≠ some false

theorem rateLimitCapacity_eq {count duration : ℤ} (hcount : 0 < count) (hduration : 0 < duration)
    (hmax : count * duration ≤ maxInt64) : rateLimitCapacity count duration = count * duration := by
  have hle : count ≤ maxInt64 / duration := Int.le_ediv_of_mul_le hduration hmax
  rw [rateLimitCapacity, if_neg (by omega), if_neg (by omega)]

theorem limits_of_clock (hclock : calls.Pairwise fun a b => a.now ≤ b.now)
    (hcapacity : 0 < cfg.capacity) (hrate : 0 < cfg.rate) (hrequested : 0 < cfg.requested) :
    Limits cfg calls := by
  have hstored : ∀ now, Stored cfg now none := by
    rintro now b ⟨⟩
  refine ⟨fun s t hle => ?_, fun b hb => ?_, fun init call _ hanswer => ?_⟩
  · exact accepted_le hcapacity hrate hrequested hclock (fun _ _ => hstored _) (hstored s) hle
  · obtain ⟨now, hafter⟩ :=
      Stored.after hcapacity hrate hrequested hclock (fun _ _ => hstored _) (hstored 0)
    exact ⟨(hafter b hb).1, (hafter b hb).2.1⟩
  · have hout := allow_outcome cfg call (after cfg none init)
    generalize allow cfg call (after cfg none init) = res at hout hanswer
    cases hout with
    | same => cases hanswer
    | allowed _ hne => exact absurd hanswer hne
    | rejected hfew => exact hfew

/-- **The token bucket.** Calls on one key, while the clock of Redis does not go back: with one
configuration, and with that of the handler. -/
theorem allow_limits (calls : List Call) (hclock : calls.Pairwise fun a b => a.now ≤ b.now) :
    (∀ cfg : Config, 0 < cfg.capacity → 0 < cfg.rate → 0 < cfg.requested → Limits cfg calls) ∧
      ∀ totalMaxCount duration, 0 < totalMaxCount → 0 < duration →
        totalMaxCount * duration ≤ maxInt64 → TotalLimit totalMaxCount duration calls := by
  refine ⟨fun _ => limits_of_clock hclock,
    fun count duration hcount hduration hmax => ⟨fun s t hle => ?_, fun hspaced => ?_⟩⟩
  · have hcapacity : (totalConfig count duration).capacity = count * duration :=
      rateLimitCapacity_eq hcount hduration hmax
    have hpos : 0 < (totalConfig count duration).capacity := by
      rw [hcapacity]
      exact mul_pos hcount hduration
    have hwindow := (limits_of_clock hclock hpos hcount hduration).window s t hle
    rw [hcapacity] at hwindow
    change duration * _ ≤ count * duration + (t - s) * count at hwindow
    rw [add_comm, ← Int.add_mul_ediv_right _ _ hduration.ne']
    refine Int.le_ediv_of_mul_le hduration ?_
    rw [mul_comm, mul_comm count (t - s), add_comm]
    exact hwindow
  · have hfits : duration ≤ rateLimitCapacity count duration := by
      rw [rateLimitCapacity_eq hcount hduration hmax]
      exact le_mul_of_one_le_left hduration.le hcount
    have hgap : duration ≤ ⌈(duration / count : ℚ)⌉ * count := by
      have hceil := Int.le_ceil (duration / count : ℚ)
      rw [div_le_iff₀ (by exact_mod_cast hcount)] at hceil
      exact_mod_cast hceil
    exact spaced_allowed hcount hduration hfits hgap hspaced fun _ _ => hfits

/-- Two requests a minute: the third request at once is rejected, the fourth one comes when a half
of the minute is over. -/
def fourCalls : List Call :=
  [{ now := 0, evalSha := .noScript }, { now := 0 }, { now := 0 }, { now := 30 }]

theorem allow_limits_four :
    (answers (totalConfig 2 60) none fourCalls).map Prod.snd =
        [some true, some true, some false, some true] ∧
      Limits (totalConfig 2 60) fourCalls ∧ TotalLimit 2 60 fourCalls := by
  obtain ⟨hlimits, htotal⟩ := allow_limits fourCalls (by decide)
  exact ⟨by decide, hlimits _ (by decide) (by decide) (by decide),
    htotal 2 60 (by decide) (by decide) (by decide)⟩

end OmniRouters.RateLimit.TokenBucket
