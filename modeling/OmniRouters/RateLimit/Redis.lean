import Mathlib.Algebra.Order.Group.Int
import OmniRouters.Lib.Mutex
import OmniRouters.Lib.Threads
import OmniRouters.Lib.Windows

/-!
# The rate limiters in Redis

`redisRateLimiter` (middleware/rate-limit.go:39-82) keeps the times of the requests of a
client in a Redis list. It reads the length and the oldest time in one command each, and then pushes
the new time, trims the list and sets its expiration. `redisRateLimitHandler`
(middleware/model-rate-limit.go:231-282) does the same with `checkRedisRateLimit` before a
request is served and `recordRedisRequest` after it. This is a model of any number of requests of
one client, command by command, where any command may fail. The clock is in nanoseconds, the times
in the list in milliseconds. They are local times without their zone, and are read as if they were
UTC, so that a change of the offset moves the window.

* `Knows.stable`: what a request has found out stays true while time passes and others are refused.
* `Sound.step`: one command keeps what the list says about the requests let through.
* `redis_rate_limit_window`: if the offset is fixed and the requests check and record one after the
  other, no window has more requests than the limit.
* `redis_rate_limit_exceeded`: two requests that check before either has recorded are both let
  through.
-/

namespace OmniRouters.RateLimit.Redis

open Lib List

/-! ## The list of a client -/

/-- The list with the newest time first, and when the key expires. -/
structure Entry where
  list : List ℤ
  expireAt : Option ℤ
deriving DecidableEq

/-- A key that has expired is gone. -/
def Entry.live (now : ℤ) (e : Entry) : Entry :=
  if e.expireAt.any (· ≤ now) then ⟨[], none⟩ else e

/-- `LPUSH`. A new key does not expire. -/
def Entry.lpush (time : ℤ) (e : Entry) : Entry :=
  ⟨time :: e.list, if e.list = [] then none else e.expireAt⟩

/-- `LTRIM 0 stop`, where a negative index counts from the end. -/
def Entry.ltrim (stop : ℤ) (e : Entry) : Entry :=
  { e with list := e.list.take ((if stop < 0 then stop + e.list.length else stop) + 1).toNat }

/-- `EXPIRE`. -/
def Entry.expire (now ttl : ℤ) (e : Entry) : Entry :=
  if e.list = [] then e else { e with expireAt := some (now + ttl) }

/-! ## The requests -/

/-- The two middlewares. -/
inductive Middleware
  | redisRateLimiter
  | redisRateLimitHandler
deriving DecidableEq

/-- The limit, the duration in seconds, the expiration of the key in nanoseconds, and the offset of
the local time zone in milliseconds. -/
structure Config where
  maximum : ℤ
  duration : ℤ
  expiration : ℤ
  offset : ℤ → ℤ

/-- The duration in nanoseconds. -/
def Config.window (cfg : Config) : ℤ := cfg.duration * 1000000000

/-- `Format(timeFormat)`: the local time in whole milliseconds, with a literal `Z`. -/
def Config.format (cfg : Config) (now : ℤ) : ℤ := now / 1000000 + cfg.offset now

/-- When a recorded time was, if the offset is always the same. -/
def Config.instant (cfg : Config) (time : ℤ) : ℤ := (time - cfg.offset 0) * 1000000

/-- A request, by what it does next. -/
inductive Stage
  /-- Read the length of the list. -/
  | llen
  /-- Read the oldest time. -/
  | lindex
  /-- Compare it with the clock. -/
  | compare (oldTime : ℤ)
  /-- Set the expiration and refuse the request. -/
  | refuse
  /-- `redisRateLimiter`: let the request through, at a time that is read now. -/
  | pass (full : Bool)
  /-- `redisRateLimitHandler`: check the total limit and let the request through. -/
  | next
  /-- `redisRateLimitHandler`: the request is served. -/
  | serving (since : ℤ)
  /-- `recordRedisRequest`: read the clock. -/
  | record
  /-- Push the time. -/
  | lpush (time : ℤ) (full : Bool)
  /-- Trim the list. -/
  | ltrim
  /-- Set the expiration of a record. -/
  | expire
deriving DecidableEq

/-- The list, the clock, and the times of the requests that were let through, with the newest first
and without those that have failed. -/
structure Shared where
  entry : Entry
  now : ℤ
  passed : List ℤ

/-- The time of a step, and whether its command, the total check or the request succeeds. -/
structure Choice where
  now : ℤ
  ok : Bool

/-- A request that the check allows. Only the list of `redisRateLimiter` may be below the limit
without being trimmed. -/
def Middleware.allowed : Middleware → Bool → Stage
  | .redisRateLimiter, full => .pass full
  | .redisRateLimitHandler, _ => .next

/-- Time passes. -/
def Shared.tick (now : ℤ) (s : Shared) : Shared :=
  { s with entry := s.entry.live now, now := now }

/-- A command, which does nothing if it fails. -/
def Shared.command (ok : Bool) (f : Entry → Entry) (s : Shared) : Shared :=
  if ok then { s with entry := f s.entry } else s

/-- One step of a request: rate-limit.go:43-80, or model-rate-limit.go:180-211 for
the check, lines 248-280 for the handler and lines 219-227 for the record. -/
def Middleware.serve (middleware : Middleware) (cfg : Config) (ok : Bool) (s : Shared) :
    Stage → Shared × List Stage
  | .llen =>
    if middleware = .redisRateLimitHandler ∧ cfg.maximum = 0 then (s, [.next])
    else if ok = false then (s, [])
    else if s.entry.list.length < cfg.maximum then (s, [middleware.allowed false])
    else (s, [.lindex])
  | .lindex =>
    -- without a time the parser fails, and the request with it
    match ok, s.entry.list.getLast? with
    | true, some oldTime => (s, [.compare oldTime])
    | _, _ => (s, [])
  | .compare oldTime =>
    if (cfg.format s.now - oldTime).tdiv 1000 < cfg.duration then (s, [.refuse])
    else (s, [middleware.allowed true])
  | .refuse => (s.command ok (·.expire s.now cfg.expiration), [])
  | .pass full => ({ s with passed := s.now :: s.passed }, [.lpush (cfg.format s.now) full])
  | .next =>
    if ok then ({ s with passed := s.now :: s.passed }, [.serving s.now]) else (s, [])
  | .serving since =>
    if ok = false then ({ s with passed := s.passed.erase since }, [])
    else if cfg.maximum = 0 then (s, [])
    else (s, [.record])
  | .record => (s, [.lpush (cfg.format s.now) true])
  | .lpush time full => (s.command ok (·.lpush time), [if full then .ltrim else .expire])
  | .ltrim => (s.command ok (·.ltrim (cfg.maximum - 1)), [.expire])
  | .expire => (s.command ok (·.expire s.now cfg.expiration), [])

/-- One step of a request, at a time that is not before the last one. -/
def Middleware.advance (middleware : Middleware) (cfg : Config) (c : Choice) (s : Shared)
    (t : Stage) : Option (Shared × List Stage) :=
  if c.now < s.now then none else some (middleware.serve cfg c.ok (s.tick c.now) t)

/-- One if the request is between the first command of its check and the last one of its record. -/
def Stage.inside : Stage → ℕ
  | .llen | .refuse => 0
  | _ => 1

/-- The request has pushed its time but not set the expiration. -/
def Stage.pushed : Stage → Bool
  | .ltrim | .expire => true
  | _ => false

/-- The commands of a record. -/
def Stage.records : Stage → Bool
  | .lpush _ _ | .ltrim | .expire => true
  | _ => false

/-- The steps that read the clock for a record. -/
def Stage.reads : Stage → Bool
  | .pass _ | .record => true
  | _ => false

/-- **One after the other.** A request starts its check while no other is inside, the commands of a
record succeed, the key does not expire between a push and its `EXPIRE`, and a time that is
recorded is a whole number of milliseconds. -/
def OneByOne (p : Pool Shared Stage) (c : Choice) (t : Stage) : Prop :=
  (t = .llen → ∀ u ∈ p.threads, u.inside = 0) ∧
    (t.records = true → c.ok = true) ∧
    ((∃ u ∈ p.threads, u.pushed = true) → p.shared.entry.expireAt.any (· ≤ c.now) = false) ∧
    (t.reads = true → c.now % 1000000 = 0)

instance (p : Pool Shared Stage) (c : Choice) (t : Stage) : Decidable (OneByOne p c t) :=
  inferInstanceAs (Decidable (_ ∧ _ ∧ _ ∧ _))

/-! ## What the list says -/

/-- The list counts the events of a window at least as often as they are. -/
structure Counted (cfg : Config) (s : Shared) (events : List ℤ) : Prop where
  counted : ∀ start, s.now - cfg.window ≤ start →
    events.countP (start < ·) ≤ s.entry.list.countP (start < cfg.instant ·)
  sorted : s.entry.list.Pairwise (· ≥ ·)
  recorded : ∀ time ∈ s.entry.list, cfg.instant time ≤ s.now
  past : ∀ t ∈ events, t ≤ s.now

/-- The list is not longer than the limit, and it expires after the windows of the events. -/
structure Kept (cfg : Config) (s : Shared) (events : List ℤ) : Prop
    extends Counted cfg s events where
  length : s.entry.list.length ≤ cfg.maximum.toNat
  alive : ∀ expiry ∈ s.entry.expireAt, ∀ t ∈ events, t + cfg.window ≤ expiry

/-- The windows from `oldest` on have room for one more request. -/
def Room (cfg : Config) (s : Shared) (oldest : ℤ) : Prop :=
  ∀ start, s.now - cfg.window ≤ start → oldest ≤ start →
    s.passed.countP (start < ·) < cfg.maximum.toNat

/-- A request that was let through and is not recorded. -/
structure InFlight (cfg : Config) (s : Shared) (since : ℤ) (older : List ℤ) : Prop where
  passed : s.passed = since :: older
  kept : Kept cfg s older
  past : since ≤ s.now
  limit : 0 < cfg.maximum.toNat

/-- What a request knows at each stage. -/
def Knows (cfg : Config) (s : Shared) : Stage → Prop
  | .llen | .refuse => True
  | .lindex => Kept cfg s s.passed
  | .compare oldTime =>
    Kept cfg s s.passed ∧ cfg.instant oldTime ≤ s.now ∧ Room cfg s (cfg.instant oldTime)
  | .pass full =>
    Kept cfg s s.passed ∧ Room cfg s (s.now - cfg.window) ∧
      (full = false → s.entry.list.length < cfg.maximum.toNat)
  | .next => Kept cfg s s.passed ∧ Room cfg s (s.now - cfg.window)
  | .serving since => ∃ older, InFlight cfg s since older
  | .record => ∃ since older, InFlight cfg s since older
  | .lpush time full => ∃ since older, InFlight cfg s since older ∧ since ≤ cfg.instant time ∧
      cfg.instant time ≤ s.now ∧ (∀ x ∈ s.entry.list, x ≤ time) ∧
      (full = false → s.entry.list.length < cfg.maximum.toNat)
  | .ltrim => Counted cfg s s.passed ∧ s.entry.list ≠ [] ∧ 0 < cfg.maximum.toNat
  | .expire => Counted cfg s s.passed ∧ s.entry.list ≠ [] ∧
      s.entry.list.length ≤ cfg.maximum.toNat

variable {cfg : Config}

/-- A request that is not inside knows nothing. -/
theorem knows_of_outside {s : Shared} {t : Stage} (ht : t.inside = 0) :
    Knows cfg s t := by
  cases t with
  | llen => trivial
  | refuse => trivial
  | _ => cases ht

/-! ## Time passes -/

/-- Time passes, the key may expire, and its expiration may be set again. -/
structure Passes (cfg : Config) (s s' : Shared) : Prop where
  passed : s'.passed = s.passed
  now : s.now ≤ s'.now
  list : s'.entry.list = s.entry.list ∨
    s'.entry.list = [] ∧ ∃ expiry ∈ s.entry.expireAt, expiry ≤ s'.now
  expireAt : ∀ expiry ∈ s'.entry.expireAt,
    expiry ∈ s.entry.expireAt ∨ expiry = s'.now + cfg.expiration

section Passes

variable {cfg : Config} {s s' : Shared} {events : List ℤ}

theorem tick_passes {now : ℤ} (hnow : s.now ≤ now) : Passes cfg s (s.tick now) := by
  unfold Shared.tick Entry.live
  by_cases hexpired : s.entry.expireAt.any (· ≤ now) = true
  · rw [if_pos hexpired]
    obtain ⟨expiry, hexpiry, hle⟩ := (Option.any_eq_true _ _).1 hexpired
    exact ⟨rfl, hnow, .inr ⟨rfl, expiry, hexpiry, of_decide_eq_true hle⟩, by rintro _ ⟨⟩⟩
  · rw [if_neg hexpired]
    exact ⟨rfl, hnow, .inl rfl, fun _ h => .inl h⟩

/-- A key that is not due stays. -/
theorem tick_list {now : ℤ} (h : s.entry.expireAt.any (· ≤ now) = false) :
    (s.tick now).entry.list = s.entry.list := by
  unfold Shared.tick Entry.live
  rw [if_neg (by rw [h]; exact Bool.false_ne_true)]

theorem expire_passes (cfg : Config) (s : Shared) (ok : Bool) :
    Passes cfg s (s.command ok (·.expire s.now cfg.expiration)) := by
  unfold Shared.command Entry.expire
  split
  · dsimp only
    split
    · exact ⟨rfl, le_rfl, .inl rfl, fun _ h => .inl h⟩
    · exact ⟨rfl, le_rfl, .inl rfl, fun _ h => .inr (Option.some.inj h).symm⟩
  · exact ⟨rfl, le_rfl, .inl rfl, fun _ h => .inl h⟩

theorem expire_list (cfg : Config) (s : Shared) (ok : Bool) :
    (s.command ok (·.expire s.now cfg.expiration)).entry.list = s.entry.list := by
  unfold Shared.command Entry.expire
  split
  · dsimp only
    split <;> rfl
  · rfl

section

variable (hpasses : Passes cfg s s')

include hpasses

theorem Counted.stable (h : Counted cfg s events) (hlist : s'.entry.list = s.entry.list) :
    Counted cfg s' events := by
  have hnow := hpasses.now
  refine ⟨fun start hstart => ?_, ?_, fun time ht => ?_, fun t ht => (h.past t ht).trans hnow⟩
  · rw [hlist]
    exact h.counted start (by omega)
  · rw [hlist]
    exact h.sorted
  · rw [hlist] at ht
    exact (h.recorded time ht).trans hnow

/-- Time takes nothing from the list but the whole of it. -/
theorem Passes.sublist : s'.entry.list.Sublist s.entry.list := by
  rcases hpasses.list with hlist | ⟨hempty, -⟩
  · rw [hlist]
  · rw [hempty]
    exact nil_sublist _

theorem Room.stable {oldest oldest' : ℤ} (h : Room cfg s oldest)
    (holdest : oldest ≤ oldest') : Room cfg s' oldest' := by
  intro start hstart hle
  have hnow := hpasses.now
  rw [hpasses.passed]
  exact h start (by omega) (holdest.trans hle)

variable (hhorizon : cfg.window ≤ cfg.expiration)

include hhorizon

theorem Kept.stable (h : Kept cfg s events) : Kept cfg s' events := by
  have hnow := hpasses.now
  have hsub := hpasses.sublist
  refine ⟨⟨fun start hstart => ?_, h.sorted.sublist hsub,
    fun x hx => (h.recorded x (hsub.subset hx)).trans hnow, fun t ht => (h.past t ht).trans hnow⟩,
    hsub.length_le.trans h.length, fun expiry hexpiry t ht => ?_⟩
  · rcases hpasses.list with hlist | ⟨-, expiry, hexpiry, hdue⟩
    · rw [hlist]
      exact h.counted start (by omega)
    -- all events are older than the window when the key expires
    have hzero : events.countP (start < ·) = 0 := by
      refine countP_eq_zero.2 fun t ht => ?_
      have hle := h.alive expiry hexpiry t ht
      rw [decide_eq_true_eq]
      omega
    rw [hzero]
    exact Nat.zero_le _
  · rcases hpasses.expireAt expiry hexpiry with hold | rfl
    · exact h.alive expiry hold t ht
    · have hpast := h.past t ht
      omega

theorem InFlight.stable {since : ℤ} {older : List ℤ} (h : InFlight cfg s since older) :
    InFlight cfg s' since older :=
  ⟨hpasses.passed.trans h.passed, h.kept.stable hpasses hhorizon, h.past.trans hpasses.now, h.limit⟩

/-- **Stability.** What a request knows stays true, if the key does not expire between its push and
its `EXPIRE`. -/
theorem Knows.stable {t : Stage} (h : Knows cfg s t)
    (hlist : t.pushed = true → s'.entry.list = s.entry.list) :
    Knows cfg s' t := by
  have hnow := hpasses.now
  have hlength := hpasses.sublist.length_le
  have hkept (hk : Kept cfg s s.passed) : Kept cfg s' s'.passed := by
    rw [hpasses.passed]
    exact hk.stable hpasses hhorizon
  have hcounted (hc : Counted cfg s s.passed) (hne : s.entry.list ≠ [])
      (hsame : s'.entry.list = s.entry.list) :
      Counted cfg s' s'.passed ∧ s'.entry.list ≠ [] := by
    rw [hpasses.passed, hsame]
    exact ⟨hc.stable hpasses hsame, hne⟩
  cases t with
  | llen => trivial
  | refuse => trivial
  | lindex => exact hkept h
  | compare oldTime =>
    obtain ⟨hk, hold, hroom⟩ := h
    exact ⟨hkept hk, hold.trans hnow, hroom.stable hpasses le_rfl⟩
  | pass full =>
    obtain ⟨hk, hroom, hshort⟩ := h
    exact ⟨hkept hk, hroom.stable hpasses (by omega), fun hfull => hlength.trans_lt (hshort hfull)⟩
  | next => exact ⟨hkept h.1, h.2.stable hpasses (by omega)⟩
  | serving since =>
    obtain ⟨older, hflight⟩ := h
    exact ⟨older, hflight.stable hpasses hhorizon⟩
  | record =>
    obtain ⟨since, older, hflight⟩ := h
    exact ⟨since, older, hflight.stable hpasses hhorizon⟩
  | lpush time full =>
    obtain ⟨since, older, hflight, hsince, htime, hnewest, hshort⟩ := h
    exact ⟨since, older, hflight.stable hpasses hhorizon, hsince, htime.trans hnow,
      fun x hx => hnewest x (hpasses.sublist.subset hx),
      fun hfull => hlength.trans_lt (hshort hfull)⟩
  | ltrim =>
    obtain ⟨hc, hne, hlimit⟩ := h
    obtain ⟨hc', hne'⟩ := hcounted hc hne (hlist rfl)
    exact ⟨hc', hne', hlimit⟩
  | expire =>
    obtain ⟨hc, hne, hle⟩ := h
    obtain ⟨hc', hne'⟩ := hcounted hc hne (hlist rfl)
    exact ⟨hc', hne', hlength.trans hle⟩

end

end Passes

/-! ## The check -/

section Check

variable {cfg : Config} {s : Shared}

/-- A list below the limit leaves room. -/
theorem Kept.room_of_short (h : Kept cfg s s.passed)
    (hshort : s.entry.list.length < cfg.maximum.toNat) (oldest : ℤ) : Room cfg s oldest := by
  intro start hstart _
  calc s.passed.countP (start < ·) ≤ s.entry.list.countP (start < cfg.instant ·) :=
        h.counted start hstart
    _ ≤ s.entry.list.length := countP_le_length
    _ < cfg.maximum.toNat := hshort

theorem Kept.room_of_oldest (h : Kept cfg s s.passed) {oldTime : ℤ}
    (hold : s.entry.list.getLast? = some oldTime) : Room cfg s (cfg.instant oldTime) := by
  intro start hstart hle
  have hmem := mem_of_getLast? hold
  have hlt : s.entry.list.countP (start < cfg.instant ·) < s.entry.list.length := by
    refine lt_of_le_of_ne countP_le_length fun heq => ?_
    have hall := countP_eq_length.1 heq oldTime hmem
    rw [decide_eq_true_eq] at hall
    omega
  calc s.passed.countP (start < ·) ≤ s.entry.list.countP (start < cfg.instant ·) :=
        h.counted start hstart
    _ < s.entry.list.length := hlt
    _ ≤ cfg.maximum.toNat := h.length

/-- What the list says does not depend on the requests in flight. -/
theorem Kept.forget {events : List ℤ} (h : Kept cfg s events) (passed : List ℤ) :
    Kept cfg { s with passed := passed } events :=
  ⟨{ h with }, h.length, h.alive⟩

/-- The comparison of `redisRateLimiter` (line 72) and `checkRedisRateLimit` (line 209). -/
theorem old_of_elapsed (hoffset : ∀ now, cfg.offset now = cfg.offset 0) {now oldTime : ℤ}
    (hold : cfg.instant oldTime ≤ now)
    (helapsed : ¬ (cfg.format now - oldTime).tdiv 1000 < cfg.duration) :
    cfg.instant oldTime ≤ now - cfg.window := by
  unfold Config.instant at hold ⊢
  unfold Config.format at helapsed
  unfold Config.window
  rw [hoffset] at helapsed
  have hnonneg : 0 ≤ now / 1000000 + cfg.offset 0 - oldTime := by omega
  rw [Int.tdiv_eq_ediv_of_nonneg hnonneg] at helapsed
  omega

/-- A request that is let through finds room in the window that ends now. -/
theorem Room.spaced (h : Room cfg s (s.now - cfg.window))
    (hspaced : Spaced cfg.maximum.toNat cfg.window s.passed) :
    Spaced cfg.maximum.toNat cfg.window (s.now :: s.passed) := by
  refine ⟨?_, hspaced⟩
  have hroom := h (s.now - cfg.window) le_rfl le_rfl
  rw [countP_cons]
  split <;> omega

theorem Room.limit {oldest : ℤ} (h : Room cfg s oldest) : 0 < cfg.maximum.toNat :=
  (Nat.zero_le _).trans_lt (h (max oldest (s.now - cfg.window)) (le_max_right _ _)
    (le_max_left _ _))

/-- A request is let through. -/
theorem Room.inFlight {oldest : ℤ} (h : Room cfg s oldest) (hkept : Kept cfg s s.passed) :
    InFlight cfg { s with passed := s.now :: s.passed } s.now s.passed :=
  ⟨rfl, hkept.forget _, le_rfl, h.limit⟩

end Check

/-! ## The record -/

section Record

variable {cfg : Config} {s : Shared}

/-- The new time counts for the request. -/
theorem InFlight.lpush {since time : ℤ} {older : List ℤ} (h : InFlight cfg s since older)
    (hsince : since ≤ cfg.instant time) (htime : cfg.instant time ≤ s.now)
    (hnewest : ∀ x ∈ s.entry.list, x ≤ time) :
    Counted cfg { s with entry := s.entry.lpush time } s.passed := by
  rw [h.passed]
  refine ⟨fun start hstart => ?_, pairwise_cons.2 ⟨hnewest, h.kept.sorted⟩, fun x hx => ?_,
    fun t ht => ?_⟩
  · have hcounted := h.kept.counted start hstart
    change (since :: older).countP (start < ·) ≤
      (time :: s.entry.list).countP (start < cfg.instant ·)
    rw [countP_cons, countP_cons]
    by_cases hlt : start < since
    · have hlt' : start < cfg.instant time := hlt.trans_le hsince
      simpa [hlt, hlt'] using hcounted
    · rw [if_neg (by simpa using hlt)]
      omega
  · rcases mem_cons.1 hx with rfl | hx
    · exact htime
    · exact h.kept.recorded x hx
  · rcases mem_cons.1 ht with rfl | ht
    · exact h.past
    · exact h.kept.past t ht

/-- No more than the limit count, so a trimmed list counts them all. -/
theorem Counted.ltrim (h : Counted cfg s s.passed) (hne : s.entry.list ≠ [])
    (hlimit : 0 < cfg.maximum.toNat) (hspaced : Spaced cfg.maximum.toNat cfg.window s.passed) :
    Knows cfg { s with entry := s.entry.ltrim (cfg.maximum - 1) } .expire := by
  have htrim : (s.entry.ltrim (cfg.maximum - 1)).list = s.entry.list.take cfg.maximum.toNat := by
    unfold Entry.ltrim
    rw [if_neg (by omega), sub_add_cancel]
  dsimp only [Knows]
  rw [htrim]
  refine ⟨⟨fun start hstart => ?_, ?_, fun x hx => ?_, h.past⟩, ?_, length_take_le _ _⟩
  · dsimp only at hstart ⊢
    have hle : s.passed.countP (start < ·) ≤ cfg.maximum.toNat :=
      hspaced.countP_le fun t ht => by have hpast := h.past t ht; omega
    rw [htrim]
    refine (le_min hle (h.counted start hstart)).trans (le_countP_take h.sorted ?_ _)
    intro a b hab hb
    rw [decide_eq_true_eq] at hb ⊢
    unfold Config.instant at hb ⊢
    omega
  · exact h.sorted.take
  · exact h.recorded x (mem_of_mem_take hx)
  · intro hempty
    rcases take_eq_nil_iff.1 hempty with hzero | hnil
    · omega
    · exact hne hnil

/-- The expiration is set again. -/
theorem Counted.expire (hhorizon : cfg.window ≤ cfg.expiration) (h : Counted cfg s s.passed)
    (hne : s.entry.list ≠ []) (hlength : s.entry.list.length ≤ cfg.maximum.toNat) :
    Kept cfg { s with entry := s.entry.expire s.now cfg.expiration } s.passed := by
  unfold Entry.expire
  rw [if_neg hne]
  refine ⟨{ h with }, hlength, fun expiry hexpiry t ht => ?_⟩
  cases hexpiry
  have hpast := h.past t ht
  omega

end Record

/-! ## One step -/

/-- The invariant: at most one request is inside, and if none is, the list counts all. -/
structure Sound (cfg : Config) (s : Shared) (locked : Bool) (threads : List Stage) : Prop where
  mutex : Mutex Stage.inside locked threads
  free : locked = false → Kept cfg s s.passed
  knows : ∀ t ∈ threads, Knows cfg s t
  spaced : Spaced cfg.maximum.toNat cfg.window s.passed

section Step

variable {cfg : Config} {s s' : Shared} {locked : Bool} {t u : Stage} {ts others : List Stage}

/-- Time passes for all requests. -/
theorem Sound.stable (hhorizon : cfg.window ≤ cfg.expiration) (h : Sound cfg s locked ts)
    (hpasses : Passes cfg s s')
    (hlist : (∃ u ∈ ts, u.pushed = true) → s'.entry.list = s.entry.list) :
    Sound cfg s' locked ts := by
  refine ⟨h.mutex, fun hfree => ?_, fun t ht => ?_, ?_⟩
  · rw [hpasses.passed]
    exact (h.free hfree).stable hpasses hhorizon
  · exact (h.knows t ht).stable hpasses hhorizon fun hpushed => hlist ⟨t, ht, hpushed⟩
  · rw [hpasses.passed]
    exact h.spaced

section

variable (h : Sound cfg s locked (t :: others))

include h

/-- A request that is alone inside, or would be, takes a step. -/
theorem Sound.exchange {locked' : Bool} (halone : ∀ u ∈ others, u.inside = 0)
    (hmutex : (ts.map Stage.inside).sum + locked.toNat = t.inside + locked'.toNat)
    (hfree : locked' = false → Kept cfg s' s'.passed) (hknows : ∀ u ∈ ts, Knows cfg s' u)
    (hspaced : Spaced cfg.maximum.toNat cfg.window s'.passed) :
    Sound cfg s' locked' (ts ++ others) := by
  refine ⟨h.mutex.exchange hmutex, hfree, fun u hu => ?_, hspaced⟩
  rcases mem_append.1 hu with hu | hu
  · exact hknows u hu
  · exact knows_of_outside (halone u hu)

/-- A request goes on inside. -/
theorem Sound.proceed (ht : t.inside = 1) (hu : u.inside = 1) (hknows : Knows cfg s' u)
    (hspaced : Spaced cfg.maximum.toNat cfg.window s'.passed) :
    Sound cfg s' true ([u] ++ others) := by
  obtain ⟨rfl, halone⟩ := h.mutex.alone ht
  refine h.exchange halone ?_ (fun hfalse => ?_) (fun v hv => ?_) hspaced
  · simp [ht, hu]
  · cases hfalse
  · rw [mem_singleton.1 hv]
    exact hknows

/-- A request leaves. -/
theorem Sound.leave (ht : t.inside = 1) (hts : ∀ u ∈ ts, u.inside = 0)
    (hkept : Kept cfg s' s'.passed) (hspaced : Spaced cfg.maximum.toNat cfg.window s'.passed) :
    Sound cfg s' false (ts ++ others) := by
  obtain ⟨rfl, halone⟩ := h.mutex.alone ht
  have hzero : (ts.map Stage.inside).sum = 0 := Mutex.free hts
  refine h.exchange halone ?_ (fun _ => hkept) (fun u hu => knows_of_outside (hts u hu)) hspaced
  rw [hzero, ht]
  rfl

/-- A request starts while no other is inside. -/
theorem Sound.enter (ht : t.inside = 0) (halone : ∀ u ∈ others, u.inside = 0) :
    Kept cfg s s.passed ∧ Sound cfg s false ([] ++ others) ∧
      ∀ u : Stage, u.inside = 1 → Knows cfg s u → Sound cfg s true ([u] ++ others) := by
  have hzero : Mutex Stage.inside false (t :: others) := by
    refine Mutex.free fun u hu => ?_
    rcases mem_cons.1 hu with rfl | hu
    · exact ht
    · exact halone u hu
  have hlocked : locked.toNat = false.toNat := h.mutex.symm.trans hzero
  have hkept := h.free (Bool.toNat_eq_zero.1 hlocked)
  refine ⟨hkept, h.exchange halone ?_ (fun _ => hkept) (forall_mem_nil _) h.spaced,
    fun u hu hknows => h.exchange halone ?_ (fun hfalse => ?_) (fun v hv => ?_) h.spaced⟩
  · simp [ht, hlocked]
  · simp [ht, hu, hlocked]
  · cases hfalse
  · rw [mem_singleton.1 hv]
    exact hknows

end

theorem inside_allowed (middleware : Middleware) (full : Bool) :
    (middleware.allowed full).inside = 1 := by
  cases middleware <;> rfl

theorem knows_allowed (middleware : Middleware) {full : Bool} (hkept : Kept cfg s s.passed)
    (hroom : Room cfg s (s.now - cfg.window))
    (hshort : full = false → s.entry.list.length < cfg.maximum.toNat) :
    Knows cfg s (middleware.allowed full) := by
  cases middleware with
  | redisRateLimiter => exact ⟨hkept, hroom, hshort⟩
  | redisRateLimitHandler => exact ⟨hkept, hroom⟩

/-- The time that a request records. -/
theorem InFlight.knows_lpush {since : ℤ} {older : List ℤ} {full : Bool}
    (hoffset : ∀ now, cfg.offset now = cfg.offset 0)
    (h : InFlight cfg s since older) (hwhole : s.now % 1000000 = 0)
    (hshort : full = false → s.entry.list.length < cfg.maximum.toNat) :
    Knows cfg s (.lpush (cfg.format s.now) full) := by
  have hformat : cfg.instant (cfg.format s.now) = s.now := by
    unfold Config.instant Config.format
    rw [hoffset]
    omega
  refine ⟨since, older, h, ?_, hformat.le, fun x hx => ?_, hshort⟩
  · rw [hformat]
    exact h.past
  · have hrecorded := (h.kept.recorded x hx).trans hformat.ge
    unfold Config.instant at hrecorded
    omega

variable {middleware : Middleware}
  (hlimit : middleware = .redisRateLimitHandler → cfg.maximum ≠ 0)
  (hhorizon : cfg.window ≤ cfg.expiration) (hoffset : ∀ now, cfg.offset now = cfg.offset 0)

include hlimit hhorizon hoffset

/-- **One step** at a given time. -/
theorem Sound.serve {ok : Bool} (h : Sound cfg s locked (t :: others))
    (halone : t = .llen → ∀ u ∈ others, u.inside = 0) (hrecords : t.records = true → ok = true)
    (hreads : t.reads = true → s.now % 1000000 = 0) :
    ∃ locked', Sound cfg (middleware.serve cfg ok s t).1 locked'
      ((middleware.serve cfg ok s t).2 ++ others) := by
  have hknows := h.knows t mem_cons_self
  cases t with
  | llen =>
    obtain ⟨hkept, hstop, henter⟩ := h.enter rfl (halone rfl)
    dsimp only [Middleware.serve]
    split
    next hunlimited =>
      exact absurd hunlimited.2 (hlimit hunlimited.1)
    split
    · exact ⟨false, hstop⟩
    split
    next hlength =>
      have hshort : s.entry.list.length < cfg.maximum.toNat := by omega
      exact ⟨true, henter _ (inside_allowed middleware false)
        (knows_allowed middleware hkept (hkept.room_of_short hshort _) fun _ => hshort)⟩
    · exact ⟨true, henter _ rfl hkept⟩
  | lindex =>
    dsimp only [Middleware.serve]
    split
    next oldTime hold =>
      have hrecorded := hknows.recorded oldTime (mem_of_getLast? hold)
      exact ⟨true, h.proceed rfl rfl ⟨hknows, hrecorded, hknows.room_of_oldest hold⟩ h.spaced⟩
    · exact ⟨false, h.leave rfl (forall_mem_nil _) hknows h.spaced⟩
  | compare oldTime =>
    obtain ⟨hkept, hold, hroom⟩ := hknows
    dsimp only [Middleware.serve]
    split
    · exact ⟨false, h.leave rfl (by simp [Stage.inside]) hkept h.spaced⟩
    rename_i helapsed
    have hle := old_of_elapsed hoffset hold helapsed
    have hnow : Room cfg s (s.now - cfg.window) := fun start hstart _ =>
      hroom start hstart (hle.trans hstart)
    exact ⟨true, h.proceed rfl (inside_allowed middleware true)
      (knows_allowed middleware hkept hnow fun hfull => by cases hfull) h.spaced⟩
  | refuse =>
    have hstable := h.stable hhorizon (expire_passes cfg s ok) fun _ => expire_list cfg s ok
    have hmutex : Mutex Stage.inside locked ([] ++ others) :=
      hstable.mutex.exchange (by simp [Stage.inside])
    exact ⟨locked, hmutex, hstable.free,
      fun u hu => hstable.knows u (mem_cons_of_mem _ hu), hstable.spaced⟩
  | pass full =>
    obtain ⟨hkept, hroom, hshort⟩ := hknows
    have hflight := hroom.inFlight hkept
    exact ⟨true, h.proceed rfl rfl (hflight.knows_lpush hoffset (hreads rfl) hshort)
      (hroom.spaced h.spaced)⟩
  | next =>
    obtain ⟨hkept, hroom⟩ := hknows
    dsimp only [Middleware.serve]
    split
    · exact ⟨true, h.proceed rfl rfl ⟨s.passed, hroom.inFlight hkept⟩ (hroom.spaced h.spaced)⟩
    · exact ⟨false, h.leave rfl (forall_mem_nil _) hkept h.spaced⟩
  | serving since =>
    obtain ⟨older, hflight⟩ := hknows
    dsimp only [Middleware.serve]
    split
    · have hspaced := h.spaced
      rw [hflight.passed] at hspaced ⊢
      rw [erase_cons_head]
      exact ⟨false, h.leave rfl (forall_mem_nil _) (hflight.kept.forget older) hspaced.2⟩
    split
    next hzero =>
      have hpos := hflight.limit
      omega
    · exact ⟨true, h.proceed rfl rfl ⟨since, older, hflight⟩ h.spaced⟩
  | record =>
    obtain ⟨since, older, hflight⟩ := hknows
    exact ⟨true, h.proceed rfl rfl
      (hflight.knows_lpush hoffset (hreads rfl) fun hfull => by cases hfull) h.spaced⟩
  | lpush time full =>
    obtain ⟨since, older, hflight, hsince, htime, hnewest, hshort⟩ := hknows
    obtain rfl := hrecords rfl
    have hcounted := hflight.lpush hsince htime hnewest
    cases full with
    | true =>
      exact ⟨true, h.proceed rfl rfl ⟨hcounted, cons_ne_nil _ _, hflight.limit⟩ h.spaced⟩
    | false =>
      exact ⟨true, h.proceed rfl rfl ⟨hcounted, cons_ne_nil _ _, hshort rfl⟩ h.spaced⟩
  | ltrim =>
    obtain ⟨hcounted, hne, hpos⟩ := hknows
    obtain rfl := hrecords rfl
    exact ⟨true, h.proceed rfl rfl (hcounted.ltrim hne hpos h.spaced) h.spaced⟩
  | expire =>
    obtain ⟨hcounted, hne, hlength⟩ := hknows
    obtain rfl := hrecords rfl
    exact ⟨false, h.leave rfl (forall_mem_nil _) (hcounted.expire hhorizon hne hlength) h.spaced⟩

/-- **One step** of a request. -/
theorem Sound.step {p : Pool Shared Stage} {c : Choice} (hcond : OneByOne p c t)
    (hperm : p.threads.Perm (t :: others)) (h : Sound cfg p.shared locked (t :: others))
    (hadvance : middleware.advance cfg c p.shared t = some (s, ts)) :
    ∃ locked', Sound cfg s locked' (ts ++ others) := by
  obtain ⟨halone, hrecords, hunexpired, hreads⟩ := hcond
  unfold Middleware.advance at hadvance
  split at hadvance
  · cases hadvance
  rename_i htime
  have htick : Sound cfg (p.shared.tick c.now) locked (t :: others) := by
    refine h.stable hhorizon (tick_passes (not_lt.1 htime)) fun hpushed => ?_
    obtain ⟨u, hu, hpushed⟩ := hpushed
    exact tick_list (hunexpired ⟨u, hperm.mem_iff.2 hu, hpushed⟩)
  obtain ⟨locked', hsound⟩ := htick.serve hlimit hhorizon hoffset
    (fun ht u hu => halone ht u (hperm.mem_iff.2 (mem_cons_of_mem t hu))) hrecords hreads
  rw [Option.some.inj hadvance] at hsound
  exact ⟨locked', hsound⟩

end Step

/-! ## Every run -/

/-- No request has started, and none was let through before. -/
def Fresh (p : Pool Shared Stage) : Prop :=
  p.shared.entry = ⟨[], none⟩ ∧ p.shared.passed = [] ∧ ∀ t ∈ p.threads, t = .llen

theorem Fresh.sound {p : Pool Shared Stage} (h : Fresh p) :
    Sound cfg p.shared false p.threads := by
  obtain ⟨hentry, hpassed, hthreads⟩ := h
  have houtside : ∀ t ∈ p.threads, t.inside = 0 := by
    intro t ht
    rw [hthreads t ht]
    rfl
  refine ⟨Mutex.free houtside, fun _ => ⟨⟨?_, ?_, ?_, ?_⟩, ?_, ?_⟩,
    fun t ht => knows_of_outside (houtside t ht), ?_⟩
  all_goals simp [hentry, hpassed, Spaced]

/-- **Every run.** -/
theorem Sound.run {middleware : Middleware}
    (hlimit : middleware = .redisRateLimitHandler → cfg.maximum ≠ 0)
    (hhorizon : cfg.window ≤ cfg.expiration) (hoffset : ∀ now, cfg.offset now = cfg.offset 0)
    {p q : Pool Shared Stage} (h : Sound cfg p.shared false p.threads)
    (hrun : Exec (Pool.step (middleware.advance cfg)) (Pool.Meets OneByOne) p q) :
    ∃ locked, Sound cfg q.shared locked q.threads := by
  refine Pool.invariant (I := fun s ts => ∃ locked, Sound cfg s locked ts) ?_ ?_ ⟨false, h⟩ hrun
  · rintro s l l' hperm ⟨locked, hs⟩
    exact ⟨locked, hs.mutex.perm hperm, hs.free, fun t ht => hs.knows t (hperm.mem_iff.2 ht),
      hs.spaced⟩
  · rintro p c t s ts others hcond hperm ⟨locked, hs⟩ hadvance
    exact hs.step hlimit hhorizon hoffset hcond hperm hadvance

/-- **The window.** The limit of the handler is not zero, which means none, the duration is not
longer than the expiration of the key, and the offset of the time zone does not change. In every run
in which the requests check and record one after the other, no window has more requests that were
let through than the limit. -/
theorem redis_rate_limit_window {middleware : Middleware} {cfg : Config}
    (hlimit : middleware = .redisRateLimitHandler → cfg.maximum ≠ 0)
    (hhorizon : cfg.duration * 1000000000 ≤ cfg.expiration)
    (hoffset : ∀ now, cfg.offset now = cfg.offset 0) {p q : Pool Shared Stage} (hstart : Fresh p)
    (hrun : Exec (Pool.step (middleware.advance cfg)) (Pool.Meets OneByOne) p q) (start : ℤ) :
    q.shared.passed.countP (fun t => start ≤ t ∧ t < start + cfg.duration * 1000000000) ≤
      cfg.maximum.toNat := by
  obtain ⟨locked, hsound⟩ := hstart.sound.run hlimit hhorizon hoffset hrun
  exact hsound.spaced.window start

/-- One request a minute, with the expirations of the two middlewares, in UTC. -/
def oneAMinute : Middleware → Config
  | .redisRateLimiter => ⟨1, 60, 1200000000000, fun _ => 0⟩
  | .redisRateLimitHandler => ⟨1, 60, 60000000000, fun _ => 0⟩

/-- Requests of a new client, at the time 0. -/
def requests (n : ℕ) : Pool Shared Stage := ⟨⟨⟨[], none⟩, 0, []⟩, List.replicate n .llen⟩

theorem fresh_requests (n : ℕ) : Fresh (requests n) :=
  ⟨rfl, rfl, fun _ ht => eq_of_mem_replicate ht⟩

/-- The second request comes after a minute and the third one a second later. -/
theorem redis_rate_limit_window_three :
    (∃ q, Exec (Pool.step (Middleware.redisRateLimiter.advance (oneAMinute .redisRateLimiter)))
        (Pool.Meets OneByOne) (requests 3) q ∧ q.threads = [] ∧
        q.shared.passed = [60000000000, 0] ∧ ∀ start, q.shared.passed.countP
          (fun t => start ≤ t ∧ t < start + 60 * 1000000000) ≤ 1) ∧
      ∃ q, Exec (Pool.step (Middleware.redisRateLimitHandler.advance
          (oneAMinute .redisRateLimitHandler))) (Pool.Meets OneByOne) (requests 3) q ∧
        q.threads = [] ∧ q.shared.passed = [60000000000, 0] ∧ ∀ start, q.shared.passed.countP
          (fun t => start ≤ t ∧ t < start + 60 * 1000000000) ≤ 1 := by
  constructor
  · exact Exec.exists_and_and_of_actions (replicate 4 (0, ⟨0, true⟩) ++
      replicate 7 (0, ⟨60000000000, true⟩) ++ replicate 4 (0, ⟨61000000000, true⟩))
      (by decide +kernel) fun _ hrun _ _ => redis_rate_limit_window (by decide)
      (by decide) (fun _ => rfl) (fresh_requests 3) hrun
  · exact Exec.exists_and_and_of_actions (replicate 7 (0, ⟨0, true⟩) ++
      replicate 7 (0, ⟨60000000000, true⟩) ++ replicate 4 (0, ⟨61000000000, true⟩))
      (by decide +kernel) fun _ hrun _ _ => redis_rate_limit_window (by decide)
      (by decide) (fun _ => rfl) (fresh_requests 3) hrun

/-- Both requests read the length of the list before either has pushed its time. -/
theorem redis_rate_limit_exceeded :
    Fresh (requests 2) ∧
      (∃ q, Exec (Pool.step (Middleware.redisRateLimiter.advance (oneAMinute .redisRateLimiter)))
        (fun _ _ => True) (requests 2) q ∧ q.threads = [] ∧
        q.shared.passed.countP (fun t => 0 ≤ t ∧ t < 0 + 60 * 1000000000) = 2) ∧
      ∃ q, Exec (Pool.step (Middleware.redisRateLimitHandler.advance
          (oneAMinute .redisRateLimitHandler))) (fun _ _ => True)
        (requests 2) q ∧ q.threads = [] ∧
        q.shared.passed.countP (fun t => 0 ≤ t ∧ t < 0 + 60 * 1000000000) = 2 := by
  refine ⟨fresh_requests 2, ?_, ?_⟩
  · exact Exec.exists_of_actions ((1, ⟨0, true⟩) :: replicate 4 (0, ⟨0, true⟩) ++
      replicate 3 (0, ⟨0, true⟩)) (by decide +kernel)
  · exact Exec.exists_of_actions ((1, ⟨0, true⟩) :: replicate 7 (0, ⟨0, true⟩) ++
      replicate 6 (0, ⟨0, true⟩)) (by decide +kernel)

end OmniRouters.RateLimit.Redis
