import OmniRouters.Session.Model

/-!
# Readers after a revocation

`GetUserSessionCached` answers from Redis. An active entry is written with the deadline that its
writer has captured before it has read or updated the row, and `RevokeUserSession` leaves a
tombstone that lives at least as long as any such deadline (model/user_session.go:278-366).

The tombstone carries the version of the candidate that `RevokeUserSession` has read first, and the
script refuses an entry with a smaller version than the stored one. When the version has been
advanced in between and the fence has expired, the tombstone is refused, the error is only logged,
and the cached entry stays active.

* `evalScript_active`, `evalScript_deny`, `evalScript_refused`: what the script can do.
* `EvalTimely.sealed`, `EvalTimely.keeps_seal`: a tombstone outlives every delayed fill.
* `advance_serves`: one step keeps the cache in time.
* `revoked_session_denied`: with tombstones that are not refused, no reader that starts after a
  `RevokeUserSession` has returned true finds the session active.
* `revoked_session_cached`: a refused tombstone.
-/

namespace OmniRouters.UserSession

open Billing Lib List

/-! ## Statements -/

/-- The next step of the call is a Redis command. -/
def Thread.usesRedis : Thread → Bool
  | .get | .eval .. => true
  | _ => false

/-- The tombstone of a `RevokeUserSession` that the call writes next. -/
def Thread.tombstone? : Thread → Option Entry
  | .eval entry _ _ .revokeTombstone => some entry
  | _ => none

def RedisUp (c : Choice) (t : Thread) : Prop := t.usesRedis = true → c.fails = false

/-- When the tombstone of a `RevokeUserSession` is written, Redis has no entry with a greater
version. -/
def TombstoneNewest (s : Shared) (c : Choice) (t : Thread) : Prop :=
  ∀ entry ∈ t.tombstone?, ∀ st ∈ (s.tick c.elapsed).visible, st.entry.version ≤ entry.version

/-- The condition on the steps. -/
def TombstonesLand (p : Pool Shared Thread) (c : Choice) (t : Thread) : Prop :=
  RedisUp c t ∧ TombstoneNewest p.shared c t

instance (c : Choice) (t : Thread) : Decidable (RedisUp c t) :=
  inferInstanceAs (Decidable (_ → _))

instance (p : Pool Shared Thread) (c : Choice) (t : Thread) : Decidable (TombstonesLand p c t) :=
  inferInstanceAs (Decidable ((_ → _) ∧ ∀ _ ∈ _, ∀ _ ∈ _, _))

/-- A session whose cached entry, if it is active, is not kept longer than a fill of now. -/
structure InTime (cfg : Config) (s : Shared) : Prop where
  lastActive : s.lastActive = s.clock
  cache : ∀ st ∈ s.cache, st.entry.status = .active →
    st.expiry ≤ unixMilli (s.clock + seconds cfg.userCacheTTLSeconds) ∧
      st.expiry ≤ unixMilli (seconds s.row.expiresAt)
  returned : s.returned = false
  answers : s.answers = []

/-! ## The clock -/

theorem unixMilli_mono {a b : ℤ} (h : a ≤ b) : unixMilli a ≤ unixMilli b :=
  Int.ediv_le_ediv (by norm_num) h

theorem unixMilli_add_seconds (a s : ℤ) :
    unixMilli (a + seconds s) = unixMilli a + unixMilli (seconds s) := by
  unfold unixMilli seconds
  omega

variable {cfg : Config}

/-- An active entry does not outlive its deadline or its session. -/
theorem redisExpiration_active {now expiration : ℤ} {entry : Entry}
    {deadline : Option ℤ} (hactive : entry.status = .active)
    (h : redisExpiration cfg now entry deadline = .ok expiration) :
    ∃ d ∈ deadline,
      expiration ≤ unixMilli d ∧ expiration ≤ unixMilli (seconds entry.expiresAt) := by
  unfold redisExpiration at h
  rw [if_pos hactive] at h
  cases deadline with
  | none => cases h
  | some d =>
    dsimp only at h
    split_ifs at h with hstale hexpired hsession hshort hshort
    · cases h
      exact ⟨d, rfl, unixMilli_mono hsession.le, le_rfl⟩
    · cases h
      exact ⟨d, rfl, le_rfl, unixMilli_mono (not_lt.1 hsession)⟩

/-- A deny entry lives for the cache period, or up to the last millisecond of its session. -/
theorem redisExpiration_deny (cfg : Config) (now : ℤ) {entry : Entry} (deadline : Option ℤ)
    (hdeny : entry.status ≠ .active) :
    ∃ expiration, redisExpiration cfg now entry deadline = .ok expiration ∧
      min (unixMilli (seconds cfg.userCacheTTLSeconds))
        (unixMilli (seconds entry.expiresAt) - 1 - unixMilli now) ≤ expiration := by
  unfold redisExpiration
  rw [if_neg hdeny]
  refine ⟨_, rfl, ?_⟩
  have hpos : 0 < seconds cfg.userCacheTTLSeconds := by
    unfold seconds Config.userCacheTTLSeconds
    split_ifs <;> omega
  generalize seconds cfg.userCacheTTLSeconds = period at hpos
  generalize seconds entry.expiresAt = expiresAt
  unfold unixMilli seconds
  split_ifs <;> omega

/-! ## The script -/

section Script

variable {now expiration : ℤ} {current : Option Stored} {entry : Entry}

/-- An active entry is refused while a deny entry is there, and it is gone at once when its time
has come. -/
theorem evalScript_active {cache : Option Stored} (hactive : entry.status = .active)
    (h : evalScript now current entry expiration = some cache) :
    (∀ st ∈ current, st.entry.status = .active) ∧
      (cache = none ∧ expiration ≤ now ∨ cache = some ⟨entry, expiration⟩ ∧ now < expiration) := by
  unfold evalScript at h
  by_cases hdenied : current.any fun st =>
      st.entry.status = .revoking ∨ st.entry.status = .revoked
  · rw [if_pos ⟨hactive, hdenied⟩] at h
    cases h
  rw [if_neg fun hboth => hdenied hboth.2] at h
  have hcurrent : ∀ st ∈ current, st.entry.status = .active := by
    rintro st rfl
    cases hstatus : st.entry.status with
    | active => rfl
    | revoking | revoked => simp [hstatus] at hdenied
  refine ⟨hcurrent, ?_⟩
  split_ifs at h with hnewer htime
  · exact .inl ⟨(Option.some.inj h).symm, htime⟩
  · exact .inr ⟨(Option.some.inj h).symm, not_le.1 htime⟩

theorem evalScript_deny {cache : Option Stored} (hdeny : entry.status ≠ .active)
    (h : evalScript now current entry expiration = some cache) :
    cache = some ⟨entry, now + expiration⟩ := by
  unfold evalScript at h
  rw [if_neg fun hboth => hdeny hboth.1] at h
  split_ifs at h
  exact (Option.some.inj h).symm

theorem evalScript_refused (hdeny : entry.status ≠ .active)
    (h : evalScript now current entry expiration = none) :
    ∃ st ∈ current, entry.version < st.entry.version := by
  unfold evalScript at h
  rw [if_neg fun hboth => hdeny hboth.1] at h
  split_ifs at h with hnewer
  cases current with
  | none => cases hnewer
  | some st => exact ⟨st, rfl, of_decide_eq_true hnewer⟩

end Script

/-! ## Invariant -/

section Invariant

variable (cfg : Config)

def Config.period : ℤ := seconds cfg.userCacheTTLSeconds

/-- No active entry that was read in time is kept longer than one millisecond more than this. -/
def Shared.limit (s : Shared) : ℤ :=
  min (unixMilli s.lastActive + unixMilli cfg.period) (unixMilli (seconds s.row.expiresAt) - 1)

/-- The session is revoked and the cache denies it: there is no active entry, and there is a deny
entry until no active entry can be written any more. -/
structure Sealed (s : Shared) : Prop where
  revoked : s.row.status ≠ .active
  active : ∀ st ∈ s.cache, st.entry.status = .active → st.expiry < unixMilli s.clock
  deny : s.limit cfg < unixMilli s.clock ∨
    ∃ st ∈ s.cache, st.entry.status ≠ .active ∧ s.limit cfg ≤ st.expiry

/-- The cache is in time, and it denies the session when a `RevokeUserSession` has returned true. -/
structure CacheSound (s : Shared) : Prop where
  lastActive_le : s.lastActive ≤ s.clock
  lastActive : s.row.status = .active → s.lastActive = s.clock
  cache : ∀ st ∈ s.cache, st.entry.status = .active →
    st.expiry ≤ unixMilli (s.lastActive + cfg.period) ∧
      st.expiry ≤ unixMilli (seconds s.row.expiresAt)
  sealed : s.returned = true → Sealed cfg s
  answers : ∀ a ∈ s.answers, a.late = true → a.active = false

/-- What the caller of a write knows. -/
def Cont.Timely (s : Shared) : Cont → Prop
  | .filled late _ => late = false
  | .reuseFence _ session => session.expiresAt = s.row.expiresAt
  | .reuseTombstone _ session => session.expiresAt = s.row.expiresAt
  | .revokeFence _ candidate => candidate.expiresAt = s.row.expiresAt
  | .hashFence _ _ session => session.expiresAt = s.row.expiresAt
  | .revokeTombstone => s.row.status ≠ .active
  | _ => True

/-- A write that is about to compute its expiry. -/
structure WriteTimely (s : Shared) (entry : Entry) (deadline : Option ℤ) (k : Cont) : Prop where
  caller : k.Timely s
  tombstone : k = .revokeTombstone → entry.status ≠ .active
  expiresAt : entry.expiresAt = s.row.expiresAt
  deadline : entry.status = .active → ∀ d ∈ deadline, d ≤ s.lastActive + cfg.period

/-- A write with its expiry. -/
structure EvalTimely (s : Shared) (entry : Entry) (expiration : ℤ) (k : Cont) : Prop where
  caller : k.Timely s
  tombstone : k = .revokeTombstone → entry.status ≠ .active
  active : entry.status = .active → expiration ≤ unixMilli (s.lastActive + cfg.period) ∧
    expiration ≤ unixMilli (seconds s.row.expiresAt)
  deny : entry.status ≠ .active → min (unixMilli cfg.period)
    (unixMilli (seconds s.row.expiresAt) - 1 - unixMilli s.clock) ≤ expiration

/-- What a call knows about the time. -/
def Thread.Timely (s : Shared) : Thread → Prop
  | .cached late _ => late = false
  | .miss late => late = true → s.returned = true
  | .load late deadline => (late = true → s.returned = true) ∧ deadline ≤ s.clock + cfg.period
  | .judge late deadline session => session.expiresAt = s.row.expiresAt ∧
      (session.status = .active → late = false ∧ deadline ≤ s.lastActive + cfg.period)
  | .rotateLoad _ _ deadline => deadline ≤ s.clock + cfg.period
  | .swap _ _ deadline session =>
    deadline ≤ s.clock + cfg.period ∧ session.expiresAt = s.row.expiresAt
  | .advanceNow _ _ _ deadline => deadline ≤ s.clock + cfg.period
  | .advanceUpdate _ _ _ deadline _ => deadline ≤ s.clock + cfg.period
  | .reuseUpdate _ session => session.expiresAt = s.row.expiresAt
  | .revokeUpdate _ candidate => candidate.expiresAt = s.row.expiresAt
  | .hashUpdate _ _ session => session.expiresAt = s.row.expiresAt
  | .write entry deadline k => WriteTimely cfg s entry deadline k
  | .eval entry _ expiration k => EvalTimely cfg s entry expiration k
  | .completed _ _ k => k.Timely s ∧ k ≠ .revokeTombstone
  | .confirm _ k => k.Timely s ∧ k ≠ .revokeTombstone
  | .count _ _ k => k.Timely s ∧ k ≠ .revokeTombstone
  | _ => True

end Invariant

/-- What a step of one call can change for the others. -/
structure Later (s s' : Shared) : Prop where
  clock : s.clock ≤ s'.clock
  lastActive : s.lastActive ≤ s'.lastActive
  expiresAt : s'.row.expiresAt = s.row.expiresAt
  inactive : s.row.status ≠ .active → s'.row.status ≠ .active
  returned : s.returned = true → s'.returned = true

section Stable

variable {cfg : Config} {s s' s'' : Shared} {t : Thread}

theorem Later.refl (s : Shared) : Later s s := ⟨le_rfl, le_rfl, rfl, id, id⟩

theorem Later.trans (h : Later s s') (h' : Later s' s'') : Later s s'' :=
  ⟨h.clock.trans h'.clock, h.lastActive.trans h'.lastActive, h'.expiresAt.trans h.expiresAt,
    h'.inactive ∘ h.inactive, h'.returned ∘ h.returned⟩

theorem Cont.Timely.later (h : Later s s') {k : Cont} (hk : k.Timely s) : k.Timely s' := by
  cases k with
  | filled => exact hk
  | reuseFence | reuseTombstone | revokeFence | hashFence => exact hk.trans h.expiresAt.symm
  | revokeTombstone => exact h.inactive hk
  | _ => trivial

theorem Thread.Timely.later (h : Later s s') (ht : t.Timely cfg s) : t.Timely cfg s' := by
  have hclock := h.clock
  have hlast := h.lastActive
  cases t with
  | cached => exact ht
  | miss => exact fun hlate => h.returned (ht hlate)
  | load => exact ⟨fun hlate => h.returned (ht.1 hlate), ht.2.trans (by omega)⟩
  | judge =>
    refine ⟨ht.1.trans h.expiresAt.symm, fun hactive => ⟨(ht.2 hactive).1, ?_⟩⟩
    exact (ht.2 hactive).2.trans (by omega)
  | rotateLoad | advanceNow | advanceUpdate => exact le_trans ht (by omega)
  | swap => exact ⟨ht.1.trans (by omega), ht.2.trans h.expiresAt.symm⟩
  | reuseUpdate | revokeUpdate | hashUpdate => exact ht.trans h.expiresAt.symm
  | write entry deadline k =>
    refine ⟨ht.caller.later h, ht.tombstone, ht.expiresAt.trans h.expiresAt.symm, ?_⟩
    exact fun hactive d hd => (ht.deadline hactive d hd).trans (by omega)
  | eval entry deadline expiration k =>
    refine ⟨ht.caller.later h, ht.tombstone, fun hactive => ?_, fun hdeny => ?_⟩
    · rw [h.expiresAt]
      exact ⟨(ht.active hactive).1.trans (unixMilli_mono (by omega)), (ht.active hactive).2⟩
    have hold := ht.deny hdeny
    have hmilli := unixMilli_mono hclock
    rw [h.expiresAt]
    omega
  | completed | confirm | count => exact ⟨ht.1.later h, ht.2⟩
  | _ => trivial

section

variable (hs : CacheSound cfg s)

include hs

/-- Time passes. -/
theorem CacheSound.tick (n : ℕ) : CacheSound cfg (s.tick n) ∧ Later s (s.tick n) := by
  have hle := hs.lastActive_le
  have hlast : s.lastActive ≤ (s.tick n).lastActive := by
    dsimp only [Shared.tick]
    split
    · omega
    · exact le_rfl
  have hclock : s.clock ≤ (s.tick n).clock := by
    dsimp only [Shared.tick]
    omega
  refine ⟨⟨?_, ?_, ?_, ?_, hs.answers⟩, ⟨hclock, hlast, rfl, id, id⟩⟩
  · dsimp only [Shared.tick]
    split <;> omega
  · intro hactive
    exact if_pos hactive
  · intro st hst hactive
    obtain ⟨hperiod, hsession⟩ := hs.cache st hst hactive
    exact ⟨hperiod.trans (unixMilli_mono (by omega)), hsession⟩
  · intro hreturned
    obtain ⟨hrevoked, hnone, hdeny⟩ := hs.sealed hreturned
    -- a revoked row keeps its last active time
    have hsame : (s.tick n).limit cfg = s.limit cfg := by
      unfold Shared.limit
      dsimp only [Shared.tick]
      rw [if_neg hrevoked]
    have hmilli := unixMilli_mono hclock
    refine ⟨hrevoked, fun st hst hactive => (hnone st hst hactive).trans_le hmilli, ?_⟩
    rw [hsame]
    exact hdeny.imp_left fun hlt => hlt.trans_le hmilli

theorem CacheSound.commit (row : Row) (presented : Option (String × Row))
    (exchangedFor : Option String) (hactive : s.row.status = .active)
    (hexpires : row.expiresAt = s.row.expiresAt) :
    CacheSound cfg (s.commit row presented exchangedFor) ∧
      Later s (s.commit row presented exchangedFor) := by
  refine ⟨⟨hs.lastActive_le, fun _ => hs.lastActive hactive, ?_, ?_, hs.answers⟩,
    ⟨le_rfl, le_rfl, hexpires, fun hinactive => absurd hactive hinactive, id⟩⟩
  · intro st hst hst'
    dsimp only [Shared.commit]
    rw [hexpires]
    exact hs.cache st hst hst'
  · intro hreturned
    exact absurd hactive (hs.sealed hreturned).revoked

theorem CacheSound.answer {late active : Bool} (h : late = true → active = false) :
    CacheSound cfg (s.answer late active) := by
  refine { hs with sealed := fun hreturned => ?_, answers := fun a ha => ?_ }
  · obtain ⟨hrevoked, hnone, hdeny⟩ := hs.sealed hreturned
    exact ⟨hrevoked, hnone, hdeny⟩
  · rcases mem_cons.1 ha with rfl | ha
    · exact h
    · exact hs.answers a ha

theorem CacheSound.finish (call : Rotation) (seen : Row) (result : RotateResult) :
    CacheSound cfg (s.finish call seen result) := by
  refine { hs with sealed := fun hreturned => ?_ }
  obtain ⟨hrevoked, hnone, hdeny⟩ := hs.sealed hreturned
  exact ⟨hrevoked, hnone, hdeny⟩

end

end Stable

/-! ## Writes -/

section Write

variable {cfg : Config} {s : Shared} {entry : Entry} {expiration : ℤ} {k : Cont}
  {cache : Option Stored}

theorem mem_visible {st : Stored} :
    st ∈ s.visible ↔ st ∈ s.cache ∧ unixMilli s.clock ≤ st.expiry := by
  simp [Shared.visible]

/-- A deny entry that is written after the revocation outlives every active entry. -/
theorem EvalTimely.sealed (hs : CacheSound cfg s) (h : EvalTimely cfg s entry expiration k)
    (hdeny : entry.status ≠ .active) (hrevoked : s.row.status ≠ .active) :
    Sealed cfg { s with cache := some ⟨entry, unixMilli s.clock + expiration⟩ } := by
  refine ⟨hrevoked, ?_, .inr ⟨_, rfl, hdeny, ?_⟩⟩
  · rintro st hst hactive
    cases hst
    exact absurd hactive hdeny
  · have hlong := h.deny hdeny
    have hmilli := unixMilli_mono hs.lastActive_le
    dsimp only [Shared.limit]
    omega

section

variable (h : EvalTimely cfg s entry expiration k) (hactive : entry.status = .active)

include h hactive

theorem EvalTimely.past_limit (hlimit : s.limit cfg < unixMilli s.clock) :
    expiration ≤ unixMilli s.clock := by
  obtain ⟨hperiod, hsession⟩ := h.active hactive
  unfold Config.period at hperiod
  rw [unixMilli_add_seconds] at hperiod
  unfold Shared.limit Config.period at hlimit
  omega

theorem EvalTimely.keeps_seal (hseal : Sealed cfg s)
    (hscript : evalScript (unixMilli s.clock) s.visible entry expiration = some cache) :
    Sealed cfg { s with cache := cache } := by
  obtain ⟨hcurrent, hcache⟩ := evalScript_active hactive hscript
  -- a visible deny entry would have refused the write
  have hlimit : s.limit cfg < unixMilli s.clock := by
    rcases hseal.deny with hlimit | ⟨st, hst, hdeny, hlong⟩
    · exact hlimit
    · by_contra hnot
      exact hdeny (hcurrent st (mem_visible.2 ⟨hst, by omega⟩))
  refine ⟨hseal.revoked, ?_, .inl hlimit⟩
  rcases hcache with ⟨rfl, -⟩ | ⟨-, hlater⟩
  · rintro st hst
    cases hst
  · have := h.past_limit hactive hlimit
    omega

end

/-- The cache after an accepted write. -/
theorem CacheSound.eval (hs : CacheSound cfg s) (h : EvalTimely cfg s entry expiration k)
    (hscript : evalScript (unixMilli s.clock) s.visible entry expiration = some cache) :
    CacheSound cfg { s with cache := cache } := by
  refine { hs with cache := ?_, sealed := ?_ }
  · intro st hst hactive
    by_cases hentry : entry.status = .active
    · rcases (evalScript_active hentry hscript).2 with ⟨rfl, -⟩ | ⟨rfl, -⟩
      · cases hst
      · cases hst
        exact h.active hentry
    · rw [evalScript_deny hentry hscript] at hst
      cases hst
      exact absurd hactive hentry
  · intro hreturned
    have hseal := hs.sealed hreturned
    by_cases hentry : entry.status = .active
    · exact h.keeps_seal hentry hseal hscript
    · rw [evalScript_deny hentry hscript]
      exact h.sealed hs hentry hseal.revoked

end Write

/-! ## Steps -/

/-- What a call leaves. -/
structure Serves (cfg : Config) (s : Shared) (out : Shared × List Thread) : Prop where
  sound : CacheSound cfg out.1
  later : Later s out.1
  threads : ∀ u ∈ out.2, u.Timely cfg out.1

open WriteTimely

section Steps

variable {cfg : Config} {s s' : Shared} {t : Thread} {k : Cont}

theorem Serves.ends (hs : CacheSound cfg s') (h : Later s s') : Serves cfg s (s', []) :=
  ⟨hs, h, fun _ hu => absurd hu not_mem_nil⟩

theorem Serves.one (hs : CacheSound cfg s') (h : Later s s') (ht : t.Timely cfg s') :
    Serves cfg s (s', [t]) :=
  ⟨hs, h, fun _ hu => mem_singleton.1 hu ▸ ht⟩

section

variable (hs : CacheSound cfg s)

include hs

/-- The call goes on and changes nothing. -/
theorem Serves.stays (ht : t.Timely cfg s) : Serves cfg s (s, [t]) :=
  .one hs (.refl s) ht

theorem Serves.answer {late active : Bool} (h : late = true → active = false) :
    Serves cfg s (s.answer late active, []) :=
  .ends (hs.answer h) ⟨le_rfl, le_rfl, rfl, id, id⟩

theorem Serves.finish (call : Rotation) (seen : Row) (result : RotateResult) :
    Serves cfg s (s.finish call seen result, []) :=
  .ends (hs.finish call seen result) ⟨le_rfl, le_rfl, rfl, id, id⟩

/-- A caller goes on, unless it is a `RevokeUserSession` that returns. -/
theorem serves_resume (hk : k.Timely s) (hne : k ≠ .revokeTombstone) (r : WriteResult) :
    Serves cfg s (resume s r k) := by
  fun_cases resume s r k
  case case1 | case5 | case17 => exact .stays hs ⟨hk, hne⟩
  case case2 | case4 => exact .answer hs fun _ => rfl
  case case3 => exact .answer hs fun hlate => absurd (hk.symm.trans hlate) (by decide)
  case case6 | case7 | case9 | case10 => exact .finish hs ..
  case case8 | case11 | case14 => exact .stays hs hk
  case case13 => exact absurd rfl hne
  all_goals exact .ends hs (.refl s)

theorem serves_confirmed (hk : k.Timely s) (found : Bool) :
    Serves cfg s (confirmed s found k, []) := by
  cases k with
  | filled late session => exact .answer hs fun hlate => absurd (hk.symm.trans hlate) (by decide)
  | rotated call session => exact .finish hs ..
  | _ => exact .ends hs (.refl s)

end

theorem WriteTimely.deny {session : Row} {status : Status} {now : ℤ} (hk : k.Timely s)
    (hstatus : status ≠ .active) (hexpires : session.expiresAt = s.row.expiresAt) :
    WriteTimely cfg s (session.denyEntry status now) none k :=
  ⟨hk, fun _ => hstatus, hexpires, fun hactive => absurd hactive hstatus⟩

/-- A fill with a row that was read or updated in time. -/
theorem WriteTimely.fill {session : Row} {deadline : ℤ} (hk : k.Timely s)
    (hne : k ≠ .revokeTombstone) (hexpires : session.expiresAt = s.row.expiresAt)
    (hdeadline : deadline ≤ s.lastActive + cfg.period) :
    WriteTimely cfg s session.cacheEntry (some deadline) k := by
  refine ⟨hk, fun h => absurd h hne, hexpires, ?_⟩
  rintro - d hd
  cases hd
  exact hdeadline

section

variable (hs : CacheSound cfg s) (ht : t.Timely cfg s)

include hs ht

variable (fails : Bool)

/-- A reader that starts after the return finds no active entry and no active row. -/
theorem serves_reader : Serves cfg s (advanceReader cfg fails s t) := by
  fun_cases advanceReader cfg fails s t
  case case1 | case2 => exact .stays hs fun hlate => hlate
  case case3 | case7 => exact .answer hs fun _ => rfl
  case case4 st hst hlive =>
    refine .stays hs ?_
    show s.returned = false
    by_contra hreturned
    obtain ⟨hcache, htime⟩ := mem_visible.1 hst
    rw [not_or, not_not] at hlive
    have hsealed := hs.sealed (Bool.eq_true_of_not_eq_false hreturned)
    have hgone := hsealed.active st hcache hlive.1
    omega
  case case5 => exact .answer hs fun hlate => absurd (ht.symm.trans hlate) (by decide)
  case case6 => exact .stays hs ⟨ht, le_rfl⟩
  case case8 =>
    refine .stays hs ⟨s.row.found_expiresAt, fun hactive => ?_⟩
    constructor
    · by_contra hlate
      exact (hs.sealed (ht.1 (Bool.eq_true_of_not_eq_false hlate))).revoked hactive
    · rw [hs.lastActive hactive]
      exact ht.2
  case case9 husable =>
    obtain ⟨hearly, hdeadline⟩ := ht.2 husable.1
    exact .stays hs (fill hearly (by simp) ht.1 hdeadline)
  case case10 =>
    have hdeny : Status.revoked ≠ .active := by decide
    exact .stays hs ⟨trivial, fun _ => hdeny, ht.1, fun hactive => absurd hactive hdeny⟩
  case case11 => exact .stays hs ht

theorem serves_rotation : Serves cfg s (advanceRotation cfg fails s t) := by
  fun_cases advanceRotation cfg fails s t
  case case1 | case3 | case5 => exact .ends hs (.refl s)
  case case2 | case9 => exact .stays hs trivial
  case case4 =>
    refine .stays hs ?_
    exact le_rfl
  case case6 call tries deadline _ =>
    fun_cases afterRotateLoad s call tries deadline s.row.found
    case case2 => exact .stays hs ⟨ht, s.row.found_expiresAt⟩
    case case5 =>
      exact .stays hs (deny s.row.found_expiresAt (by decide) s.row.found_expiresAt)
    all_goals exact .finish hs ..
  case case7 | case10 | case12 => exact .finish hs ..
  case case8 call _ deadline session _ hswap =>
    obtain ⟨hsound, hlater⟩ := hs.commit (s.row.exchange call session)
      (some (call.presentedHash, session)) (some call.nextHash) hswap.1.1 rfl
    have hdeadline : deadline ≤ s.lastActive + cfg.period := by
      rw [hs.lastActive hswap.1.1]
      exact ht.1
    exact .one hsound hlater (fill trivial (by simp) ht.2 hdeadline)
  case case11 call session _ husable =>
    obtain ⟨hsound, hlater⟩ := hs.commit (s.row.revoke call.now)
      (some (call.presentedHash, session)) none husable.1 rfl
    exact .one hsound hlater (deny ht (by decide) ht)
  case case13 => exact .stays hs ht

theorem serves_revocation : Serves cfg s (advanceRevocation fails s t) := by
  fun_cases advanceRevocation fails s t
  case case1 | case7 => exact .stays hs trivial
  case case3 | case9 =>
    exact .stays hs (deny s.row.found_expiresAt (by decide) s.row.found_expiresAt)
  case case5 now _ husable =>
    rw [not_or, not_not] at husable
    obtain ⟨hsound, hlater⟩ := hs.commit (s.row.revoke now) none none husable.2.1 rfl
    have hrevoked : (s.row.revoke now).status ≠ .active := by
      dsimp only [Row.revoke]
      decide
    exact .one hsound hlater (deny hrevoked (by decide) ht)
  case case11 presentedHash now session hactive =>
    rw [not_or, not_not] at hactive
    obtain ⟨hsound, hlater⟩ := hs.commit (s.row.revoke now) (some (presentedHash, session)) none
      hactive.2 rfl
    exact .one hsound hlater (deny trivial (by decide) ht)
  case case12 => exact .stays hs ht
  all_goals exact .ends hs (.refl s)

theorem serves_version : Serves cfg s (advanceVersion cfg fails s t) := by
  fun_cases advanceVersion cfg fails s t
  case case2 =>
    refine .stays hs ?_
    exact le_rfl
  case case3 | case6 => exact .stays hs ht
  case case5 nextAuthVersion deadline _ hchecked _ =>
    have hactive : s.row.status = .active := by
      by_contra hne
      exact hchecked (.inr (.inl hne))
    have hdeadline : deadline ≤ s.lastActive + cfg.period := by
      rw [hs.lastActive hactive]
      exact ht
    obtain ⟨hsound, hlater⟩ := hs.commit { s.row with
      version := s.row.version + 1, userAuthVersion := nextAuthVersion } none none hactive rfl
    exact .one hsound hlater (fill trivial (by simp) rfl hdeadline)
  all_goals exact .ends hs (.refl s)

end

theorem Later.cache (s : Shared) (cache : Option Stored) : Later s { s with cache := cache } :=
  ⟨le_rfl, le_rfl, rfl, id, id⟩

theorem serves_write (hredis : cfg.redisEnabled = true) (hs : CacheSound cfg s) {entry : Entry}
    {deadline : Option ℤ} (ht : WriteTimely cfg s entry deadline k) (fails : Bool) :
    Serves cfg s (advanceCache cfg fails s (.write entry deadline k)) := by
  dsimp only [advanceCache]
  rw [if_neg (not_not.2 hredis)]
  by_cases hactive : entry.status = .active
  · have hne : k ≠ .revokeTombstone := fun hk => ht.tombstone hk hactive
    split
    · exact serves_resume hs ht.caller hne _
    rename_i expiration hok
    obtain ⟨d, hd, hdeadline, hsession⟩ := redisExpiration_active hactive hok
    refine .stays hs ⟨ht.caller, ht.tombstone, fun _ => ⟨?_, ?_⟩, absurd hactive⟩
    · exact hdeadline.trans (unixMilli_mono (ht.deadline hactive d hd))
    · exact ht.expiresAt ▸ hsession
  · obtain ⟨expiration, hok, hlong⟩ := redisExpiration_deny cfg s.clock deadline hactive
    rw [hok]
    exact .stays hs ⟨ht.caller, ht.tombstone, fun h => absurd h hactive,
      fun _ => ht.expiresAt ▸ hlong⟩

/-- The script. The return of a `RevokeUserSession` waits for a tombstone that is not refused. -/
theorem serves_eval (hs : CacheSound cfg s) {entry : Entry} {deadline : Option ℤ} {expiration : ℤ}
    (ht : EvalTimely cfg s entry expiration k)
    (hnewest : k = .revokeTombstone → ∀ st ∈ s.visible, st.entry.version ≤ entry.version) :
    Serves cfg s (advanceCache cfg false s (.eval entry deadline expiration k)) := by
  dsimp only [advanceCache]
  rw [if_neg Bool.false_ne_true]
  split
  next hrefused =>
    refine serves_resume hs ht.caller (fun hk => ?_) _
    obtain ⟨st, hst, hlt⟩ := evalScript_refused (ht.tombstone hk) hrefused
    exact absurd (hnewest hk st hst) (not_le.2 hlt)
  next cache hscript =>
    have hsound := hs.eval ht hscript
    have hlater := Later.cache s cache
    split
    next hactive =>
      exact .one hsound hlater ⟨ht.caller.later hlater, fun hk => ht.tombstone hk hactive⟩
    rename_i hdeny
    by_cases hk : k = .revokeTombstone
    · subst hk
      have hseal : Sealed cfg { s with cache := cache } := by
        rw [evalScript_deny hdeny hscript]
        exact ht.sealed hs hdeny ht.caller
      refine .ends { hs with cache := hsound.cache, sealed := fun _ => ?_ }
        ⟨le_rfl, le_rfl, rfl, id, fun _ => rfl⟩
      exact { hseal with }
    · obtain ⟨hsound', hlater', hthreads⟩ :=
        serves_resume hsound (ht.caller.later hlater) hk .ok
      exact ⟨hsound', hlater.trans hlater', hthreads⟩

/-- A step of any call. -/
theorem advance_serves (hredis : cfg.redisEnabled = true) (hs : CacheSound cfg s)
    (ht : t.Timely cfg s) {threads : List Thread} {c : Choice} {ts : List Thread}
    (hcond : TombstonesLand ⟨s, threads⟩ c t) (h : advance cfg c s t = some (s', ts)) :
    CacheSound cfg s' ∧ Later s s' ∧ ∀ u ∈ ts, u.Timely cfg s' := by
  obtain ⟨hup, hnewest⟩ := hcond
  obtain ⟨htick, hlater⟩ := hs.tick c.elapsed
  have ht := ht.later hlater
  have hserves : Serves cfg (s.tick c.elapsed) (s', ts) := by
    obtain h := Option.some.inj h
    rw [← h]
    cases t with
    | get | cached | miss | load | judge => exact serves_reader htick ht _
    | rotate | attempt | rotateLoad | swap | reuseUpdate => exact serves_rotation htick ht _
    | revoke | revokeLoad | revokeUpdate | revokeByHash | hashLoad | hashUpdate =>
      exact serves_revocation htick ht _
    | advance | advanceNow | advanceUpdate => exact serves_version htick ht _
    | write entry deadline k => exact serves_write hredis htick ht _
    | eval entry deadline expiration k =>
      have hok : c.fails = false := hup rfl
      rw [hok]
      refine serves_eval htick ht fun hk => ?_
      subst hk
      exact hnewest entry rfl
    | completed entry deadline k =>
      dsimp only [advanceCache]
      repeat' split
      all_goals exact serves_resume htick ht.1 ht.2 _
    | confirm session k => exact .stays htick ht
    | count now session k => exact serves_confirmed htick ht.1 _
  exact ⟨hserves.sound, hlater.trans hserves.later, hserves.threads⟩

end Steps

/-! ## Runs -/

theorem InTime.sound {s : Shared} (h : InTime cfg s) : CacheSound cfg s := by
  refine ⟨h.lastActive.le, fun _ => h.lastActive, ?_, ?_, ?_⟩
  · rw [h.lastActive]
    exact h.cache
  · rw [h.returned]
    exact fun hreturned => absurd hreturned Bool.false_ne_true
  · rw [h.answers]
    exact fun _ ha => absurd ha not_mem_nil

theorem Thread.Timely.of_initial {t : Thread} (h : t.initial = true) (s : Shared) :
    t.Timely cfg s := by
  cases t with
  | get | rotate | revoke | revokeByHash | advance => trivial
  | _ => cases h

/-- **No active answer after a revocation.** With Redis up, in every run in which the tombstone of
a `RevokeUserSession` never meets a cached entry with a greater version: a reader that starts
after a `RevokeUserSession` has returned true does not find the session active. -/
theorem revoked_session_denied {cfg : Config} (hredis : cfg.redisEnabled = true)
    {p q : Pool Shared Thread} (hstart : InTime cfg p.shared)
    (hinitial : ∀ t ∈ p.threads, t.initial = true)
    (hrun : Exec (Pool.step (advance cfg)) (Pool.Meets TombstonesLand) p q) :
    ∀ a ∈ q.shared.answers, a.late = true → a.active = false := by
  have hsound : CacheSound cfg q.shared ∧ ∀ t ∈ q.threads, t.Timely cfg q.shared := by
    refine Pool.local_invariant (R := Later) ?_ ?_ hstart.sound ?_ hrun
    · exact fun _ _ _ hlater ht => ht.later hlater
    · exact fun _ _ _ _ _ hcond hs ht hadvance => advance_serves hredis hs ht hcond hadvance
    · exact fun t ht => .of_initial (hinitial t ht) _
  exact hsound.1.answers

/-- An active session that expires at 1000 s. -/
def freshSession : Shared :=
  ⟨⟨1, 1, .active, "h0", "", 0, 1000, 0⟩, none, 0, 0, [], [], [], false⟩

/-- A fill is delayed until after the revocation, and another reader comes after it. -/
theorem revoked_session_denied_late_fill :
    ∃ q, Exec (Pool.step (advance ⟨true, 60⟩)) (Pool.Meets TombstonesLand)
        ⟨freshSession, [.get, .revoke, .get]⟩ q ∧
      q.shared.answers = [⟨true, false⟩, ⟨false, false⟩] ∧
      ∀ a ∈ q.shared.answers, a.late = true → a.active = false := by
  have hstart : InTime ⟨true, 60⟩ freshSession :=
    ⟨rfl, fun _ hst => absurd hst.symm (Option.some_ne_none _), rfl, rfl⟩
  exact Exec.exists_and_of_actions (replicate 5 (0, ⟨0, false⟩) ++
    replicate 7 (1, ⟨0, false⟩) ++ replicate 2 (0, ⟨1000000000, false⟩))
    (by decide +kernel) fun _ hrun _ => revoked_session_denied rfl hstart (by decide) hrun

/-- The fence of a revocation expires, and the version is advanced before the row is revoked. The
tombstone with the old version is refused, the revocation returns true, and a later reader
finds the session active. -/
theorem revoked_session_cached :
    ∃ q, Exec (Pool.step (advance ⟨true, 60⟩)) (Pool.Meets fun _ => RedisUp)
        ⟨freshSession, [.revoke, .advance 1 1 2, .get]⟩ q ∧
      q.shared.row.status = .revoked ∧ ∃ a ∈ q.shared.answers, a.late = true ∧ a.active = true := by
  exact Exec.exists_of_actions (replicate 4 (0, ⟨0, false⟩) ++ [(1, ⟨61000000000, false⟩)] ++
    replicate 5 (1, ⟨0, false⟩) ++ replicate 3 (0, ⟨0, false⟩) ++
    [(0, ⟨1000000000, false⟩), (0, ⟨0, false⟩)]) (by decide +kernel)

end OmniRouters.UserSession
