import Mathlib.Algebra.Order.Ring.Int
import OmniRouters.Lib.Threads

/-!
# Reserving from a cached wallet

A model of `TryReserveUserQuota` (`model/quota_reserve.go`) and `GetUserCache`
(`model/user_cache.go`) for one user, with Redis and without batch updates. Every script and
every SQL statement is one atomic step; the population of the cache is a thread of its own.

A population writes the quota that was read before, whatever has happened to the wallet in the
meantime. Where every population writes what the wallet holds then, the cache and the database
agree up to the reservations that are still to be stored.

* `advance_agrees`: what a step keeps.
* `reserved_le_quota`: the reservations that are granted.
-/

namespace OmniRouters.Quota

open OmniRouters.Lib

/-! ## The model -/

/-- The wallet of a user: the column `quota` and the field `Quota` of the cached hash, if there
is one. -/
structure Wallet where
  stored : ℤ
  cached : Option ℤ
deriving DecidableEq

/-- `cacheQuotaResult` (quota_reserve.go:12-18). -/
inductive CacheQuotaResult
  | insufficient
  | ok
  | miss

/-- `userQuotaReserveScript` (quota_reserve.go:20-30). -/
def userQuotaReserveScript (quota : ℕ) (s : Wallet) : CacheQuotaResult × Wallet :=
  match s.cached with
  | none => (.miss, s)
  | some cached =>
    if cached < quota then (.insufficient, s) else (.ok, { s with cached := some (cached - quota) })

namespace UserCache

/-- A call in progress, by the step that comes next. The `GetUserCache` of a reservation goes on
with the quota to reserve. -/
inductive Thread
  /-- `TryReserveUserQuota` is called. -/
  | tryReserve (quota : ℤ)
  /-- `GetUserCache` reads the cache. -/
  | getUserCache (reserving : Option ℕ)
  /-- `GetUserCache` reads the row. -/
  | getUserById (reserving : Option ℕ)
  /-- The cache is to be populated with the quota of a row that was read. -/
  | populateUserCache (quota : ℤ)
  /-- The second reservation in the cache. -/
  | tryReserveAgain (quota : ℕ)
  /-- `reserveUserQuotaDB`. -/
  | reserveUserQuotaDB (quota : ℕ)
  /-- `persistUserQuotaDelta` of what was reserved in the cache. -/
  | persistUserQuotaDelta (quota : ℕ)
  /-- `TryReserveUserQuota` has returned true. -/
  | reserved (quota : ℕ)
  /-- Any other call or population has ended. -/
  | finished
deriving DecidableEq

/-- What follows a `GetUserCache`. -/
def Thread.afterGet : Option ℕ → Thread
  | none => .finished
  | some quota => .tryReserveAgain quota

/-- One step of a call (quota_reserve.go:162-197,
user_cache.go:83-163). -/
def advance (_ : Unit) (s : Wallet) : Thread → Option (Wallet × List Thread)
  | .tryReserve quota =>
    if quota < 0 then some (s, [.finished])
    else if quota = 0 then some (s, [.reserved 0])
    else match userQuotaReserveScript quota.toNat s with
      | (.miss, s) => some (s, [.getUserCache (some quota.toNat)])
      | (.insufficient, s) => some (s, [.finished])
      | (.ok, s) => some (s, [.persistUserQuotaDelta quota.toNat])
  | .getUserCache reserving =>
    if s.cached.isSome then some (s, [.afterGet reserving])
    else some (s, [.getUserById reserving])
  | .getUserById reserving =>
    -- the population is started when the call returns
    some (s, [.afterGet reserving, .populateUserCache s.stored])
  | .populateUserCache quota => some ({ s with cached := some quota }, [.finished])
  | .tryReserveAgain quota =>
    match userQuotaReserveScript quota s with
    | (.miss, s) => some (s, [.reserveUserQuotaDB quota])
    | (.insufficient, s) => some (s, [.finished])
    | (.ok, s) => some (s, [.persistUserQuotaDelta quota])
  | .reserveUserQuotaDB quota =>
    if (quota : ℤ) ≤ s.stored then
      some ({ s with stored := s.stored - quota }, [.reserved quota])
    else some (s, [.finished])
  | .persistUserQuotaDelta quota =>
    some ({ s with stored := s.stored - quota }, [.reserved quota])
  | .reserved _ | .finished => none

/-- The calls of the system, before their first step. -/
def Thread.isCall : Thread → Bool
  | .tryReserve _ | .getUserCache none => true
  | _ => false

/-- The calls and populations that have ended. -/
def Thread.ended : Thread → Bool
  | .reserved _ | .finished => true
  | _ => false

/-- What a call has granted. -/
@[simp] def Thread.granted : Thread → ℕ
  | .reserved quota => quota
  | _ => 0

/-- What is reserved in the cache and not yet stored. -/
@[simp] def Thread.pending : Thread → ℕ
  | .persistUserQuotaDelta quota => quota
  | _ => 0

/-- The condition of a step: a population writes what the wallet holds, and the database grants
a reservation only while there is no cached quota. -/
def Coherent (p : Pool Wallet Thread) (_ : Unit) : Thread → Prop
  | .populateUserCache quota => quota = p.shared.cached.getD p.shared.stored
  | .reserveUserQuotaDB _ => p.shared.cached = none
  | _ => True

instance (p : Pool Wallet Thread) (c : Unit) : DecidablePred (Coherent p c)
  | .populateUserCache _ => inferInstanceAs (Decidable (_ = _))
  | .reserveUserQuotaDB _ => inferInstanceAs (Decidable (_ = _))
  | .tryReserve _ | .getUserCache _ | .getUserById _ | .tryReserveAgain _
  | .persistUserQuotaDelta _ | .reserved _ | .finished => isTrue trivial

/-! ## The invariant -/

/-- A wallet that began with `quota`, of which `granted` has been granted and `pending` is
reserved in the cache: what is granted has left the database, and the cache is ahead of the
database by what is pending. -/
structure Agrees (quota : ℤ) (s : Wallet) (granted pending : ℕ) : Prop where
  stored : s.stored + granted = quota
  cold : s.cached = none → pending = 0 ∧ 0 ≤ s.stored
  warm : ∀ cached, s.cached = some cached → cached + pending = s.stored ∧ 0 ≤ cached

/-- The outcomes of a reservation in the cache. -/
theorem userQuotaReserveScript_cases {s s' : Wallet} {res : CacheQuotaResult} {quota : ℕ}
    (h : userQuotaReserveScript quota s = (res, s')) :
    (res = .miss ∧ s' = s) ∨ (res = .insufficient ∧ s' = s) ∨
      ∃ cached : ℤ, res = .ok ∧ s.cached = some cached ∧ (quota : ℤ) ≤ cached ∧
        s' = { s with cached := some (cached - quota) } := by
  unfold userQuotaReserveScript at h
  cases hc : s.cached with
  | none =>
    simp only [hc, Prod.mk.injEq] at h
    exact .inl ⟨h.1.symm, h.2.symm⟩
  | some cached =>
    simp only [hc] at h
    split at h
    · simp only [Prod.mk.injEq] at h
      exact .inr (.inl ⟨h.1.symm, h.2.symm⟩)
    next hle =>
      simp only [Prod.mk.injEq] at h
      exact .inr (.inr ⟨cached, h.1.symm, rfl, not_lt.1 hle, h.2.symm⟩)

section Steps

variable {total : ℤ} {s s' : Wallet} {granted pending : ℕ}

variable {quota : ℕ}

theorem Agrees.reserve {cached : ℤ} (h : Agrees total s granted pending)
    (hc : s.cached = some cached) (hle : (quota : ℤ) ≤ cached) :
    Agrees total { s with cached := some (cached - quota) } granted (quota + pending) where
  stored := h.stored
  cold := nofun
  warm := by
    obtain ⟨hwarm, -⟩ := h.warm cached hc
    rintro _ ⟨⟩
    push_cast
    omega

/-- A reservation is tried in the cache, and a call that misses it goes on with `miss`. -/
theorem Agrees.tryCache {miss : Thread} {ts : List Thread}
    (h : Agrees total s granted pending) (hgranted : miss.granted = 0) (hpending : miss.pending = 0)
    (hadvance : (match userQuotaReserveScript quota s with
      | (.miss, s) => some (s, [miss])
      | (.insufficient, s) => some (s, [.finished])
      | (.ok, s) => some (s, [.persistUserQuotaDelta quota])) = some (s', ts)) :
    Agrees total s' ((ts.map Thread.granted).sum + granted)
      ((ts.map Thread.pending).sum + pending) := by
  cases hscript : userQuotaReserveScript quota s with
  | mk res s1 =>
    rw [hscript] at hadvance
    rcases userQuotaReserveScript_cases hscript with
      ⟨rfl, rfl⟩ | ⟨rfl, rfl⟩ | ⟨cached, rfl, hc, hle, rfl⟩
    · cases hadvance
      rw [List.map_singleton, List.map_singleton, List.sum_singleton, List.sum_singleton, hgranted,
        hpending, zero_add, zero_add]
      exact h
    · cases hadvance
      simpa using h
    · cases hadvance
      simpa using h.reserve hc hle

theorem Agrees.persist (h : Agrees total s granted (quota + pending)) :
    Agrees total { s with stored := s.stored - quota } (quota + granted) pending where
  stored := by
    have hstored := h.stored
    push_cast
    omega
  cold hc := by
    obtain ⟨hpending, hstored⟩ := h.cold hc
    dsimp only
    omega
  warm cached hc := by
    obtain ⟨hwarm, hpos⟩ := h.warm cached hc
    dsimp only
    omega

theorem Agrees.reserveDB (h : Agrees total s granted pending) (hc : s.cached = none)
    (hle : (quota : ℤ) ≤ s.stored) :
    Agrees total { s with stored := s.stored - quota } (quota + granted) pending where
  stored := by
    have hstored := h.stored
    push_cast
    omega
  cold _ := by
    obtain ⟨hpending, -⟩ := h.cold hc
    dsimp only
    omega
  warm cached hcached := absurd (hc.symm.trans hcached) nofun

theorem Agrees.populate (h : Agrees total s granted pending) :
    Agrees total { s with cached := some (s.cached.getD s.stored) } granted pending where
  stored := h.stored
  cold := nofun
  warm := by
    rintro _ ⟨⟩
    cases hc : s.cached with
    | none =>
      obtain ⟨hpending, hpos⟩ := h.cold hc
      simp only [Option.getD_none, hpending]
      omega
    | some cached => exact h.warm cached hc

/-- **One step.** A call keeps the wallet in agreement, its own part in what is granted and
pending included. -/
theorem advance_agrees {p : Pool Wallet Thread} {t : Thread} {ts : List Thread}
    (h : Agrees total p.shared (t.granted + granted) (t.pending + pending))
    (hok : Coherent p () t) (hadvance : advance () p.shared t = some (s', ts)) :
    Agrees total s' ((ts.map Thread.granted).sum + granted)
      ((ts.map Thread.pending).sum + pending) := by
  cases t with
  | tryReserve quota =>
    simp only [Thread.granted, Thread.pending, zero_add] at h
    simp only [advance] at hadvance
    split at hadvance
    · cases hadvance
      simpa using h
    split at hadvance
    · cases hadvance
      simpa using h
    exact h.tryCache rfl rfl hadvance
  | tryReserveAgain quota =>
    simp only [Thread.granted, Thread.pending, zero_add] at h
    exact h.tryCache rfl rfl hadvance
  | getUserCache reserving =>
    simp only [advance] at hadvance
    split at hadvance
    · cases hadvance
      cases reserving <;> simpa [Thread.afterGet] using h
    · cases hadvance
      simpa using h
  | getUserById reserving =>
    cases hadvance
    cases reserving <;> simpa [Thread.afterGet] using h
  | populateUserCache quota =>
    cases hadvance
    obtain rfl : quota = p.shared.cached.getD p.shared.stored := hok
    simpa using h.populate
  | reserveUserQuotaDB quota =>
    simp only [advance] at hadvance
    split at hadvance
    next hle =>
      cases hadvance
      simpa using h.reserveDB hok hle
    · cases hadvance
      simpa using h
  | persistUserQuotaDelta quota =>
    cases hadvance
    simpa using h.persist
  | reserved | finished => cases hadvance

end Steps

/-! ## Runs -/

/-- The calls `calls` on a wallet that holds `quota`. -/
def start (quota : ℤ) (cached : Option ℤ) (calls : List Thread) : Pool Wallet Thread :=
  ⟨⟨quota, cached⟩, calls⟩

theorem start_agrees {quota : ℤ} (hquota : 0 ≤ quota) {cached : Option ℤ}
    (hcached : cached = none ∨ cached = some quota) {calls : List Thread}
    (hcalls : ∀ t ∈ calls, t.isCall = true) :
    Agrees quota (start quota cached calls).shared ((start quota cached calls).total Thread.granted)
      ((start quota cached calls).total Thread.pending) := by
  have hgranted : (start quota cached calls).total Thread.granted = 0 := by
    refine Pool.total_eq_zero fun t ht => ?_
    have hcall := hcalls t ht
    cases t <;> first | rfl | cases hcall
  have hpending : (start quota cached calls).total Thread.pending = 0 := by
    refine Pool.total_eq_zero fun t ht => ?_
    have hcall := hcalls t ht
    cases t <;> first | rfl | cases hcall
  rw [hgranted, hpending]
  refine ⟨by simp [start], fun _ => ⟨rfl, hquota⟩, fun c hc => ?_⟩
  rcases hcached with rfl | rfl
  · cases hc
  · cases hc
    exact ⟨by simp [start], hquota⟩

theorem exec_agrees {quota : ℤ} {p q : Pool Wallet Thread}
    (hp : Agrees quota p.shared (p.total Thread.granted) (p.total Thread.pending))
    (hrun : Exec (Pool.step advance) (Pool.Meets Coherent) p q) :
    Agrees quota q.shared (q.total Thread.granted) (q.total Thread.pending) := by
  refine Exec.invariant (I := fun p => Agrees quota p.shared (p.total Thread.granted)
    (p.total Thread.pending)) (fun p a q hp hok hstep => ?_) hp hrun
  obtain ⟨t, ts, others, ht, hadvance, hperm, hperm'⟩ := Pool.step_cases hstep
  rw [Pool.total_cons hperm, Pool.total_cons hperm] at hp
  rw [Pool.total_append hperm', Pool.total_append hperm']
  exact advance_agrees hp (hok t ht) hadvance

/-- **Reservations from a wallet.** Any calls run on a wallet that holds a quota, in any order.
As long as no step breaks the coherence of the cache, what is granted does not exceed the
quota, and when every call has ended the cache agrees with the database. -/
theorem reserved_le_quota {quota : ℤ} (hquota : 0 ≤ quota) {cached : Option ℤ}
    (hcached : cached = none ∨ cached = some quota) {calls : List Thread}
    (hcalls : ∀ t ∈ calls, t.isCall = true) {p : Pool Wallet Thread}
    (hrun : Exec (Pool.step advance) (Pool.Meets Coherent) (start quota cached calls) p) :
    p.total Thread.granted ≤ quota ∧ ((∀ t ∈ p.threads, t.ended = true) →
        ∀ c, p.shared.cached = some c → c = p.shared.stored) := by
  have hagrees := exec_agrees (start_agrees hquota hcached hcalls) hrun
  have hstored := hagrees.stored
  constructor
  · cases hc : p.shared.cached with
    | none =>
      obtain ⟨-, hpos⟩ := hagrees.cold hc
      omega
    | some c =>
      obtain ⟨hwarm, hpos⟩ := hagrees.warm c hc
      omega
  · intro hended c hc
    have hpending : p.total Thread.pending = 0 := by
      refine Pool.total_eq_zero fun t ht => ?_
      have hend := hended t ht
      cases t <;> first | rfl | cases hend
    obtain ⟨hwarm, -⟩ := hagrees.warm c hc
    omega

/-- A cold wallet of 100 units. The first call reads the row and populates the cache before any
reservation, the second reserves 60 units in the cache, and the third finds 40 left. -/
theorem reserved_after_populate :
    ∃ p, Exec (Pool.step advance) (Pool.Meets Coherent)
        (start 100 none [.getUserCache none, .tryReserve 60, .tryReserve 70]) p ∧
      (∀ t ∈ p.threads, t.ended = true) ∧ p.total Thread.granted = 60 ∧
      (p.total Thread.granted ≤ (100 : ℤ) ∧ ((∀ t ∈ p.threads, t.ended = true) →
          ∀ c, p.shared.cached = some c → c = p.shared.stored)) := by
  exact Exec.exists_and_and_of_actions [(0, ()), (0, ()), (1, ()), (2, ()), (2, ()), (3, ())]
    (by decide +kernel) fun _ hrun _ _ => reserved_le_quota (by decide) (.inl rfl)
    (by decide) hrun

/-- A cold wallet of 100 units and two reservations of 100. The first one misses the cache, reads
the row and is granted by the database; its population then writes the 100 units it has read,
and the second one is granted by the cache. -/
theorem reserved_twice_by_stale_population :
    ∃ p, Exec (Pool.step advance) (fun _ _ => True)
        (start 100 none [.tryReserve 100, .tryReserve 100]) p ∧
      (∀ t ∈ p.threads, t.ended = true) ∧ p.total Thread.granted = 200 ∧
      p.shared = ⟨-100, some 0⟩ := by
  exact Exec.exists_of_actions [(0, ()), (0, ()), (0, ()), (0, ()), (0, ()), (1, ()), (2, ()),
    (2, ())] (by decide +kernel)

end UserCache

end OmniRouters.Quota
