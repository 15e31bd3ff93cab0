import Mathlib.Algebra.Order.Ring.Int
import OmniRouters.Lib.Threads

/-!
# Reserving from a cached token

A model of `TryReserveTokenQuota` (`model/quota_reserve.go`), `IncreaseTokenQuota`,
`DecreaseTokenQuota`, `GetTokenByKey` (`model/token.go`), `cacheInitToken` and
`invalidateTokenCacheForMutation` (`model/token_cache.go`) for one limited token, with Redis and
without batch updates. Every script and every SQL statement is one atomic step.

A snapshot is published only into a cold cache, so it never overwrites a reservation. But a change
of the quota is made in the cache and in the database by two threads, and a snapshot that is read
and published between the two halves has one of them twice or not at all. And a reservation whose
cached quota is dropped before it is stored is not seen by the database.

* `advance_agrees`: what a step keeps.
* `token_reserved_le`: the reservations that are granted.
-/

namespace OmniRouters.Quota

open Lib List Option

namespace TokenCache

/-! ## The model -/

/-- A token: the column `remain_quota`, the field `RemainQuota` of the cached hash, if there is
one, and whether the fence of a mutation is up. -/
structure Token where
  stored : ℤ
  cached : Option ℤ
  fence : Bool
deriving DecidableEq

/-- A call in progress, by the step that comes next. The `GetTokenByKey` of a reservation reads
the row at once and goes on with the quota to reserve. -/
inductive Thread
  /-- `TryReserveTokenQuota` is called. -/
  | tryReserve (quota : ℤ)
  /-- `IncreaseTokenQuota` is called. -/
  | increase (quota : ℤ)
  /-- `DecreaseTokenQuota` is called. -/
  | decrease (quota : ℤ)
  /-- `GetTokenByKey` reads the cache. -/
  | getTokenByKey
  /-- `invalidateTokenCacheForMutation` is called. -/
  | invalidate
  /-- `GetTokenByKey` reads the row. -/
  | readToken (reserving : Option ℕ)
  /-- `cacheInitToken` of a row with the quota `snapshot`. -/
  | cacheInitToken (snapshot : ℤ) (reserving : Option ℕ)
  /-- The second reservation in the cache. -/
  | tryReserveAgain (quota : ℕ)
  /-- `reserveTokenQuotaDB`. -/
  | reserveTokenQuotaDB (quota : ℕ)
  /-- `persistTokenQuotaDelta` of what was reserved in the cache. -/
  | persistTokenQuotaDelta (quota : ℕ)
  /-- The half of a change that is made in the cache. -/
  | cacheDelta (delta : ℤ)
  /-- The half of a change that is made in the database. -/
  | storeDelta (delta : ℤ)
  /-- The fence is up, and the cached hash is to be dropped. -/
  | dropCache
  /-- `TryReserveTokenQuota` has returned true. -/
  | reserved (quota : ℕ)
  /-- Any other call has ended. -/
  | finished
deriving DecidableEq

/-- What follows a `GetTokenByKey`. -/
def Thread.afterGet : Option ℕ → Thread
  | none => .finished
  | some quota => .tryReserveAgain quota

/-- `tokenQuotaReserveScript` (quota_reserve.go:41-54), and what the caller does on
a miss. -/
def tokenQuotaReserveScript (quota : ℕ) (s : Token) (miss : Thread) : Token × List Thread :=
  match s.cached with
  | none => (s, [miss])
  | some cached =>
    if cached < quota then (s, [.finished])
    else ({ s with cached := some (cached - quota) }, [.persistTokenQuotaDelta quota])

/-- One step of a call (quota_reserve.go:201-238, token.go:389-410 and
487-534, token_cache.go:37-100). -/
def advance (_ : Unit) (s : Token) : Thread → Option (Token × List Thread)
  | .tryReserve quota =>
    if quota < 0 then some (s, [.finished])
    else if quota = 0 then some (s, [.reserved 0])
    else some (tokenQuotaReserveScript quota.toNat s (.readToken (some quota.toNat)))
  | .increase quota =>
    if quota < 0 then some (s, [.finished]) else some (s, [.cacheDelta quota, .storeDelta quota])
  | .decrease quota =>
    if quota < 0 then some (s, [.finished])
    else some (s, [.cacheDelta (-quota), .storeDelta (-quota)])
  | .getTokenByKey => some (s, [if s.cached.isSome then .finished else .readToken none])
  | .invalidate => some ({ s with fence := true }, [.dropCache])
  | .readToken reserving => some (s, [.cacheInitToken s.stored reserving])
  | .cacheInitToken snapshot reserving =>
    if s.fence ∨ s.cached.isSome then some (s, [.afterGet reserving])
    else some ({ s with cached := some snapshot }, [.afterGet reserving])
  | .tryReserveAgain quota => some (tokenQuotaReserveScript quota s (.reserveTokenQuotaDB quota))
  | .reserveTokenQuotaDB quota =>
    if (quota : ℤ) ≤ s.stored then
      some ({ s with stored := s.stored - quota }, [.reserved quota])
    else some (s, [.finished])
  | .persistTokenQuotaDelta quota =>
    some ({ s with stored := s.stored - quota }, [.reserved quota])
  | .cacheDelta delta => some ({ s with cached := s.cached.map (· + delta) }, [.finished])
  | .storeDelta delta => some ({ s with stored := s.stored + delta }, [.finished])
  | .dropCache => some ({ s with cached := none }, [.finished])
  | .reserved _ | .finished => none

/-- The calls of the system, before their first step. -/
def Thread.isCall : Thread → Bool
  | .tryReserve _ | .increase _ | .decrease _ | .getTokenByKey | .invalidate => true
  | _ => false

/-- The calls and halves that have ended. -/
def Thread.ended : Thread → Bool
  | .reserved _ | .finished => true
  | _ => false

/-! ## Amounts in flight -/

/-- The amounts that the threads carry: what is granted, what is reserved in the cache and not
yet stored, the increases that have not begun, and the halves of changes that are to come. -/
inductive Amount
  | granted
  | pending
  | increase
  | cacheCredit
  | cacheDebit
  | storeCredit
  | storeDebit
deriving DecidableEq

/-- The amount of a kind that a thread carries. -/
def Thread.amount : Amount → Thread → ℕ
  | .granted, .reserved quota => quota
  | .pending, .persistTokenQuotaDelta quota => quota
  | .increase, .increase quota => quota.toNat
  | .cacheCredit, .cacheDelta delta => delta.toNat
  | .cacheDebit, .cacheDelta delta => (-delta).toNat
  | .storeCredit, .storeDelta delta => delta.toNat
  | .storeDebit, .storeDelta delta => (-delta).toNat
  | _, _ => 0

/-- The threads that carry no amount. -/
def Thread.idle : Thread → Bool
  | .reserved _ | .persistTokenQuotaDelta _ | .increase _ | .cacheDelta _ | .storeDelta _ => false
  | _ => true

theorem Thread.amount_of_idle {t : Thread} (h : t.idle = true) (k : Amount) : t.amount k = 0 := by
  cases t <;> first | (cases k <;> rfl) | cases h

theorem Thread.idle_of_isCall {t : Thread} (h : t.isCall = true) :
    t.idle = true ∨ ∃ quota, t = .increase quota := by
  cases t <;> first | exact .inl rfl | exact .inr ⟨_, rfl⟩ | cases h

theorem Thread.idle_afterGet (reserving : Option ℕ) : (Thread.afterGet reserving).idle = true := by
  cases reserving <;> rfl

/-- The amounts in flight in a pool. -/
def amounts (p : Pool Token Thread) (k : Amount) : ℕ := p.total (Thread.amount k)

/-- The cached quota `cached` is the stored one, up to the halves of changes and the reservations
that are still to come on either side. -/
def Balanced (s : Token) (m : Amount → ℕ) (cached : ℤ) : Prop :=
  cached + m .cacheCredit - m .cacheDebit =
    s.stored + m .storeCredit - m .storeDebit - m .pending

/-- The condition of a step: a snapshot is published only if it is in balance, and the database
grants a reservation only while there is no cached quota and none is still to be stored. -/
def Coherent (s : Token) (m : Amount → ℕ) : Thread → Prop
  | .cacheInitToken snapshot _ => s.fence = false → s.cached = none → Balanced s m snapshot
  | .reserveTokenQuotaDB _ => s.cached = none ∧ m .pending = 0
  | _ => True

instance (s : Token) (m : Amount → ℕ) : DecidablePred (Coherent s m)
  | .cacheInitToken _ _ =>
    inferInstanceAs (Decidable (s.fence = false → s.cached = none → _ = _))
  | .reserveTokenQuotaDB _ => inferInstanceAs (Decidable (_ ∧ _))
  | .tryReserve _ | .increase _ | .decrease _ | .getTokenByKey | .invalidate | .readToken _
  | .tryReserveAgain _ | .persistTokenQuotaDelta _ | .cacheDelta _ | .storeDelta _ | .dropCache
  | .reserved _ | .finished => isTrue trivial

/-- The condition on the steps of a pool. -/
def CoherentStep (p : Pool Token Thread) (_ : Unit) (t : Thread) : Prop :=
  Coherent p.shared (amounts p) t

instance (p : Pool Token Thread) (c : Unit) : DecidablePred (CoherentStep p c) := fun t =>
  inferInstanceAs (Decidable (Coherent p.shared (amounts p) t))

/-! ## The invariant -/

/-- A token whose reservations are bounded by `bound`, the first quota and all increases. The
first two fields say that neither the database nor what will have reached the cache exceeds
the bound less what is granted. -/
structure Agrees (bound : ℤ) (s : Token) (m : Amount → ℕ) : Prop where
  stored : s.stored + m .granted + m .increase + m .storeCredit ≤ bound
  arriving : s.stored + m .granted + m .increase + m .storeCredit - m .storeDebit +
    m .cacheDebit ≤ bound
  granted : (m .granted + m .pending : ℤ) ≤ bound
  balanced : ∀ cached, s.cached = some cached → Balanced s m cached
  cached : ∀ cached, s.cached = some cached →
    cached + m .granted + m .pending + m .increase + m .cacheCredit ≤ bound

section Steps

variable {bound : ℤ} {s s' : Token} {m : Amount → ℕ} {t u : Thread} {ts : List Thread}

/-- The amounts after a step that leaves one thread. -/
theorem amounts_one (u : Thread) (m : Amount → ℕ) :
    (fun k => ([u].map (Thread.amount k)).sum + m k) = fun k => u.amount k + m k := by
  funext k
  rw [map_singleton, sum_singleton]

theorem amounts_idle (ht : t.idle = true) (m : Amount → ℕ) : (fun k => t.amount k + m k) = m := by
  funext k
  rw [Thread.amount_of_idle ht, zero_add]

section

variable (h : Agrees bound s (fun k => t.amount k + m k))

include h

/-- A step between threads that carry no amount, which at most drops the cached quota. -/
theorem Agrees.idle (ht : t.idle = true) (hu : u.idle = true) (hstored : s'.stored = s.stored)
    (hcached : s'.cached = s.cached ∨ s'.cached = none) :
    Agrees bound s' (fun k => ([u].map (Thread.amount k)).sum + m k) := by
  rw [amounts_one, amounts_idle hu]
  rw [amounts_idle ht] at h
  have hsome : ∀ cached, s'.cached = some cached → s.cached = some cached := by
    intro cached hc
    rcases hcached with heq | hnone
    · exact heq.symm.trans hc
    · exact absurd (hnone.symm.trans hc) nofun
  refine ⟨?_, ?_, h.granted, fun cached hc => ?_,
    fun cached hc => h.cached cached (hsome cached hc)⟩
  · rw [hstored]
    exact h.stored
  · rw [hstored]
    exact h.arriving
  have hb := h.balanced cached (hsome cached hc)
  unfold Balanced at hb ⊢
  rw [hstored]
  exact hb

/-- A reservation in the cache. -/
theorem Agrees.reserve {quota : ℕ} {cached : ℤ} (ht : t.idle = true) (hc : s.cached = some cached)
    (hle : (quota : ℤ) ≤ cached) : Agrees bound { s with cached := some (cached - quota) }
      (fun k => ([Thread.persistTokenQuotaDelta quota].map (Thread.amount k)).sum + m k) := by
  rw [amounts_idle ht] at h
  rw [amounts_one]
  obtain ⟨hstored, harriving, hgranted, hbalanced, hcached⟩ := h
  have hb := hbalanced cached hc
  have hbound := hcached cached hc
  unfold Balanced at hb
  constructor
  all_goals dsimp only [Balanced, Thread.amount]
  · omega
  · omega
  · omega
  · rintro _ ⟨⟩
    omega
  · rintro _ ⟨⟩
    omega

theorem tokenQuotaReserveScript_agrees {quota : ℕ} (ht : t.idle = true) (hu : u.idle = true)
    (hscript : tokenQuotaReserveScript quota s u = (s', ts)) :
    Agrees bound s' (fun k => (ts.map (Thread.amount k)).sum + m k) := by
  revert hscript
  fun_cases tokenQuotaReserveScript quota s u <;> rintro ⟨⟩
  case case1 => exact h.idle ht hu rfl (.inl rfl)
  case case2 => exact h.idle ht rfl rfl (.inl rfl)
  case case3 hc hle => exact h.reserve ht hc (not_lt.1 hle)

/-- The beginning of a change: both of its halves are to come. -/
theorem Agrees.begin {delta : ℤ} (ht : ∀ k, t.amount k = if k = .increase then delta.toNat else 0) :
    Agrees bound s
      (fun k =>
        ([Thread.cacheDelta delta, .storeDelta delta].map (Thread.amount k)).sum + m k) := by
  obtain ⟨hstored, harriving, hgranted, hbalanced, hcached⟩ := h
  simp only [ht, reduceCtorEq, if_true, if_false, zero_add] at hstored harriving hgranted
  simp only [Balanced, ht, reduceCtorEq, if_true, if_false, zero_add] at hbalanced hcached
  simp only [map_cons, map_nil, sum_cons, sum_nil]
  constructor
  all_goals dsimp only [Balanced, Thread.amount]
  · omega
  · omega
  · omega
  · intro cached hc
    have hb := hbalanced cached hc
    omega
  · intro cached hc
    have hbound := hcached cached hc
    omega

/-- A snapshot in balance is published. -/
theorem Agrees.init {snapshot : ℤ} (ht : t.idle = true) (hu : u.idle = true)
    (hb : Balanced s (fun k => t.amount k + m k) snapshot) :
    Agrees bound { s with cached := some snapshot }
      (fun k => ([u].map (Thread.amount k)).sum + m k) := by
  rw [amounts_one, amounts_idle hu]
  rw [amounts_idle ht] at h hb
  refine ⟨h.stored, h.arriving, h.granted, ?_, ?_⟩
  · rintro _ ⟨⟩
    exact hb
  rintro _ ⟨⟩
  have harriving := h.arriving
  dsimp only [Balanced] at hb harriving ⊢
  omega

end

/-- A half of a change in the cache, where there is one. -/
theorem Agrees.cacheDelta {delta : ℤ}
    (h : Agrees bound s (fun k => (Thread.cacheDelta delta).amount k + m k)) :
    Agrees bound { s with cached := s.cached.map (· + delta) }
      (fun k => ([Thread.finished].map (Thread.amount k)).sum + m k) := by
  rw [amounts_one]
  obtain ⟨hstored, harriving, hgranted, hbalanced, hcached⟩ := h
  simp only [Balanced, Thread.amount, zero_add] at hstored harriving hgranted hbalanced hcached
  constructor
  all_goals dsimp only [Balanced, Thread.amount]
  · omega
  · omega
  · omega
  · intro cached hc
    obtain ⟨old, hold, rfl⟩ := map_eq_some_iff.1 hc
    have hb := hbalanced old hold
    omega
  · intro cached hc
    obtain ⟨old, hold, rfl⟩ := map_eq_some_iff.1 hc
    have hbound := hcached old hold
    omega

/-- A half of a change in the database. -/
theorem Agrees.storeDelta {delta : ℤ}
    (h : Agrees bound s (fun k => (Thread.storeDelta delta).amount k + m k)) :
    Agrees bound { s with stored := s.stored + delta }
      (fun k => ([Thread.finished].map (Thread.amount k)).sum + m k) := by
  rw [amounts_one]
  obtain ⟨hstored, harriving, hgranted, hbalanced, hcached⟩ := h
  simp only [Balanced, Thread.amount, zero_add] at hstored harriving hgranted hbalanced hcached
  constructor
  all_goals dsimp only [Balanced, Thread.amount]
  · omega
  · omega
  · omega
  · intro cached hc
    have hb := hbalanced cached hc
    omega
  · intro cached hc
    have hbound := hcached cached hc
    omega

theorem Agrees.persist {quota : ℕ}
    (h : Agrees bound s (fun k => (Thread.persistTokenQuotaDelta quota).amount k + m k)) :
    Agrees bound { s with stored := s.stored - quota }
      (fun k => ([Thread.reserved quota].map (Thread.amount k)).sum + m k) := by
  rw [amounts_one]
  obtain ⟨hstored, harriving, hgranted, hbalanced, hcached⟩ := h
  simp only [Balanced, Thread.amount, zero_add] at hstored harriving hgranted hbalanced hcached
  constructor
  all_goals dsimp only [Balanced, Thread.amount]
  · omega
  · omega
  · omega
  · intro cached hc
    have hb := hbalanced cached hc
    omega
  · intro cached hc
    have hbound := hcached cached hc
    omega

section

variable (h : Agrees bound s (fun k => t.amount k + m k))

include h

/-- The database grants a reservation of a token that is not cached. -/
theorem Agrees.reserveDB {quota : ℕ}
    (ht : t.idle = true) (hc : s.cached = none) (hpending : m .pending = 0)
    (hle : (quota : ℤ) ≤ s.stored) : Agrees bound { s with stored := s.stored - quota }
      (fun k => ([Thread.reserved quota].map (Thread.amount k)).sum + m k) := by
  rw [amounts_one]
  obtain ⟨hstored, harriving, hgranted, -, -⟩ := h
  simp only [Thread.amount_of_idle ht, zero_add] at hstored harriving hgranted
  constructor
  all_goals dsimp only [Balanced, Thread.amount]
  · omega
  · omega
  · omega
  · intro cached hcached
    exact absurd (hc.symm.trans hcached) nofun
  · intro cached hcached
    exact absurd (hc.symm.trans hcached) nofun

/-- **One step.** A call keeps the token in agreement, its own amounts included. -/
theorem advance_agrees
    (hok : Coherent s (fun k => t.amount k + m k) t) (hadvance : advance () s t = some (s', ts)) :
    Agrees bound s' (fun k => (ts.map (Thread.amount k)).sum + m k) := by
  revert hadvance
  fun_cases advance () s t
  case case3 | case13 =>
    exact fun hadvance => tokenQuotaReserveScript_agrees h rfl rfl (some.inj hadvance)
  all_goals rintro ⟨⟩
  case case1 | case6 | case9 | case10 | case15 => exact h.idle rfl rfl rfl (.inl rfl)
  case case2 =>
    have hzero : ∀ k, (Thread.reserved 0).amount k = Thread.finished.amount k :=
      fun k => by cases k <;> rfl
    have hfinished := h.idle (u := .finished) rfl rfl rfl (.inl rfl)
    simpa only [map_cons, map_nil, hzero] using hfinished
  case case4 quota hneg =>
    have hzero : ∀ k, (Thread.increase quota).amount k = Thread.finished.amount k := by
      intro k
      cases k <;> simp [Thread.amount]
      omega
    simp only [hzero] at h
    exact h.idle rfl rfl rfl (.inl rfl)
  case case5 => exact h.begin fun k => by cases k <;> rfl
  case case7 hpos =>
    refine h.begin fun k => ?_
    rw [Thread.amount_of_idle rfl]
    split <;> omega
  case case8 =>
    refine h.idle rfl ?_ rfl (.inl rfl)
    split <;> rfl
  case case11 reserving _ => exact h.idle rfl (Thread.idle_afterGet reserving) rfl (.inl rfl)
  case case12 reserving hcold =>
    simp only [not_or, Bool.not_eq_true, isSome_eq_false_iff, isNone_iff_eq_none]
      at hcold
    exact h.init rfl (Thread.idle_afterGet reserving) (hok hcold.1 hcold.2)
  case case14 hle =>
    obtain ⟨hc, hpending⟩ := hok
    exact h.reserveDB rfl hc (by simpa [Thread.amount] using hpending) hle
  case case16 => exact h.persist
  case case17 => exact h.cacheDelta
  case case18 => exact h.storeDelta
  case case19 => exact h.idle rfl rfl rfl (.inr rfl)

end

end Steps

/-! ## Runs -/

/-- The calls `calls` on a token that holds `quota`. -/
def start (quota : ℤ) (cached : Option ℤ) (fence : Bool) (calls : List Thread) :
    Pool Token Thread := ⟨⟨quota, cached, fence⟩, calls⟩

theorem amounts_start {quota : ℤ} {cached : Option ℤ} {fence : Bool} {calls : List Thread}
    (hcalls : ∀ t ∈ calls, t.isCall = true) {k : Amount} (hk : k ≠ .increase) :
    amounts (start quota cached fence calls) k = 0 := by
  refine Pool.total_eq_zero fun t ht => ?_
  rcases Thread.idle_of_isCall (hcalls t ht) with hidle | ⟨q, rfl⟩
  · exact Thread.amount_of_idle hidle k
  · cases k <;> first | rfl | exact absurd rfl hk

theorem start_agrees {quota : ℤ} {cached : Option ℤ} (fence : Bool) {calls : List Thread}
    (hquota : 0 ≤ quota) (hcached : cached = none ∨ cached = some quota)
    (hcalls : ∀ t ∈ calls, t.isCall = true) :
    Agrees (quota + (calls.map (Thread.amount .increase)).sum)
      (start quota cached fence calls).shared (amounts (start quota cached fence calls)) := by
  have hzero := fun k hk => @amounts_start quota cached fence calls hcalls k hk
  have hincrease : amounts (start quota cached fence calls) .increase =
      (calls.map (Thread.amount .increase)).sum := rfl
  have hstored : (start quota cached fence calls).shared.stored = quota := rfl
  have hc : ∀ c, (start quota cached fence calls).shared.cached = some c → c = quota := by
    intro c hc
    rcases hcached with rfl | rfl
    · cases hc
    · exact (some.inj hc).symm
  constructor
  · simp [hzero, hincrease, hstored]
  · simp [hzero, hincrease, hstored]
  · simp only [hzero, ne_eq, reduceCtorEq, not_false_eq_true]
    omega
  · intro c hcc
    rw [hc c hcc]
    simp [Balanced, hzero, hstored]
  · intro c hcc
    rw [hc c hcc]
    simp [hzero, hincrease]

theorem exec_agrees {bound : ℤ} {p q : Pool Token Thread} (hp : Agrees bound p.shared (amounts p))
    (hrun : Exec (Pool.step advance) (Pool.Meets CoherentStep) p q) :
    Agrees bound q.shared (amounts q) := by
  refine Exec.invariant (I := fun p => Agrees bound p.shared (amounts p))
    (fun p a q hp hok hstep => ?_) hp hrun
  obtain ⟨t, ts, others, ht, hadvance, hperm, hperm'⟩ := Pool.step_cases hstep
  have hbefore : amounts p = fun k => t.amount k + (others.map (Thread.amount k)).sum :=
    funext fun _ => Pool.total_cons hperm
  have hafter : amounts q =
      fun k => (ts.map (Thread.amount k)).sum + (others.map (Thread.amount k)).sum :=
    funext fun _ => Pool.total_append hperm'
  have hcoherent := hok t ht
  unfold CoherentStep at hcoherent
  rw [hbefore] at hp hcoherent
  rw [hafter]
  exact advance_agrees hp hcoherent hadvance

/-- **Reservations from a token.** Any calls run on a token that holds a quota, in any order. As
long as no step breaks the coherence of the cache, what is granted does not exceed the quota
and the increases, and when every call has ended the cache agrees with the database. -/
theorem token_reserved_le {quota : ℤ} (hquota : 0 ≤ quota) {cached : Option ℤ}
    (hcached : cached = none ∨ cached = some quota) {fence : Bool} {calls : List Thread}
    (hcalls : ∀ t ∈ calls, t.isCall = true) {p : Pool Token Thread}
    (hrun : Exec (Pool.step advance) (Pool.Meets CoherentStep) (start quota cached fence calls) p) :
    p.total (Thread.amount .granted) ≤ quota + (calls.map (Thread.amount .increase)).sum ∧
      ((∀ t ∈ p.threads, t.ended = true) →
        ∀ c, p.shared.cached = some c → c = p.shared.stored) := by
  have hagrees := exec_agrees (start_agrees fence hquota hcached hcalls) hrun
  constructor
  · have hgranted := hagrees.granted
    unfold amounts at hgranted
    omega
  · intro hended c hc
    have hzero : ∀ k, k ≠ .granted → amounts p k = 0 := by
      intro k hk
      refine Pool.total_eq_zero fun t ht => ?_
      have hend := hended t ht
      cases t <;> first | (cases k <;> first | rfl | exact absurd rfl hk) | cases hend
    have hb := hagrees.balanced c hc
    simpa [Balanced, hzero] using hb

/-- A cold token of 100 units. Both halves of an increase by 50 come before the snapshot is read,
and a reservation of 120 units is then granted by the cache. -/
theorem token_reserved_after_increase :
    ∃ p, Exec (Pool.step advance) (Pool.Meets CoherentStep)
        (start 100 none false [.increase 50, .tryReserve 120, .tryReserve 40]) p ∧
      (∀ t ∈ p.threads, t.ended = true) ∧ p.total (Thread.amount .granted) = 120 ∧
      (p.total (Thread.amount .granted) ≤ (100 : ℤ) +
          ([.increase 50, .tryReserve 120, .tryReserve 40].map (Thread.amount .increase)).sum ∧
        ((∀ t ∈ p.threads, t.ended = true) →
          ∀ c, p.shared.cached = some c → c = p.shared.stored)) := by
  exact Exec.exists_and_and_of_actions [(0, ()), (0, ()), (1, ()), (2, ()), (2, ()), (2, ()),
    (2, ()), (2, ()), (3, ())] (by decide +kernel) fun _ hrun _ _ => token_reserved_le
    (by decide) (.inl rfl) (by decide) hrun

/-- A cold token of 100 units. The database has the increase by 50 when the row is read, and the
cache gets it once more after the snapshot is published: 200 units are granted. -/
theorem token_increased_twice :
    ∃ p, Exec (Pool.step advance) (fun _ _ => True)
        (start 100 none false [.increase 50, .getTokenByKey, .tryReserve 200]) p ∧
      (∀ t ∈ p.threads, t.ended = true) ∧ p.total (Thread.amount .granted) = 200 ∧
      p.shared = ⟨-50, some 0, false⟩ := by
  exact Exec.exists_of_actions [(0, ()), (1, ()), (2, ()), (2, ()), (2, ()), (0, ()), (3, ()),
    (3, ())] (by decide +kernel)

end TokenCache

end OmniRouters.Quota
