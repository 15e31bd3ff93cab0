import OmniRouters.Lib.Mutex
import OmniRouters.Lib.Threads
import OmniRouters.Payment.TopUp

/-!
# The purchase limit of a plan

A subscription is created by `CompleteSubscriptionOrder`, `AdminBindSubscription` and
`PurchaseSubscriptionWithBalance` (model/subscription.go:593-942). Each of them locks the
row of the user, counts the subscriptions of the plan, and inserts one if the limit allows it. This
is a model of any number of such calls for one user and one plan, statement by statement. What a
transaction writes is seen by others when it commits, and any statement or commit may fail.

A plain read sees what is committed, or, under repeatable read (the default of MySQL), what was
committed at the first plain read of its transaction. `PurchaseSubscriptionWithBalance` reads the
plan before it locks the user. When the plan is not cached, its count is as old as that read.

* `Sound.step`: one statement keeps the locks, the limit and the books.
* `purchase_limit_kept`: with counts that are not outdated, the limit is kept, an order gives at
  most one subscription and one ledger row, and each balance purchase is paid.
* `purchase_limit_exceeded`: two purchases whose counts are outdated.
-/

namespace OmniRouters.Subscription.Purchase

open Billing Lib Payment List

/-! ## Orders -/

/-- What the calls read and write of a row of `subscription_orders`. -/
structure SubscriptionOrder where
  tradeNo : String
  userId : ℕ
  money : ℚ
  paymentMethod : String
  paymentProvider : Option Provider
  status : OrderStatus
  completeTime : ℤ
  providerPayload : String
deriving DecidableEq

/-- `EffectivePaymentProvider` (lines 339-347). -/
def SubscriptionOrder.effectivePaymentProvider (order : SubscriptionOrder) : Provider :=
  order.paymentProvider.getD (paymentProviderFromMethod order.paymentMethod)

/-- `upsertSubscriptionTopUpTx` (lines 747-787): the ledger rows afterwards, if the row of the
order does not contradict it. -/
def upsertSubscriptionTopUpTx (now : ℤ) (topUps : List TopUp) (order : SubscriptionOrder) :
    Option (List TopUp) :=
  match topUps.find? (·.tradeNo = order.tradeNo) with
  | none => some ({
      tradeNo := order.tradeNo
      userId := order.userId
      organizationId := 0
      amount := 0
      money := order.money
      paymentMethod := order.paymentMethod
      paymentProvider := some order.effectivePaymentProvider
      completeTime := now
      status := .success } :: topUps)
  | some topUp =>
    if topUp.paymentMethod ≠ "" ∧ topUp.paymentMethod ≠ order.paymentMethod then none
    else
      let topUp := { topUp with money := order.money, paymentMethod := order.paymentMethod }
      if topUp.paymentProvider ≠ none ∧
          topUp.effectivePaymentProvider ≠ order.effectivePaymentProvider then none
      else some (replace TopUp.tradeNo { topUp with
        paymentProvider := topUp.paymentProvider.or (some order.effectivePaymentProvider)
        completeTime := now
        status := .success } topUps)

/-! ## The calls -/

/-- What the calls read of the plan. -/
structure Plan where
  maxPurchasePerUser : ℤ
  enabled : Bool
  priceAmount : ℚ
  allowBalancePay : Option Bool

/-- The user, the plan, `common.QuotaPerUnit`, and the database. -/
structure Config where
  userId : ℕ
  plan : Plan
  quotaPerUnit : ℚ
  isolation : Isolation

/-- `calcSubscriptionBalanceQuota` (lines 841-852). -/
def Config.balanceQuota (cfg : Config) : Option ℤ :=
  if cfg.plan.priceAmount ≤ 0 then some 0
  else if cfg.quotaPerUnit ≤ 0 then none
  else walletQuotaFromDecimalStrict ⌈cfg.plan.priceAmount * cfg.quotaPerUnit⌉

/-- Who has created a subscription of the plan. -/
inductive Source
  | order (tradeNo : String)
  | admin
  | balance
deriving DecidableEq

/-- The arguments of `CompleteSubscriptionOrder`. An empty provider skips the check. -/
structure Completion where
  tradeNo : String
  providerPayload : String
  expectedPaymentProvider : Option Provider
  actualPaymentMethod : String
deriving DecidableEq

/-- What a transaction creates its subscription for. -/
inductive Purpose
  | order (call : Completion) (order : SubscriptionOrder)
  | admin
  | balance (requiredQuota : ℤ)
deriving DecidableEq

/-- A call, by its next statement. `view` is the count that the snapshot of its transaction has,
if it has one. -/
inductive Thread
  /-- `CompleteSubscriptionOrder`: lock the order. -/
  | complete (call : Completion)
  /-- `CompleteSubscriptionOrder`: read the plan, outside of the transaction. -/
  | completePlan (call : Completion) (order : SubscriptionOrder)
  /-- `AdminBindSubscription`: read the plan, before the transaction. -/
  | bind
  /-- `PurchaseSubscriptionWithBalance`: read the plan, in the transaction. -/
  | purchase
  /-- Lock the user. -/
  | lockUser (purpose : Purpose) (view : Option ℕ)
  /-- Count the subscriptions (lines 603-613). -/
  | count (purpose : Purpose) (view : Option ℕ)
  /-- Write the subscription and the rest, and commit. -/
  | commit (purpose : Purpose)
  /-- Another change of the wallet. -/
  | wallet (delta : ℤ)
  /-- A new pending order. -/
  | place (order : SubscriptionOrder)
deriving DecidableEq

/-- The committed rows of the user and the plan, the locks, and what other changes of the wallet
have added. -/
structure Shared where
  quota : ℤ
  subscriptions : List Source
  orders : List SubscriptionOrder
  topUps : List TopUp
  userLocked : Bool
  orderLocks : List String
  otherChanges : ℤ
deriving DecidableEq

/-- What is left open about a statement: whether it succeeds, whether the plan is cached, the time,
and the generated trade number. -/
structure Choice where
  ok : Bool
  cached : Bool
  now : ℤ
  tradeNo : String

def Shared.order? (s : Shared) (tradeNo : String) : Option SubscriptionOrder :=
  s.orders.find? (·.tradeNo = tradeNo)

/-- The end of a transaction that has locked the user. -/
def Shared.release (s : Shared) (purpose : Purpose) : Shared :=
  match purpose with
  | .order call _ => { s with
      userLocked := false, orderLocks := s.orderLocks.filter (· ≠ call.tradeNo) }
  | _ => { s with userLocked := false }

/-- The end of a transaction that has not locked the user. -/
def Shared.releaseOrder (s : Shared) (purpose : Purpose) : Shared :=
  match purpose with
  | .order call _ => { s with orderLocks := s.orderLocks.filter (· ≠ call.tradeNo) }
  | _ => s

/-- The order after its completion (lines 716-723). -/
def completed (now : ℤ) (call : Completion) (order : SubscriptionOrder) : SubscriptionOrder :=
  { order with
    status := .success
    completeTime := now
    providerPayload :=
      if call.providerPayload ≠ "" then call.providerPayload else order.providerPayload
    paymentMethod :=
      if call.actualPaymentMethod ≠ "" then call.actualPaymentMethod else order.paymentMethod }

/-- What a transaction writes, if nothing refuses it. -/
def Shared.write (s : Shared) (cfg : Config) (c : Choice) : Purpose → Option Shared
  | .order call order =>
    (upsertSubscriptionTopUpTx c.now s.topUps order).map fun topUps => { s with
      subscriptions := .order call.tradeNo :: s.subscriptions
      topUps := topUps
      orders := replace SubscriptionOrder.tradeNo (completed c.now call order) s.orders }
  | .admin => some { s with subscriptions := .admin :: s.subscriptions }
  | .balance requiredQuota =>
    -- the unique index of the trade numbers
    if (s.order? c.tradeNo).isSome then none
    else some { s with
      quota := s.quota - requiredQuota
      subscriptions := .balance :: s.subscriptions
      orders := {
        tradeNo := c.tradeNo
        userId := cfg.userId
        money := cfg.plan.priceAmount
        paymentMethod := "balance"
        paymentProvider := some .balance
        status := .success
        completeTime := c.now
        providerPayload := "charged_quota=" ++ toString requiredQuota } :: s.orders }

/-- One statement. A statement that waits for a lock is blocked. -/
def advance (cfg : Config) (c : Choice) (s : Shared) : Thread → Option (Shared × List Thread)
  | .complete call =>
    if c.ok = false ∨ call.tradeNo = "" then some (s, [])
    else if call.tradeNo ∈ s.orderLocks then none
    else match s.order? call.tradeNo with
      | none => some (s, [])
      | some order =>
        if ∃ provider ∈ call.expectedPaymentProvider,
            order.effectivePaymentProvider ≠ provider then some (s, [])
        else if order.status ≠ .pending then some (s, [])
        else some ({ s with orderLocks := call.tradeNo :: s.orderLocks },
          [.completePlan call order])
  | .completePlan call order =>
    if c.ok = false then some (s.releaseOrder (.order call order), [])
    else some (s, [.lockUser (.order call order) none])
  | .bind => if c.ok = false then some (s, []) else some (s, [.lockUser .admin none])
  | .purchase =>
    if c.ok = false ∨ cfg.plan.enabled = false ∨ cfg.plan.priceAmount < 0 ∨
        cfg.plan.allowBalancePay = some false then some (s, [])
    else match cfg.balanceQuota with
      | none => some (s, [])
      | some requiredQuota =>
        let view := if c.cached ∨ cfg.isolation = .readCommitted then none
          else some s.subscriptions.length
        some (s, [.lockUser (.balance requiredQuota) view])
  | .lockUser purpose view =>
    if c.ok = false then some (s.releaseOrder purpose, [])
    else if s.userLocked then none
    else match purpose with
      | .balance requiredQuota =>
        if 0 < requiredQuota ∧ s.quota < requiredQuota then some (s, [])
        else some ({ s with userLocked := true }, [.count purpose view])
      | _ => some ({ s with userLocked := true }, [.count purpose view])
  | .count purpose view =>
    let count := view.getD s.subscriptions.length
    if c.ok = false ∨ 0 < cfg.plan.maxPurchasePerUser ∧ cfg.plan.maxPurchasePerUser ≤ count then
      some (s.release purpose, [])
    else some (s, [.commit purpose])
  | .commit purpose =>
    if c.ok = false then some (s.release purpose, [])
    else match s.write cfg c purpose with
      | none => some (s.release purpose, [])
      | some s' => some (s'.release purpose, [])
  | .wallet delta =>
    if s.userLocked then none
    else some ({ s with quota := s.quota + delta, otherChanges := s.otherChanges + delta }, [])
  | .place order =>
    if (s.order? order.tradeNo).isSome ∨ order.status ≠ .pending then some (s, [])
    else some ({ s with orders := order :: s.orders }, [])

/-- A count is not older than the last commit: the snapshot of the transaction, if it has one, has
the subscriptions that are committed. -/
def CountCurrent (p : Pool Shared Thread) (_ : Choice) : Thread → Prop
  | .count _ (some view) => view = p.shared.subscriptions.length
  | _ => True

instance (p : Pool Shared Thread) (c : Choice) : (t : Thread) → Decidable (CountCurrent p c t)
  | .count _ (some _) => inferInstanceAs (Decidable (_ = _))
  | .count _ none => isTrue trivial
  | .complete _ => isTrue trivial
  | .completePlan .. => isTrue trivial
  | .bind => isTrue trivial
  | .purchase => isTrue trivial
  | .lockUser .. => isTrue trivial
  | .commit _ => isTrue trivial
  | .wallet _ => isTrue trivial
  | .place _ => isTrue trivial

/-! ## Locks -/

/-- Whether a call holds the lock of the user. -/
def Thread.userHeld : Thread → ℕ
  | .count .. | .commit _ => 1
  | _ => 0

/-- The trade number of the order that a purpose is about. -/
def Purpose.tradeNo? : Purpose → Option String
  | .order call _ => some call.tradeNo
  | _ => none

/-- The purpose of a transaction. -/
def Thread.purpose? : Thread → Option Purpose
  | .completePlan call order => some (.order call order)
  | .lockUser purpose _ | .count purpose _ | .commit purpose => some purpose
  | _ => none

/-- The order that a call has locked. -/
def Thread.tradeNo? (t : Thread) : Option String := t.purpose?.bind Purpose.tradeNo?

/-! ## Invariant -/

/-- What a call knows about the committed rows. -/
structure Thread.Knows (cfg : Config) (s : Shared) (t : Thread) : Prop where
  order : ∀ purpose ∈ t.purpose?, ∀ call order, purpose = .order call order →
    s.order? call.tradeNo = some order ∧ order.status = .pending
  price : ∀ purpose ∈ t.purpose?, ∀ requiredQuota, purpose = .balance requiredQuota →
    cfg.balanceQuota = some requiredQuota
  room : ∀ purpose, t = .commit purpose → 0 < cfg.plan.maxPurchasePerUser →
    s.subscriptions.length < cfg.plan.maxPurchasePerUser

structure Locked (s : Shared) (threads : List Thread) : Prop where
  user : Mutex Thread.userHeld s.userLocked threads
  order : Locks Thread.tradeNo? s.orderLocks threads

/-- The committed rows. -/
structure Kept (cfg : Config) (opening : ℤ) (s : Shared) : Prop where
  limit : 0 < cfg.plan.maxPurchasePerUser →
    s.subscriptions.length ≤ cfg.plan.maxPurchasePerUser
  once : ∀ n, s.subscriptions.count (.order n) ≤ 1
  spent : ∀ n, .order n ∈ s.subscriptions →
    ∃ order, s.order? n = some order ∧ order.status = .success
  ledger : (s.topUps.map TopUp.tradeNo).Nodup
  paid : s.quota + s.subscriptions.count .balance * cfg.balanceQuota.getD 0 =
    opening + s.otherChanges

/-- The invariant. -/
structure Sound (cfg : Config) (opening : ℤ) (s : Shared) (threads : List Thread) : Prop where
  locked : Locked s threads
  kept : Kept cfg opening s
  knows : ∀ t ∈ threads, t.Knows cfg s

section Locks

variable {s s' : Shared} {t : Thread} {ts others : List Thread}

theorem Locked.perm {l l' : List Thread} (hperm : l.Perm l') (h : Locked s l) : Locked s l' :=
  ⟨h.user.perm hperm, h.order.perm hperm⟩

theorem userHeld_of_none (h : t.purpose? = none) : t.userHeld = 0 := by
  cases t with
  | count | commit => cases h
  | _ => rfl

theorem tradeNo?_of_purpose {purpose : Purpose} (h : t.purpose? = some purpose) :
    t.tradeNo? = purpose.tradeNo? := by
  rw [Thread.tradeNo?, h]
  rfl

section

variable (h : Locked s (t :: others))

include h

variable {purpose : Purpose}

section

variable (hpurpose : t.purpose? = some purpose)

include hpurpose

/-- The end of a transaction gives its order back. -/
theorem Locked.releaseOrder_order :
    Locks Thread.tradeNo? (s.releaseOrder purpose).orderLocks ([] ++ others) := by
  have hholds := tradeNo?_of_purpose hpurpose
  cases purpose with
  | order call order => exact h.order.release hholds
  | admin | balance => exact h.order.stop hholds

/-- A transaction that has not locked the user ends. -/
theorem Locked.releaseOrder
    (huser : t.userHeld = 0) : Locked (s.releaseOrder purpose) ([] ++ others) := by
  have hlocked : (s.releaseOrder purpose).userLocked = s.userLocked := by
    cases purpose <;> rfl
  refine ⟨h.user.exchange ?_, h.releaseOrder_order hpurpose⟩
  rw [hlocked, huser]
  rfl

/-- A transaction that has locked the user ends, with any other rows. -/
theorem Locked.release
    (huser : t.userHeld = 1) (hlocks : s'.orderLocks = s.orderLocks) :
    Locked (s'.release purpose) ([] ++ others) := by
  have hfree : (s'.release purpose).userLocked = false := by
    cases purpose <;> rfl
  have horders : (s'.release purpose).orderLocks = (s.releaseOrder purpose).orderLocks := by
    cases purpose <;> simp [Shared.release, Shared.releaseOrder, hlocks]
  refine ⟨h.user.exchange ?_, ?_⟩
  · rw [hfree, huser, (h.user.alone huser).1]
    rfl
  · rw [horders]
    exact h.releaseOrder_order hpurpose

end

end

end Locks

/-! ## What a transaction writes -/

section Writes

variable {cfg : Config} {c : Choice} {opening : ℤ} {s s' : Shared} {t u : Thread}
  {purpose : Purpose}

/-- The source of the subscription of a transaction. -/
def Purpose.source : Purpose → Source
  | .order call _ => .order call.tradeNo
  | .admin => .admin
  | .balance _ => .balance

theorem write_subscriptions (h : s.write cfg c purpose = some s') :
    s'.subscriptions = purpose.source :: s.subscriptions ∧ s'.orderLocks = s.orderLocks := by
  cases purpose with
  | order call order =>
    obtain ⟨topUps, -, rfl⟩ := Option.map_eq_some_iff.1 h
    exact ⟨rfl, rfl⟩
  | admin =>
    cases h
    exact ⟨rfl, rfl⟩
  | balance requiredQuota =>
    dsimp only [Shared.write] at h
    split at h
    · cases h
    · cases h
      exact ⟨rfl, rfl⟩

/-- A transaction leaves every order except its own. -/
theorem write_order? (h : s.write cfg c purpose = some s') {n : String} {row : SubscriptionOrder}
    (hrow : s.order? n = some row)
    (hother : ∀ call order, purpose = .order call order →
      s.order? call.tradeNo = some order ∧ call.tradeNo ≠ n) : s'.order? n = some row := by
  cases purpose with
  | order call order =>
    obtain ⟨topUps, -, rfl⟩ := Option.map_eq_some_iff.1 h
    obtain ⟨horder, hne⟩ := hother call order rfl
    have hkey : order.tradeNo = call.tradeNo := key_of_find? horder
    have hfind := find?_replace SubscriptionOrder.tradeNo (completed c.now call order) s.orders n
    refine hfind.trans ?_
    rw [if_neg (by simpa [completed, hkey] using hne)]
    exact hrow
  | admin =>
    cases h
    exact hrow
  | balance requiredQuota =>
    dsimp only [Shared.write] at h
    split at h
    · cases h
    rename_i hfree
    cases h
    have hne : c.tradeNo ≠ n := by
      rintro rfl
      rw [hrow] at hfree
      exact hfree rfl
    rw [Shared.order?, find?_cons_of_neg (by simpa using hne)]
    exact hrow

/-- The ledger has one row for a trade number. -/
theorem upsert_nodup {now : ℤ} {topUps topUps' : List TopUp} {order : SubscriptionOrder}
    (h : upsertSubscriptionTopUpTx now topUps order = some topUps')
    (hnodup : (topUps.map TopUp.tradeNo).Nodup) : (topUps'.map TopUp.tradeNo).Nodup := by
  revert h
  fun_cases upsertSubscriptionTopUpTx now topUps order <;> rintro ⟨⟩
  case case1 hnone =>
    rw [map_cons, nodup_cons]
    refine ⟨fun hmem => ?_, hnodup⟩
    obtain ⟨row, hrow, hkey⟩ := mem_map.1 hmem
    exact absurd hkey (by simpa using find?_eq_none.1 hnone row hrow)
  case case4 =>
    rw [map_key_replace]
    exact hnodup

/-- A commit keeps the books if there is room for its subscription. -/
theorem Kept.write (h : Kept cfg opening s) (hknows : (Thread.commit purpose).Knows cfg s)
    (hwrite : s.write cfg c purpose = some s') : Kept cfg opening s' := by
  have hsubs := (write_subscriptions hwrite).1
  have hlimit : 0 < cfg.plan.maxPurchasePerUser →
      s'.subscriptions.length ≤ cfg.plan.maxPurchasePerUser := by
    intro hpos
    have hroom := hknows.room purpose rfl hpos
    rw [hsubs, length_cons]
    push_cast
    omega
  cases purpose with
  | order call order =>
    obtain ⟨horder, hpending⟩ := hknows.order _ rfl call order rfl
    have hkey : order.tradeNo = call.tradeNo := key_of_find? horder
    obtain ⟨topUps, htopUps, rfl⟩ := Option.map_eq_some_iff.1 hwrite
    -- a pending order has no subscription
    have hfresh : .order call.tradeNo ∉ s.subscriptions := by
      intro hmem
      obtain ⟨row, hrow, hstatus⟩ := h.spent call.tradeNo hmem
      rw [horder] at hrow
      cases hrow
      rw [hpending] at hstatus
      cases hstatus
    have hfind (n : String) :=
      find?_replace SubscriptionOrder.tradeNo (completed c.now call order) s.orders n
    refine ⟨hlimit, fun n => ?_, fun n hn => ?_, upsert_nodup htopUps h.ledger, ?_⟩
    · by_cases hn : call.tradeNo = n
      · subst hn
        rw [count_cons_self, count_eq_zero.2 hfresh]
      · rw [count_cons_of_ne (by simpa using hn)]
        exact h.once n
    · by_cases hne : call.tradeNo = n
      · subst hne
        refine ⟨completed c.now call order, (hfind _).trans ?_, rfl⟩
        rw [if_pos (by simpa [completed] using hkey)]
        unfold Shared.order? at horder
        rw [horder]
        rfl
      · have hmem : .order n ∈ s.subscriptions := by
          rcases mem_cons.1 hn with heq | hmem
          · cases heq
            exact absurd rfl hne
          · exact hmem
        obtain ⟨row, hrow, hstatus⟩ := h.spent n hmem
        exact ⟨row, write_order? hwrite hrow fun _ _ heq => by
          cases heq
          exact ⟨horder, hne⟩, hstatus⟩
    · exact h.paid
  | admin =>
    cases hwrite
    refine ⟨hlimit, fun n => ?_, fun n hn => ?_, h.ledger, ?_⟩
    · exact h.once n
    · exact h.spent n (mem_of_ne_of_mem (by simp) hn)
    · exact h.paid
  | balance requiredQuota =>
    have hprice := hknows.price _ rfl requiredQuota rfl
    have horders {n : String} {row : SubscriptionOrder} (hrow : s.order? n = some row) :
        s'.order? n = some row := write_order? hwrite hrow fun _ _ heq => by cases heq
    dsimp only [Shared.write] at hwrite
    split at hwrite
    · cases hwrite
    cases hwrite
    refine ⟨hlimit, fun n => ?_, fun n hn => ?_, h.ledger, ?_⟩
    · exact h.once n
    · obtain ⟨row, hrow, hstatus⟩ := h.spent n (mem_of_ne_of_mem (by simp) hn)
      exact ⟨row, horders hrow, hstatus⟩
    have hpaid := h.paid
    rw [hprice, Option.getD_some] at hpaid ⊢
    rw [count_cons_self]
    push_cast
    linarith

end Writes

/-! ## One statement -/

section Step

variable {cfg : Config} {c : Choice} {opening : ℤ} {s s' : Shared} {t u : Thread}
  {ts others : List Thread} {purpose : Purpose}

/-- Only the locks differ. -/
def SameRows (s s' : Shared) : Prop :=
  ∃ userLocked orderLocks, s' = { s with userLocked := userLocked, orderLocks := orderLocks }

theorem SameRows.refl (s : Shared) : SameRows s s := ⟨s.userLocked, s.orderLocks, rfl⟩

theorem sameRows_releaseOrder (s : Shared) (purpose : Purpose) :
    SameRows s (s.releaseOrder purpose) := by
  cases purpose with
  | order call order => exact ⟨s.userLocked, _, rfl⟩
  | admin | balance => exact SameRows.refl s

theorem sameRows_release (s : Shared) (purpose : Purpose) : SameRows s (s.release purpose) := by
  cases purpose with
  | order call order => exact ⟨false, _, rfl⟩
  | admin | balance => exact ⟨false, s.orderLocks, rfl⟩

theorem Thread.Knows.sameRows (h : u.Knows cfg s) (hrows : SameRows s s') : u.Knows cfg s' := by
  obtain ⟨userLocked, orderLocks, rfl⟩ := hrows
  exact { h with }

theorem Kept.sameRows (h : Kept cfg opening s) (hrows : SameRows s s') : Kept cfg opening s' := by
  obtain ⟨userLocked, orderLocks, rfl⟩ := hrows
  exact { h with }

/-- A call that is in no transaction knows nothing. -/
theorem Thread.knows_of_none (h : u.purpose? = none) : u.Knows cfg s := by
  refine ⟨fun purpose hp => ?_, fun purpose hp => ?_, fun purpose hp => ?_⟩
  · rw [h] at hp
    cases hp
  · rw [h] at hp
    cases hp
  · rw [hp] at h
    cases h

/-- A call that goes on in its transaction knows what it knew. -/
theorem Thread.Knows.next (h : t.Knows cfg s) (hpurpose : u.purpose? = t.purpose?)
    (hroom : ∀ purpose, u = .commit purpose → 0 < cfg.plan.maxPurchasePerUser →
      s.subscriptions.length < cfg.plan.maxPurchasePerUser) : u.Knows cfg s :=
  ⟨hpurpose ▸ h.order, hpurpose ▸ h.price, hroom⟩

section

variable (h : Sound cfg opening s (t :: others))

include h

/-- A statement that writes nothing. -/
theorem Sound.replace (hrows : SameRows s s') (hlocked : Locked s' (ts ++ others))
    (hts : ∀ u ∈ ts, u.Knows cfg s) : Sound cfg opening s' (ts ++ others) := by
  refine ⟨hlocked, h.kept.sameRows hrows, fun u hu => ?_⟩
  rcases mem_append.1 hu with hu | hu
  · exact (hts u hu).sameRows hrows
  · exact (h.knows u (mem_cons_of_mem t hu)).sameRows hrows

/-- A call that holds nothing ends. -/
theorem Sound.stop (ht : t.purpose? = none) : Sound cfg opening s ([] ++ others) := by
  refine h.replace (SameRows.refl s)
    ⟨h.locked.user.exchange ?_, h.locked.order.stop ?_⟩ (forall_mem_nil _)
  · rw [userHeld_of_none ht]
    rfl
  · rw [Thread.tradeNo?, ht]
    rfl

/-- A call goes on with the locks that it has. -/
theorem Sound.next (huser : u.userHeld = t.userHeld) (horder : u.tradeNo? = t.tradeNo?)
    (hu : u.Knows cfg s) : Sound cfg opening s ([u] ++ others) := by
  refine h.replace (SameRows.refl s) ⟨h.locked.user.exchange ?_, h.locked.order.keep horder⟩
    fun v hv => ?_
  · rw [map_singleton, sum_singleton, huser]
  · rw [mem_singleton.1 hv]
    exact hu

/-- A transaction rolls back before it has locked the user. -/
theorem Sound.releaseOrder (hpurpose : t.purpose? = some purpose) (huser : t.userHeld = 0) :
    Sound cfg opening (s.releaseOrder purpose) ([] ++ others) :=
  h.replace (sameRows_releaseOrder s purpose) (h.locked.releaseOrder hpurpose huser)
    (forall_mem_nil _)

/-- A transaction rolls back after it has locked the user. -/
theorem Sound.release (hpurpose : t.purpose? = some purpose) (huser : t.userHeld = 1) :
    Sound cfg opening (s.release purpose) ([] ++ others) :=
  h.replace (sameRows_release s purpose) (h.locked.release hpurpose huser rfl)
    (forall_mem_nil _)

end

theorem Sound.commit (h : Sound cfg opening s (.commit purpose :: others))
    (hwrite : s.write cfg c purpose = some s') :
    Sound cfg opening (s'.release purpose) ([] ++ others) := by
  have hrows := sameRows_release s' purpose
  have hself := h.knows _ mem_cons_self
  refine ⟨h.locked.release rfl rfl (write_subscriptions hwrite).2,
    (h.kept.write hself hwrite).sameRows hrows, fun u hu => ?_⟩
  refine Thread.Knows.sameRows ?_ hrows
  have hknows := h.knows u (mem_cons_of_mem _ hu)
  refine ⟨fun purpose' hp call row heq => ?_, hknows.price, ?_⟩
  · obtain ⟨hrow, hpending⟩ := hknows.order purpose' hp call row heq
    subst heq
    refine ⟨write_order? hwrite hrow fun call' order' hown => ?_, hpending⟩
    subst hown
    refine ⟨(hself.order _ rfl call' order' rfl).1, fun hsame => ?_⟩
    -- both would hold the lock of the order
    have halone := (h.locked.order.alone (k := call'.tradeNo) rfl).2 u hu
    rw [tradeNo?_of_purpose hp, hsame] at halone
    exact halone rfl
  · rintro purpose' rfl
    -- both would hold the lock of the user
    have halone := (h.locked.user.alone rfl).2 _ hu
    exact absurd halone one_ne_zero

variable {view : Option ℕ}

theorem Sound.lockUser
    (h : Sound cfg opening s (.lockUser purpose view :: others)) (hfree : s.userLocked = false) :
    Sound cfg opening { s with userLocked := true } ([.count purpose view] ++ others) := by
  refine h.replace ⟨true, s.orderLocks, rfl⟩
    ⟨h.locked.user.exchange ?_, h.locked.order.keep rfl⟩ fun v hv => ?_
  · rw [hfree]
    rfl
  · rw [mem_singleton.1 hv]
    exact (h.knows _ mem_cons_self).next rfl fun _ hu => by cases hu

variable {order : SubscriptionOrder}

/-- `CompleteSubscriptionOrder` locks a pending order. -/
theorem Sound.lockOrder {call : Completion}
    (h : Sound cfg opening s (.complete call :: others)) (hfree : call.tradeNo ∉ s.orderLocks)
    (hrow : s.order? call.tradeNo = some order) (hpending : order.status = .pending) :
    Sound cfg opening { s with orderLocks := call.tradeNo :: s.orderLocks }
      ([.completePlan call order] ++ others) := by
  refine h.replace ⟨s.userLocked, _, rfl⟩
    ⟨h.locked.user.exchange rfl, h.locked.order.acquire rfl rfl hfree⟩ fun v hv => ?_
  rw [mem_singleton.1 hv]
  refine ⟨fun purpose hp call' order' heq => ?_, fun purpose hp quota heq => ?_,
    fun purpose hu => ?_⟩
  · cases hp
    cases heq
    exact ⟨hrow, hpending⟩
  · cases hp
    cases heq
  · cases hu

/-- The wallet changes, or an order is placed, in a statement of its own. -/
theorem Sound.other (h : Sound cfg opening s (t :: others)) (ht : t.purpose? = none)
    (hlocks : s'.userLocked = s.userLocked ∧ s'.orderLocks = s.orderLocks)
    (hsubs : s'.subscriptions = s.subscriptions) (hkept : Kept cfg opening s')
    (horders : ∀ n row, s.order? n = some row → s'.order? n = some row) :
    Sound cfg opening s' ([] ++ others) := by
  have hstop := h.stop ht
  refine ⟨⟨?_, ?_⟩, hkept, fun u hu => ?_⟩
  · rw [hlocks.1]
    exact hstop.locked.user
  · rw [hlocks.2]
    exact hstop.locked.order
  have hknows := hstop.knows u hu
  refine ⟨fun purpose hp call row heq => ?_, hknows.price, ?_⟩
  · obtain ⟨hrow, hpending⟩ := hknows.order purpose hp call row heq
    exact ⟨horders _ _ hrow, hpending⟩
  · rw [hsubs]
    exact hknows.room

/-- A transaction without an order is about to lock the user. -/
theorem Thread.knows_lockUser (horder : purpose.tradeNo? = none)
    (hprice : ∀ requiredQuota, purpose = .balance requiredQuota →
      cfg.balanceQuota = some requiredQuota) : (Thread.lockUser purpose view).Knows cfg s := by
  refine ⟨fun purpose' hp call order heq => ?_, fun purpose' hp requiredQuota heq => ?_,
    fun purpose' hu => ?_⟩
  · cases hp
    subst heq
    cases horder
  · cases hp
    exact hprice requiredQuota heq
  · cases hu

/-- A count that is current leaves room for one more. -/
theorem Sound.counted
    (h : Sound cfg opening s (.count purpose view :: others))
    (hview : view.getD s.subscriptions.length = s.subscriptions.length)
    (hroom : ¬ (0 < cfg.plan.maxPurchasePerUser ∧
      cfg.plan.maxPurchasePerUser ≤ view.getD s.subscriptions.length)) :
    Sound cfg opening s ([.commit purpose] ++ others) := by
  rw [hview] at hroom
  refine h.next rfl rfl ((h.knows _ mem_cons_self).next rfl fun _ _ hpos => ?_)
  by_contra hle
  exact hroom ⟨hpos, not_lt.1 hle⟩

/-- An order with a new number is placed. -/
theorem Sound.place
    (h : Sound cfg opening s (.place order :: others)) (hnew : s.order? order.tradeNo = none) :
    Sound cfg opening { s with orders := order :: s.orders } ([] ++ others) := by
  have horders (n : String) (row : SubscriptionOrder) (hrow : s.order? n = some row) :
      { s with orders := order :: s.orders }.order? n = some row := by
    have hne : order.tradeNo ≠ n := by
      rintro rfl
      rw [hnew] at hrow
      cases hrow
    rw [Shared.order?, find?_cons_of_neg (by simpa using hne)]
    exact hrow
  refine h.other rfl ⟨rfl, rfl⟩ rfl ?_ horders
  refine ⟨h.kept.limit, h.kept.once, fun n hn => ?_, h.kept.ledger, h.kept.paid⟩
  obtain ⟨row, hrow, hstatus⟩ := h.kept.spent n hn
  exact ⟨row, horders n row hrow, hstatus⟩

/-- **One statement** keeps the locks, the limit and the books. -/
theorem Sound.step {p : Pool Shared Thread} (hcurrent : CountCurrent p c t)
    (h : Sound cfg opening p.shared (t :: others))
    (hadvance : advance cfg c p.shared t = some (s', ts)) :
    Sound cfg opening s' (ts ++ others) := by
  revert hadvance
  fun_cases advance cfg c p.shared t <;> rintro ⟨⟩
  -- calls that end, with the locks that they have
  case case1 | case3 | case4 | case5 | case9 | case11 | case12 | case26 => exact h.stop rfl
  case case7 | case14 | case16 => exact h.releaseOrder rfl rfl
  case case19 | case21 | case22 => exact h.release rfl rfl
  case case23 hwrite => exact h.commit hwrite
  case case25 =>
    have hpaid := h.kept.paid
    refine h.other rfl ⟨rfl, rfl⟩ rfl ?_ fun n row hrow => hrow
    exact ⟨h.kept.limit, h.kept.once, h.kept.spent, h.kept.ledger, by dsimp only; linarith⟩
  case case27 hfree =>
    exact h.place (Option.not_isSome_iff_eq_none.1 fun hsome => hfree (Or.inl hsome))
  -- calls that go on
  case case6 hfree _ hrow _ hpending => exact h.lockOrder hfree hrow (not_not.1 hpending)
  case case8 =>
    have hself := h.knows _ mem_cons_self
    exact h.next rfl rfl (hself.next rfl fun _ hu => by cases hu)
  case case10 => exact h.next rfl rfl (Thread.knows_lockUser rfl fun _ heq => by cases heq)
  case case13 hprice _ =>
    refine h.next rfl rfl (Thread.knows_lockUser rfl fun _ heq => ?_)
    cases heq
    exact hprice
  case case17 hfree _ _ | case18 hfree _ => exact h.lockUser (by simpa using hfree)
  case case20 view _ hroom =>
    refine h.counted ?_ fun hfull => hroom (Or.inr hfull)
    cases view with
    | none => rfl
    | some n => exact hcurrent

end Step

/-! ## Runs -/

/-- No call has started, the user has no subscription of the plan, and the trade numbers of the
ledger are unique. -/
structure Fresh (p : Pool Shared Thread) : Prop where
  threads : ∀ t ∈ p.threads, t.purpose? = none
  unlocked : p.shared.userLocked = false ∧ p.shared.orderLocks = []
  subscriptions : p.shared.subscriptions = []
  ledger : (p.shared.topUps.map TopUp.tradeNo).Nodup
  otherChanges : p.shared.otherChanges = 0

theorem Fresh.sound {cfg : Config} {p : Pool Shared Thread} (h : Fresh p) :
    Sound cfg p.shared.quota p.shared p.threads := by
  refine ⟨⟨?_, ?_⟩, ⟨?_, ?_, ?_, h.ledger, ?_⟩, fun t ht => ?_⟩
  · rw [h.unlocked.1]
    exact .free fun t ht => userHeld_of_none (h.threads t ht)
  · rw [h.unlocked.2]
    refine .free fun t ht => ?_
    rw [Thread.tradeNo?, h.threads t ht]
    rfl
  · rw [h.subscriptions]
    exact fun hpos => hpos.le
  · simp [h.subscriptions]
  · simp [h.subscriptions]
  · simp [h.subscriptions, h.otherChanges]
  · exact Thread.knows_of_none (h.threads t ht)

/-- **The purchase limit.** In every run in which no subscription has been committed between the
snapshot of a transaction and its count: the user has at most `MaxPurchasePerUser`
subscriptions of the plan, an order has given at most one of them and one row of the ledger,
and the wallet has lost the price of each balance purchase and nothing else. -/
theorem purchase_limit_kept {cfg : Config} {p q : Pool Shared Thread} (hstart : Fresh p)
    (hrun : Exec (Pool.step (advance cfg)) (Pool.Meets CountCurrent) p q) :
    (0 < cfg.plan.maxPurchasePerUser →
        q.shared.subscriptions.length ≤ cfg.plan.maxPurchasePerUser) ∧
      (∀ n, q.shared.subscriptions.count (.order n) ≤ 1) ∧
      (∀ n, (q.shared.topUps.map TopUp.tradeNo).count n ≤ 1) ∧
      q.shared.quota = p.shared.quota + q.shared.otherChanges -
        q.shared.subscriptions.count .balance * cfg.balanceQuota.getD 0 := by
  have hsound : Sound cfg p.shared.quota q.shared q.threads := by
    refine Pool.invariant (I := Sound cfg p.shared.quota) ?_ ?_ hstart.sound hrun
    · intro s l l' hperm h
      exact ⟨h.locked.perm hperm, h.kept, fun t ht => h.knows t (hperm.mem_iff.2 ht)⟩
    · intro p c t s ts others hcurrent _ h hadvance
      exact h.step hcurrent hadvance
  have hpaid := hsound.kept.paid
  refine ⟨hsound.kept.limit, hsound.kept.once, fun n => ?_, by linarith⟩
  exact nodup_iff_count_le_one.1 hsound.kept.ledger n

/-- A plan for one unit that a user may buy `limit` times, on MySQL. -/
def unitPlan (limit : ℤ) : Config :=
  ⟨1, ⟨limit, true, 1, none⟩, 500000, .repeatableRead⟩

def pendingOrder : SubscriptionOrder :=
  ⟨"o1", 1, 1, "stripe", some .stripe, .pending, 0, ""⟩

/-- A user with one pending order and money for two purchases. -/
def funded (threads : List Thread) : Pool Shared Thread :=
  ⟨⟨1000000, [], [pendingOrder], [], false, [], 0⟩, threads⟩

/-- A callback comes twice and a purchase counts after the order has been completed. -/
theorem purchase_limit_kept_two :
    ∃ q, Exec (Pool.step (advance (unitPlan 2))) (Pool.Meets CountCurrent)
        (funded [.complete ⟨"o1", "", some .stripe, ""⟩, .purchase,
          .complete ⟨"o1", "", some .stripe, ""⟩]) q ∧
      q.shared.subscriptions = [.balance, .order "o1"] ∧ q.shared.topUps.length = 1 ∧
      q.shared.quota = 500000 ∧
      (∀ n, q.shared.subscriptions.count (.order n) ≤ 1) := by
  refine Exec.exists_imp_of_actions (P := fun q =>
      q.shared.subscriptions = [.balance, .order "o1"] ∧ q.shared.topUps.length = 1 ∧
      q.shared.quota = 500000)
    (replicate 5 (0, ⟨true, true, 7, "b1"⟩) ++ replicate 4 (0, ⟨true, true, 8, "b1"⟩) ++
      [(0, ⟨true, true, 9, "b2"⟩)]) (by decide +kernel) fun q hrun hq => ?_
  exact ⟨hq.1, hq.2.1, hq.2.2,
    (purchase_limit_kept ⟨by decide, ⟨rfl, rfl⟩, rfl, by decide, rfl⟩ hrun).2.1⟩

/-- Two balance purchases read the plan from the database, in their transactions, before the first
of them commits. The count of the second one does not see the subscription of the first, and
the user has two subscriptions of a plan that may be bought once. -/
theorem purchase_limit_exceeded :
    Fresh (funded [.purchase, .purchase]) ∧
      ∃ q, Exec (Pool.step (advance (unitPlan 1))) (fun _ _ => True)
          (funded [.purchase, .purchase]) q ∧
        q.shared.subscriptions = [.balance, .balance] ∧ q.shared.quota = 0 := by
  refine ⟨⟨by decide, ⟨rfl, rfl⟩, rfl, nodup_nil, rfl⟩, ?_⟩
  exact Exec.exists_of_actions ([(0, ⟨true, false, 7, ""⟩), (1, ⟨true, false, 7, ""⟩)] ++
    replicate 3 (0, ⟨true, false, 7, "b1"⟩) ++ replicate 3 (0, ⟨true, false, 8, "b2"⟩))
    (by decide +kernel)

end OmniRouters.Subscription.Purchase
