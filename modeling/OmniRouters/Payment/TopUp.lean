import OmniRouters.Billing.Quota
import OmniRouters.Lib.Rows
import OmniRouters.Lib.Runs

/-!
# Top-up orders

The transactions that complete a top-up order (`model/topup.go`): `RechargeEpay`, `Recharge`,
`RechargeCreem`, `RechargeWaffo`, `RechargeWaffoPancakeWithResult` and `ManualCompleteTopUp`, and
`UpdatePendingTopUpStatus`. Each of them locks the row of the order, so each is one step here.
Any of its statements may fail; the transaction is then rolled back.

The six completions differ in the orders they accept, in what they credit, and in whether an
order that is complete already is an error. They are one definition with these parameters.

* `serve_effect`: what a call can do.
* `topUp_credited_once`: an order is credited at most once, only while it is pending, only by its
  own gateway or an admin; a call that fails changes nothing.
-/

namespace OmniRouters.Payment

open OmniRouters.Billing OmniRouters.Lib

/-! ## Orders -/

/-- The payment providers (topup.go:41-48). -/
inductive Provider
  | epay
  | stripe
  | creem
  | waffo
  | waffoPancake
  | balance
deriving DecidableEq

/-- The status of an order (common/constants.go:316-319). -/
inductive OrderStatus
  | pending
  | success
  | failed
  | expired
deriving DecidableEq

/-- What the calls read and write of a row of `top_ups`. The provider is missing in old rows, and
`organizationId` is 0 for the wallet of the user. -/
structure TopUp where
  tradeNo : String
  userId : ℕ
  organizationId : ℕ
  amount : ℤ
  money : ℚ
  paymentMethod : String
  paymentProvider : Option Provider
  completeTime : ℤ
  status : OrderStatus
deriving DecidableEq

/-- `PaymentProviderFromMethod` (topup.go:59-72). -/
def paymentProviderFromMethod (paymentMethod : String) : Provider :=
  if paymentMethod = "stripe" then .stripe
  else if paymentMethod = "creem" then .creem
  else if paymentMethod = "waffo" then .waffo
  else if paymentMethod = "waffo_pancake" then .waffoPancake
  else .epay

/-- `EffectivePaymentProvider` (topup.go:74-82). -/
def TopUp.effectivePaymentProvider (topUp : TopUp) : Provider :=
  topUp.paymentProvider.getD (paymentProviderFromMethod topUp.paymentMethod)

/-- A credit for an order. -/
structure Credit where
  tradeNo : String
  userId : ℕ
  organizationId : ℕ
  quota : ℤ
deriving DecidableEq

/-- The orders, the wallets of users and of organizations, and the credits so far. -/
structure Db where
  topUps : List TopUp
  users : ℕ → Option ℤ
  organizations : ℕ → Option ℤ
  credits : List Credit

def Db.topUp? (db : Db) (tradeNo : String) : Option TopUp :=
  db.topUps.find? (·.tradeNo = tradeNo)

/-- `tx.Save` of an order. -/
def Db.saveTopUp (db : Db) (topUp : TopUp) : Db :=
  { db with topUps := replace TopUp.tradeNo topUp db.topUps }

/-- The wallet of an order after a credit. -/
def Db.credit (db : Db) (topUp : TopUp) (quota : ℤ) : Db :=
  let credits := ⟨topUp.tradeNo, topUp.userId, topUp.organizationId, quota⟩ :: db.credits
  if topUp.organizationId = 0 then
    let wallet := (db.users topUp.userId).map (· + quota)
    { db with users := Function.update db.users topUp.userId wallet, credits := credits }
  else
    let wallet := (db.organizations topUp.organizationId).map (· + quota)
    { db with
      organizations := Function.update db.organizations topUp.organizationId wallet
      credits := credits }

/-! ## Transactions -/

/-- The errors of the calls. -/
inductive TopUpError
  | noTradeNo
  | notFound
  | methodMismatch
  | statusInvalid
  | invalidQuota
  | quotaLimitExceeded
  | recordNotFound
  | database
  /-- The text that hides the error of a failed recharge. -/
  | retryLater
deriving DecidableEq

/-- The statements of a transaction that may fail. -/
inductive Stmt
  | lock
  | user
  | save
  | credit
  | ledger
  | cashback
  | commit
deriving DecidableEq

/-- `topUpQuotaMaxCurrent` (topup.go:103-108). -/
def topUpQuotaMaxCurrent (creditedQuota : ℤ) : Option ℤ :=
  if creditedQuota ≤ 0 ∨ maxWalletQuota < creditedQuota then none
  else some (maxWalletQuota - creditedQuota)

/-- `creditTopUpQuota` (lines 131-156) on the wallet of a user: the wallet afterwards, if the user
exists and the ceiling allows it. -/
def creditTopUpQuota (wallet : Option ℤ) (creditedQuota : ℤ) : Option ℤ :=
  (topUpQuotaMaxCurrent creditedQuota).bind fun maxCurrent =>
    wallet.bind fun current =>
      if current ≤ maxCurrent then some (current + creditedQuota) else none

theorem creditTopUpQuota_eq_some {wallet : Option ℤ} {creditedQuota next : ℤ}
    (h : creditTopUpQuota wallet creditedQuota = some next) :
    ∃ current, wallet = some current ∧ next = current + creditedQuota ∧ 0 < creditedQuota ∧
      next ≤ maxWalletQuota := by
  obtain ⟨maxCurrent, hmax, hwallet⟩ := Option.bind_eq_some_iff.1 h
  obtain ⟨current, rfl, hnext⟩ := Option.bind_eq_some_iff.1 hwallet
  unfold topUpQuotaMaxCurrent at hmax
  split at hmax
  · cases hmax
  split at hnext
  · cases hmax
    cases hnext
    exact ⟨current, rfl, rfl, by omega, by omega⟩
  · cases hnext

/-- The update of a wallet that holds `wallet`, bounded by `maxCurrent`. -/
def creditBounded (wallet : Option ℤ) (maxCurrent : ℤ) (db : Db) : Except TopUpError Db :=
  match wallet with
  | none => .error .recordNotFound
  | some current => if current ≤ maxCurrent then .ok db else .error .quotaLimitExceeded

/-- `creditTopUpWallet` and `creditTopUpQuota` (model/organization_topup.go:34-59,
topup.go:131-156). -/
def creditTopUpWallet (fails : Stmt → Bool) (db : Db) (topUp : TopUp) (quota : ℤ) :
    Except TopUpError Db :=
  match topUpQuotaMaxCurrent quota with
  | none => .error .invalidQuota
  | some maxCurrent =>
    if fails .credit then .error .database
    else if topUp.organizationId = 0 then
      creditBounded (db.users topUp.userId) maxCurrent (db.credit topUp quota)
    else if fails .ledger then .error .database
    else creditBounded (db.organizations topUp.organizationId) maxCurrent (db.credit topUp quota)

/-- The parameters of a completion. -/
structure Completion where
  /-- The provider check. -/
  accepts : TopUp → Bool
  /-- A complete order is answered without an error. -/
  idempotent : Bool
  /-- The status is saved before the quota is computed. -/
  savesFirst : Bool
  /-- The payment method that is saved. -/
  paymentMethod : TopUp → String
  /-- The quota to add, if it is positive and in range. -/
  quota : TopUp → Option ℤ
  /-- The user is read for the email address. -/
  readsUser : Bool

/-- The transaction of a completion: whether the order was complete already, and what is
committed. -/
def completeTx (c : Completion) (now : ℤ) (fails : Stmt → Bool) (db : Db) (tradeNo : String) :
    Except TopUpError (Bool × Db) :=
  match db.topUp? tradeNo with
  | none => .error .notFound
  | some topUp =>
    if fails .lock then .error .notFound
    else if c.accepts topUp = false then .error .methodMismatch
    else if c.idempotent ∧ topUp.status = .success then
      if fails .commit then .error .database else .ok (true, db)
    else if topUp.status ≠ .pending then .error .statusInvalid
    else if c.savesFirst ∧ fails .save then .error .database
    else match c.quota topUp with
      | none => .error .invalidQuota
      | some quota =>
        if fails .save then .error .database
        else if c.readsUser ∧ (fails .user ∨ db.users topUp.userId = none) then
          .error .recordNotFound
        else
          let done := { topUp with
            paymentMethod := c.paymentMethod topUp, completeTime := now, status := .success }
          match creditTopUpWallet fails (db.saveTopUp done) done quota with
          | .error e => .error e
          | .ok db =>
            -- `ApplyFirstTopUpReferralCashbackTx` adds a pending reward for the inviter
            if fails .cashback ∨ fails .commit then .error .database else .ok (false, db)

/-- The quota of a decimal, if it is valid for a top-up. -/
def positiveQuota (d : ℚ) : Option ℤ := (walletQuotaFromDecimalStrict d).filter (0 < ·)

/-- `RechargeEpay` (topup.go:275-333). -/
def rechargeEpay (quotaPerUnit : ℚ) (actualPaymentMethod : String) : Completion where
  accepts topUp := topUp.paymentProvider = some .epay
  idempotent := true
  savesFirst := false
  paymentMethod topUp :=
    if actualPaymentMethod ≠ "" then actualPaymentMethod else topUp.paymentMethod
  quota topUp := positiveQuota (topUp.amount * quotaPerUnit)
  readsUser := false

/-- `Recharge` (topup.go:335-390). -/
def recharge (quotaPerUnit : ℚ) : Completion where
  accepts topUp := topUp.effectivePaymentProvider = .stripe
  idempotent := false
  savesFirst := true
  paymentMethod := TopUp.paymentMethod
  quota topUp := positiveQuota (topUp.money * quotaPerUnit)
  readsUser := false

/-- `RechargeCreem` (topup.go:706-775). -/
def rechargeCreem (customerEmail : String) : Completion where
  accepts topUp := topUp.effectivePaymentProvider = .creem
  idempotent := false
  savesFirst := true
  paymentMethod := TopUp.paymentMethod
  quota topUp := positiveQuota topUp.amount
  readsUser := customerEmail ≠ ""

/-- `RechargeWaffo` (topup.go:777-840). -/
def rechargeWaffo (quotaPerUnit : ℚ) : Completion where
  accepts topUp := topUp.effectivePaymentProvider = .waffo
  idempotent := true
  savesFirst := false
  paymentMethod := TopUp.paymentMethod
  quota topUp := positiveQuota (topUp.amount * quotaPerUnit)
  readsUser := false

/-- `RechargeWaffoPancakeWithResult` (topup.go:854-916). -/
def rechargeWaffoPancakeWithResult (quotaPerUnit : ℚ) : Completion where
  accepts topUp := topUp.effectivePaymentProvider = .waffoPancake
  idempotent := true
  savesFirst := false
  paymentMethod := TopUp.paymentMethod
  quota topUp := positiveQuota (topUp.amount * quotaPerUnit)
  readsUser := false

/-- `ManualCompleteTopUp` (topup.go:612-705): any provider. -/
def manualCompleteTopUp (quotaPerUnit : ℚ) : Completion where
  accepts _ := true
  idempotent := true
  savesFirst := false
  paymentMethod := TopUp.paymentMethod
  quota topUp :=
    match topUp.effectivePaymentProvider with
    | .stripe => positiveQuota (topUp.money * quotaPerUnit)
    | .creem => positiveQuota topUp.amount
    | _ => positiveQuota (topUp.amount * quotaPerUnit)
  readsUser := false

/-- `UpdatePendingTopUpStatus` (topup.go:242-269). -/
def updatePendingTopUpStatus (expected : Option Provider) (target : OrderStatus)
    (fails : Stmt → Bool) (db : Db) (tradeNo : String) : Except TopUpError (Bool × Db) :=
  match db.topUp? tradeNo with
  | none => .error .notFound
  | some topUp =>
    if fails .lock then .error .notFound
    else if ∃ provider ∈ expected, topUp.effectivePaymentProvider ≠ provider then
      .error .methodMismatch
    else if topUp.status ≠ .pending then .error .statusInvalid
    else if fails .save ∨ fails .commit then .error .database
    else .ok (false, db.saveTopUp { topUp with status := target })

/-! ## Calls -/

/-- The calls on an order. -/
inductive Call
  | rechargeEpay (actualPaymentMethod : String)
  | recharge
  | rechargeCreem (customerEmail : String)
  | rechargeWaffo
  | rechargeWaffoPancakeWithResult
  | manualCompleteTopUp
  | updatePendingTopUpStatus (expected : Option Provider) (target : OrderStatus)

/-- The provider whose callback a call is; `none` for the admin and for a status update. -/
def Call.provider : Call → Option Provider
  | .rechargeEpay _ => some .epay
  | .recharge => some .stripe
  | .rechargeCreem _ => some .creem
  | .rechargeWaffo => some .waffo
  | .rechargeWaffoPancakeWithResult => some .waffoPancake
  | .manualCompleteTopUp => none
  | .updatePendingTopUpStatus _ _ => none

/-- The gateways that hide their errors. -/
def Call.hidesErrors : Call → Bool
  | .recharge | .rechargeCreem _ | .rechargeWaffo | .rechargeWaffoPancakeWithResult => true
  | _ => false

/-- A call with its order, the settings and the time it reads, and the statements that fail. -/
structure Request where
  call : Call
  tradeNo : String
  quotaPerUnit : ℚ
  now : ℤ
  fails : Stmt → Bool

/-- The transaction of a request. -/
def Request.tx (r : Request) (db : Db) : Except TopUpError (Bool × Db) :=
  match r.call with
  | .rechargeEpay method =>
    completeTx (Payment.rechargeEpay r.quotaPerUnit method) r.now r.fails db r.tradeNo
  | .recharge => completeTx (Payment.recharge r.quotaPerUnit) r.now r.fails db r.tradeNo
  | .rechargeCreem email => completeTx (Payment.rechargeCreem email) r.now r.fails db r.tradeNo
  | .rechargeWaffo => completeTx (Payment.rechargeWaffo r.quotaPerUnit) r.now r.fails db r.tradeNo
  | .rechargeWaffoPancakeWithResult =>
    completeTx (Payment.rechargeWaffoPancakeWithResult r.quotaPerUnit) r.now r.fails db r.tradeNo
  | .manualCompleteTopUp =>
    completeTx (Payment.manualCompleteTopUp r.quotaPerUnit) r.now r.fails db r.tradeNo
  | .updatePendingTopUpStatus expected target =>
    Payment.updatePendingTopUpStatus expected target r.fails db r.tradeNo

/-- A request: what it returns, and the database after the commit or the rollback. -/
def serve (db : Db) (r : Request) : Except TopUpError Bool × Db :=
  if r.tradeNo = "" then (.error .noTradeNo, db)
  else match r.tx db with
    | .error e => (.error (if r.call.hidesErrors then .retryLater else e), db)
    | .ok (alreadyDone, db') => (.ok alreadyDone, db')

/-! ## What a call does -/

/-- The order `topUp` after its completion. -/
structure Completed (topUp done : TopUp) : Prop where
  tradeNo : done.tradeNo = topUp.tradeNo
  userId : done.userId = topUp.userId
  organizationId : done.organizationId = topUp.organizationId
  status : done.status = .success

/-- The call may credit the order: it is the callback of its provider, or the admin's. -/
def Entitled (call : Call) (topUp : TopUp) : Prop :=
  call = .manualCompleteTopUp ∨ call.provider = some topUp.effectivePaymentProvider

/-- What a call can do: nothing, a new status for a pending order, or the completion and the
credit of a pending order that it is entitled to. -/
inductive Effect (call : Call) (tradeNo : String) (db : Db) : Db → Prop
  | same : Effect call tradeNo db db
  | status {topUp : TopUp} (target : OrderStatus) (hfind : db.topUp? tradeNo = some topUp)
      (hpending : topUp.status = .pending) :
      Effect call tradeNo db (db.saveTopUp { topUp with status := target })
  | credit {topUp done : TopUp} (quota : ℤ) (hfind : db.topUp? tradeNo = some topUp)
      (hpending : topUp.status = .pending) (hentitled : Entitled call topUp)
      (hdone : Completed topUp done) :
      Effect call tradeNo db ((db.saveTopUp done).credit done quota)

section Cases

variable {db db' : Db} {tradeNo : String} {topUp : TopUp} {fails : Stmt → Bool}

theorem Db.tradeNo_of_topUp? (h : db.topUp? tradeNo = some topUp) : topUp.tradeNo = tradeNo :=
  key_of_find? h

theorem creditBounded_ok {wallet : Option ℤ} {maxCurrent : ℤ} {db₁ : Db}
    (h : creditBounded wallet maxCurrent db₁ = .ok db') : db' = db₁ := by
  revert h
  fun_cases creditBounded wallet maxCurrent db₁ <;> rintro ⟨⟩
  rfl

theorem creditTopUpWallet_ok {quota : ℤ} (h : creditTopUpWallet fails db topUp quota = .ok db') :
    db' = db.credit topUp quota := by
  revert h
  fun_cases creditTopUpWallet fails db topUp quota
  case case3 | case5 => exact creditBounded_ok
  all_goals rintro ⟨⟩

variable {alreadyDone : Bool}

/-- A completion changes nothing, or it completes and credits a pending order that it accepts. -/
theorem completeTx_ok {c : Completion} {now : ℤ}
    (h : completeTx c now fails db tradeNo = .ok (alreadyDone, db')) :
    db' = db ∨ ∃ topUp done quota, db.topUp? tradeNo = some topUp ∧ c.accepts topUp = true ∧
      topUp.status = .pending ∧ c.quota topUp = some quota ∧
      done = { topUp with
        paymentMethod := c.paymentMethod topUp, completeTime := now, status := .success } ∧
      db' = (db.saveTopUp done).credit done quota := by
  revert h
  fun_cases completeTx c now fails db tradeNo <;> rintro ⟨⟩
  case case5 => exact .inl rfl
  case case13 topUp hfind _ haccepts _ hpending _ quota hquota _ _ _ _ hcredit =>
    exact .inr ⟨topUp, _, quota, hfind, Bool.not_eq_false _ ▸ haccepts, not_not.1 hpending,
      hquota, rfl, creditTopUpWallet_ok hcredit⟩

theorem completeTx_effect {call : Call} {c : Completion} {now : ℤ}
    (hc : ∀ topUp, c.accepts topUp = true → Entitled call topUp)
    (h : completeTx c now fails db tradeNo = .ok (alreadyDone, db')) :
    Effect call tradeNo db db' := by
  obtain rfl | ⟨topUp, done, quota, hfind, haccepts, hpending, -, rfl, rfl⟩ := completeTx_ok h
  · exact .same
  · exact .credit quota hfind hpending (hc topUp haccepts) ⟨rfl, rfl, rfl, rfl⟩

theorem updatePending_ok {expected : Option Provider} {target : OrderStatus}
    (h : updatePendingTopUpStatus expected target fails db tradeNo = .ok (alreadyDone, db')) :
    ∃ topUp, db.topUp? tradeNo = some topUp ∧ topUp.status = .pending ∧
      db' = db.saveTopUp { topUp with status := target } := by
  revert h
  fun_cases updatePendingTopUpStatus expected target fails db tradeNo <;> rintro ⟨⟩
  case case6 topUp hfind _ _ hpending _ => exact ⟨topUp, hfind, not_not.1 hpending, rfl⟩

/-- **What a call does.** -/
theorem serve_effect (db : Db) (r : Request) : Effect r.call r.tradeNo db (serve db r).2 := by
  fun_cases serve db r
  case case1 | case2 => exact .same
  rename_i alreadyDone db' _ htx
  revert htx
  fun_cases r.tx db <;> intro htx
  case case1 method hcall =>
    refine completeTx_effect (fun topUp hacc => .inr ?_) htx
    have hprovider : topUp.paymentProvider = some .epay := of_decide_eq_true hacc
    simp [hcall, Call.provider, TopUp.effectivePaymentProvider, hprovider]
  case case2 hcall | case3 hcall | case4 hcall | case5 hcall =>
    refine completeTx_effect (fun topUp hacc => .inr ?_) htx
    rw [hcall, of_decide_eq_true hacc]
    rfl
  case case6 hcall => exact completeTx_effect (fun topUp _ => .inl hcall) htx
  case case7 expected target _ =>
    obtain ⟨topUp, hfind, hpending, rfl⟩ := updatePending_ok htx
    exact .status target hfind hpending

/-- A call that returns an error is rolled back. -/
theorem serve_error {r : Request} {e : TopUpError} (h : (serve db r).1 = .error e) :
    (serve db r).2 = db := by
  unfold serve at h ⊢
  split
  · rfl
  rename_i htrade
  rw [if_neg htrade] at h
  split
  · rfl
  next alreadyDone db' htx =>
    rw [htx] at h
    cases h

end Cases

/-! ## Runs of calls -/

/-- The credits for an order. -/
def Db.creditsFor (db : Db) (tradeNo : String) : List Credit :=
  db.credits.filter (·.tradeNo = tradeNo)

def Db.credited (db : Db) (userId : ℕ) : ℤ :=
  (db.credits.map fun c => if c.organizationId = 0 ∧ c.userId = userId then c.quota else 0).sum

/-- One call. -/
def stepTopUp (db : Db) (r : Request) : Option Db := some (serve db r).2

open Db

section Runs

variable {db db' : Db} {tradeNo : String} {topUp done : TopUp} {quota : ℤ}

theorem Db.topUp?_saveTopUp (db : Db) (done : TopUp) (tradeNo : String) :
    (db.saveTopUp done).topUp? tradeNo =
      if done.tradeNo = tradeNo then (db.topUp? tradeNo).map fun _ => done
      else db.topUp? tradeNo :=
  find?_replace TopUp.tradeNo done db.topUps tradeNo

theorem Db.credit_topUp? : (db.credit topUp quota).topUp? tradeNo = db.topUp? tradeNo := by
  unfold Db.credit
  split <;> rfl

theorem Db.credit_credits : (db.credit topUp quota).credits =
    ⟨topUp.tradeNo, topUp.userId, topUp.organizationId, quota⟩ :: db.credits := by
  unfold Db.credit
  split <;> rfl

/-- A credit adds to the wallet of its user. -/
theorem Db.credit_users (userId : ℕ) : (db.credit topUp quota).users userId = (db.users userId).map
      (· + if topUp.organizationId = 0 ∧ topUp.userId = userId then quota else 0) := by
  unfold Db.credit
  by_cases horg : topUp.organizationId = 0
  · rw [if_pos horg]
    by_cases huser : topUp.userId = userId
    · subst huser
      simp [horg]
    · have hne : userId ≠ topUp.userId := fun h => huser h.symm
      simp [huser, hne]
  · simp [horg]

/-- The invariant: an order that is pending was not credited, and no order was credited twice. -/
structure Db.Sound (db : Db) : Prop where
  once : ∀ tradeNo, (db.creditsFor tradeNo).length ≤ 1
  pending : ∀ tradeNo topUp, db.topUp? tradeNo = some topUp → topUp.status = .pending →
    db.creditsFor tradeNo = []

/-- The wallets of the users are those of `db₀` with the credits. -/
def Db.Balanced (db₀ db : Db) : Prop :=
  ∀ userId, db.users userId = (db₀.users userId).map (· + db.credited userId)

theorem Db.creditsFor_credit : (db.credit topUp quota).creditsFor tradeNo =
    if topUp.tradeNo = tradeNo then
      ⟨topUp.tradeNo, topUp.userId, topUp.organizationId, quota⟩ :: db.creditsFor tradeNo
    else db.creditsFor tradeNo := by
  unfold creditsFor
  rw [credit_credits, List.filter_cons]
  simp

/-- **One call** credits an order that was not credited before. -/
theorem Effect.sound {call : Call} (h : Effect call tradeNo db db') (hdb : db.Sound) :
    db'.Sound := by
  cases h with
  | same => exact hdb
  | @status topUp target hfind hpending =>
    refine ⟨hdb.once, fun t x hx hstatus => ?_⟩
    show db.creditsFor t = []
    rw [topUp?_saveTopUp] at hx
    split at hx
    next heq =>
      have htrade : topUp.tradeNo = tradeNo := tradeNo_of_topUp? hfind
      obtain rfl : tradeNo = t := htrade.symm.trans heq
      exact hdb.pending tradeNo topUp hfind hpending
    · exact hdb.pending t x hx hstatus
  | @credit topUp done quota hfind hpending hentitled hdone =>
    have htrade : done.tradeNo = tradeNo := hdone.tradeNo.trans (tradeNo_of_topUp? hfind)
    have hnone : (db.saveTopUp done).creditsFor tradeNo = [] :=
      hdb.pending tradeNo topUp hfind hpending
    refine ⟨fun t => ?_, fun t x hx hstatus => ?_⟩
    · rw [creditsFor_credit]
      split
      next heq =>
        obtain rfl : tradeNo = t := htrade.symm.trans heq
        rw [hnone]
        exact le_rfl
      · exact hdb.once t
    · rw [credit_topUp?, topUp?_saveTopUp] at hx
      rw [creditsFor_credit]
      split at hx
      · obtain ⟨y, -, rfl⟩ := Option.map_eq_some_iff.1 hx
        rw [hdone.status] at hstatus
        cases hstatus
      next hne =>
        rw [if_neg hne]
        exact hdb.pending t x hx hstatus

theorem Effect.balanced {call : Call} {db₀ : Db} (h : Effect call tradeNo db db')
    (hdb : Db.Balanced db₀ db) : Db.Balanced db₀ db' := by
  cases h with
  | same | status => exact hdb
  | @credit topUp done quota hfind hpending hentitled hdone =>
    intro userId
    have hbefore : (db.saveTopUp done).users userId =
      (db₀.users userId).map (· + db.credited userId) := hdb userId
    have hcredited : ((db.saveTopUp done).credit done quota).credited userId =
        (if done.organizationId = 0 ∧ done.userId = userId then quota else 0) +
          db.credited userId := by
      unfold credited
      rw [credit_credits, List.map_cons, List.sum_cons]
      rfl
    rw [credit_users, hbefore, hcredited, Option.map_map]
    congr 1
    funext q
    dsimp only [Function.comp_apply]
    omega

theorem Db.start_sound (h : db.credits = []) : db.Sound ∧ Db.Balanced db db := by
  refine ⟨⟨fun t => ?_, fun t _ _ _ => ?_⟩, fun userId => ?_⟩
  · simp [creditsFor, h]
  · simp [creditsFor, h]
  · simp [credited, h]

end Runs

/-- **An order is credited once.** Any calls run on any orders, in any order, with any of their
statements failing. Each order is credited at most once, the wallets of users hold what they
held and the credits; whatever a call credits or changes, its order was pending, and a credit
is made by the callback of the order's provider or by an admin; a call that returns an
error changes nothing. -/
theorem topUp_credited_once {db₀ db : Db} (hcredits : db₀.credits = [])
    (hrun : Exec stepTopUp (fun _ _ => True) db₀ db) :
    (∀ tradeNo, (db.creditsFor tradeNo).length ≤ 1) ∧
      (∀ userId, db.users userId = (db₀.users userId).map (· + db.credited userId)) ∧
      (∀ r, (serve db r).2 ≠ db → ∃ topUp, db.topUp? r.tradeNo = some topUp ∧
        topUp.status = .pending ∧ ((serve db r).2.credits ≠ db.credits →
          r.call = .manualCompleteTopUp ∨ r.call.provider = some topUp.effectivePaymentProvider)) ∧
      ∀ r e, (serve db r).1 = .error e → (serve db r).2 = db := by
  have hsound : db.Sound ∧ Db.Balanced db₀ db := by
    refine Exec.invariant (I := fun db => db.Sound ∧ Db.Balanced db₀ db)
      (fun db r db' hdb _ hstep => ?_) (Db.start_sound hcredits) hrun
    cases hstep
    exact ⟨(serve_effect db r).sound hdb.1, (serve_effect db r).balanced hdb.2⟩
  refine ⟨hsound.1.once, hsound.2, fun r hchange => ?_, fun r e he => serve_error he⟩
  generalize hdb' : (serve db r).2 = db' at hchange ⊢
  have heffect := serve_effect db r
  rw [hdb'] at heffect
  cases heffect with
  | same => exact absurd rfl hchange
  | @status topUp target hfind hpending =>
    exact ⟨topUp, hfind, hpending, fun hcredit => absurd rfl hcredit⟩
  | @credit topUp done quota hfind hpending hentitled hdone =>
    exact ⟨topUp, hfind, hpending, fun _ => hentitled⟩

def stripeOrder (status : OrderStatus) (completeTime : ℤ) : TopUp where
  tradeNo := "T1"
  userId := 1
  organizationId := 0
  amount := 2
  money := 2
  paymentMethod := "stripe"
  paymentProvider := some .stripe
  completeTime := completeTime
  status := status

/-- That order, and a user with a quota of 100. -/
def stripeDb : Db where
  topUps := [stripeOrder .pending 0]
  users := fun userId => if userId = 1 then some 100 else none
  organizations := fun _ => none
  credits := []

/-- A request for that order, with 500000 quota for a unit. -/
def stripeRequest (call : Call) (fails : Stmt → Bool) : Request where
  call := call
  tradeNo := "T1"
  quotaPerUnit := 500000
  now := 7
  fails := fails

/-- The callback of another provider, a recharge whose commit fails, one that succeeds, a
duplicate of it and the admin. -/
theorem topUp_credited_once_of_five :
    ∃ db, Exec stepTopUp (fun _ _ => True) stripeDb db ∧
      db.topUps = [stripeOrder .success 7] ∧ db.users 1 = some 1000100 ∧
      db.creditsFor "T1" = [⟨"T1", 1, 0, 1000000⟩] ∧
      ((∀ tradeNo, (db.creditsFor tradeNo).length ≤ 1) ∧
        (∀ userId, db.users userId = (stripeDb.users userId).map (· + db.credited userId)) ∧
        (∀ r, (serve db r).2 ≠ db → ∃ topUp, db.topUp? r.tradeNo = some topUp ∧
          topUp.status = .pending ∧ ((serve db r).2.credits ≠ db.credits →
            r.call = .manualCompleteTopUp ∨
              r.call.provider = some topUp.effectivePaymentProvider)) ∧
        ∀ r e, (serve db r).1 = .error e → (serve db r).2 = db) := by
  refine Exec.exists_imp_of_actions (P := fun db => db.topUps = [stripeOrder .success 7] ∧
      db.users 1 = some 1000100 ∧ db.creditsFor "T1" = [⟨"T1", 1, 0, 1000000⟩])
    [stripeRequest (.rechargeEpay "alipay") (fun _ => false),
      stripeRequest .recharge (fun stmt => stmt = .commit),
      stripeRequest .recharge (fun _ => false), stripeRequest .recharge (fun _ => false),
      stripeRequest .manualCompleteTopUp (fun _ => false)] (by decide +kernel) fun db hrun hdb => ?_
  exact ⟨hdb.1, hdb.2.1, hdb.2.2, topUp_credited_once rfl hrun⟩

end OmniRouters.Payment
