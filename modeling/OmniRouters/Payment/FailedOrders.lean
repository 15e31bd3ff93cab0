import OmniRouters.Lib.Threads
import OmniRouters.Payment.TopUp

/-!
# Orders that are marked as failed

Two handlers mark an order as failed after a failure of the payment:
`sessionAsyncPaymentFailed` (controller/topup_stripe.go:281-315) reads the order without a
row lock, and `RequestWaffoPay` (controller/topup_waffo.go:231-309) holds the row that it
has inserted. Both write the whole row back through `TopUp.Update`. `LockOrder` keeps the handlers
of one process apart; the transactions of `Payment.TopUp` run on any process.

* `Effect.settled`: a crediting transaction leaves a credited order with the status `success`.
* `credited_is_success`: an order that was credited is stored as `success`, if a row is saved
  as failed only while the stored order is pending.
* `credited_then_failed`: the order is credited by one process and saved as failed by another.
-/

namespace OmniRouters.Payment.FailedOrders

open OmniRouters.Lib

/-! ## Handlers -/

/-- The database, and the orders that are locked by `LockOrder`, with their process. -/
structure Shared where
  db : Db
  orderLocks : List (ℕ × String)

/-- Where a handler is. `owner` is the process whose lock it holds. -/
inductive Thread
  /-- A handler that takes the lock and runs a call: `fulfillOrder`, `AdminCompleteTopUp`,
      `handleWaffoPayment`. -/
  | handler (process : ℕ) (r : Request)
  /-- Before the transaction of a call. -/
  | transaction (owner : Option ℕ) (r : Request)
  /-- `sessionAsyncPaymentFailed` before the lock. -/
  | sessionAsyncPaymentFailed (process : ℕ) (tradeNo : String)
  /-- Before `GetTopUpByTradeNo`. -/
  | read (process : ℕ) (tradeNo : String)
  /-- `RequestWaffoPay` before the insert of the order. -/
  | requestWaffoPay (topUp : TopUp)
  /-- Before the answer of the payment side. -/
  | createOrder (topUp : TopUp)
  /-- Before `TopUp.Update`, with the row in memory. -/
  | update (owner : Option ℕ) (topUp : TopUp)
  | ended

/-- `UnlockOrder`. -/
def Shared.unlock (s : Shared) (owner : Option ℕ) (tradeNo : String) : Shared :=
  { s with
    orderLocks := s.orderLocks.filter fun lock => ¬ (owner = some lock.1 ∧ lock.2 = tradeNo) }

/-- The order that `RequestWaffoPay` inserts. -/
def waffoOrder (topUp : TopUp) : TopUp :=
  { topUp with
    paymentMethod := "waffo"
    paymentProvider := some .waffo
    completeTime := 0
    status := .pending }

/-- One step of a handler. `ok` says whether its statement, or the payment side, succeeds. -/
def advance (ok : Bool) (s : Shared) : Thread → Option (Shared × List Thread)
  | .handler process r =>
    if (process, r.tradeNo) ∈ s.orderLocks then none
    else some ({ s with orderLocks := (process, r.tradeNo) :: s.orderLocks },
      [.transaction (some process) r])
  | .transaction owner r =>
    some ({ s with db := (serve s.db r).2 }.unlock owner r.tradeNo, [.ended])
  | .sessionAsyncPaymentFailed process tradeNo =>
    if tradeNo = "" then some (s, [.ended])
    else if (process, tradeNo) ∈ s.orderLocks then none
    else some ({ s with orderLocks := (process, tradeNo) :: s.orderLocks },
      [.read process tradeNo])
  | .read process tradeNo =>
    match if ok then s.db.topUp? tradeNo else none with
    | none => some (s.unlock process tradeNo, [.ended])
    | some topUp =>
      if topUp.effectivePaymentProvider ≠ .stripe ∨ topUp.status ≠ .pending then
        some (s.unlock process tradeNo, [.ended])
      else some (s, [.update process topUp])
  | .requestWaffoPay topUp =>
    -- the trade number is unique
    if ok = false ∨ (s.db.topUp? topUp.tradeNo).isSome then some (s, [.ended])
    else some ({ s with db := { s.db with topUps := waffoOrder topUp :: s.db.topUps } },
      [.createOrder (waffoOrder topUp)])
  | .createOrder topUp => some (s, [if ok then .ended else .update none topUp])
  | .update owner topUp =>
    let db := if ok then s.db.saveTopUp { topUp with status := .failed } else s.db
    some ({ s with db := db }.unlock owner topUp.tradeNo, [.ended])
  | .ended => none

/-- A row is saved as failed only while the stored order is pending. -/
def SavesPending (p : Pool Shared Thread) (_ : Bool) : Thread → Prop
  | .update _ topUp => ∀ stored ∈ p.shared.db.topUp? topUp.tradeNo, stored.status = .pending
  | _ => True

instance (p : Pool Shared Thread) (ok : Bool) : (t : Thread) → Decidable (SavesPending p ok t)
  | .update _ topUp => inferInstanceAs
      (Decidable (∀ stored ∈ p.shared.db.topUp? topUp.tradeNo, stored.status = .pending))
  | .handler _ _ => isTrue trivial
  | .transaction _ _ => isTrue trivial
  | .sessionAsyncPaymentFailed _ _ => isTrue trivial
  | .read _ _ => isTrue trivial
  | .requestWaffoPay _ => isTrue trivial
  | .createOrder _ => isTrue trivial
  | .ended => isTrue trivial

/-! ## Credited orders -/

/-- An order that was credited is stored with the status `success`. -/
def Settled (db : Db) : Prop :=
  ∀ tradeNo, db.creditsFor tradeNo ≠ [] →
    ∃ topUp, db.topUp? tradeNo = some topUp ∧ topUp.status = .success

section Steps

variable {db db' : Db} {tradeNo : String} {topUp done : TopUp}

/-- An order that is stored with another status was not credited. -/
theorem Settled.not_credited (h : Settled db) (hfind : db.topUp? tradeNo = some topUp)
    (hstatus : topUp.status ≠ .success) : db.creditsFor tradeNo = [] := by
  by_contra hcredited
  obtain ⟨x, hx, hsuccess⟩ := h tradeNo hcredited
  obtain rfl := Option.some.inj (hfind.symm.trans hx)
  exact hstatus hsuccess

theorem Settled.save (h : Settled db)
    (hnone : ∀ x, db.topUp? done.tradeNo = some x → db.creditsFor done.tradeNo = []) :
    Settled (db.saveTopUp done) := by
  intro t hcredited
  obtain ⟨x, hx, hsuccess⟩ := h t hcredited
  rw [Db.topUp?_saveTopUp]
  split
  next heq =>
    subst heq
    exact absurd (hnone x hx) hcredited
  · exact ⟨x, hx, hsuccess⟩

theorem pending_ne_success (h : topUp.status = .pending) : topUp.status ≠ .success := by
  rw [h]
  exact nofun

/-- **A call** credits an order and completes it in one transaction. -/
theorem Effect.settled {call : Call} (heffect : Effect call tradeNo db db') (h : Settled db) :
    Settled db' := by
  cases heffect with
  | same => exact h
  | @status topUp target hfind hpending =>
    refine h.save fun x _ => ?_
    have htrade := Db.tradeNo_of_topUp? hfind
    exact htrade ▸ h.not_credited hfind (pending_ne_success hpending)
  | @credit topUp done quota hfind hpending hentitled hdone =>
    have htrade : done.tradeNo = tradeNo := hdone.tradeNo.trans (Db.tradeNo_of_topUp? hfind)
    intro t hcredited
    rw [Db.credit_topUp?, Db.topUp?_saveTopUp]
    split
    next heq =>
      obtain rfl : tradeNo = t := htrade.symm.trans heq
      rw [hfind]
      exact ⟨done, rfl, hdone.status⟩
    next hne =>
      rw [Db.creditsFor_credit, if_neg hne] at hcredited
      exact h t hcredited

/-- **One step** of a handler. -/
theorem advance_settled {p : Pool Shared Thread} {ok : Bool} {t : Thread} {s : Shared}
    {ts : List Thread} (h : Settled p.shared.db) (hok : SavesPending p ok t)
    (hstep : advance ok p.shared t = some (s, ts)) : Settled s.db := by
  revert hstep
  fun_cases advance ok p.shared t <;> rintro ⟨⟩
  -- steps that leave the database
  case case2 | case4 | case6 | case7 | case8 | case9 | case10 | case12 => exact h
  case case3 r => exact Effect.settled (serve_effect p.shared.db r) h
  case case11 topUp hnew =>
    simp only [not_or, Bool.not_eq_true, Option.isSome_eq_false_iff,
      Option.isNone_iff_eq_none] at hnew
    intro t hcredited
    obtain ⟨x, hx, hsuccess⟩ := h t hcredited
    refine ⟨x, ?_, hsuccess⟩
    have hne : (waffoOrder topUp).tradeNo ≠ t := by
      rintro rfl
      have hnone : p.shared.db.topUp? (waffoOrder topUp).tradeNo = none := hnew.2
      rw [hx] at hnone
      cases hnone
    unfold Db.topUp? at hx ⊢
    rw [List.find?_cons_of_neg (by simpa using hne), hx]
  case case13 =>
    cases ok with
    | false => exact h
    | true =>
      refine h.save fun x hx => ?_
      exact h.not_credited hx (pending_ne_success (hok x hx))

end Steps

/-! ## Runs -/

/-- The handlers at the start. Calls that do not take `LockOrder` are at their transaction. -/
def start (db : Db) (handlers : List Thread) : Pool Shared Thread := ⟨⟨db, []⟩, handlers⟩

/-- **Credited orders stay successful.** Any handlers and calls run on any processes. If a row is
saved as failed only while the stored order is pending, an order that was credited is stored as
`success`, and an order that is stored as failed was never credited. -/
theorem credited_is_success {db₀ : Db} (hcredits : db₀.credits = []) {handlers : List Thread}
    {p : Pool Shared Thread}
    (hrun : Exec (Pool.step advance) (Pool.Meets SavesPending) (start db₀ handlers) p) :
    (∀ tradeNo, p.shared.db.creditsFor tradeNo ≠ [] →
      ∃ topUp, p.shared.db.topUp? tradeNo = some topUp ∧ topUp.status = .success) ∧
    ∀ tradeNo topUp, p.shared.db.topUp? tradeNo = some topUp → topUp.status = .failed →
      p.shared.db.creditsFor tradeNo = [] := by
  have hsettled : Settled p.shared.db := by
    refine Pool.invariant (I := fun s _ => Settled s.db) ?_ ?_ ?_ hrun
    · exact fun s l l' _ h => h
    · exact fun p ok t s ts others hok _ h hstep => advance_settled h hok hstep
    · intro tradeNo hcredited
      exact absurd (by simp [start, Db.creditsFor, hcredits]) hcredited
  refine ⟨hsettled, fun tradeNo topUp hfind hfailed => hsettled.not_credited hfind ?_⟩
  rw [hfailed]
  decide

/-- A recharge and then the failure of the payment, on one process: the failure comes late. -/
theorem credited_is_success_on_one_process :
    ∃ p, Exec (Pool.step advance) (Pool.Meets SavesPending)
        (start stripeDb [.handler 1 (stripeRequest .recharge fun _ => false),
          .sessionAsyncPaymentFailed 1 "T1"]) p ∧
      p.shared.db.topUps = [stripeOrder .success 7] ∧
      p.shared.db.creditsFor "T1" = [⟨"T1", 1, 0, 1000000⟩] ∧
      ((∀ tradeNo, p.shared.db.creditsFor tradeNo ≠ [] →
        ∃ topUp, p.shared.db.topUp? tradeNo = some topUp ∧ topUp.status = .success) ∧
      ∀ tradeNo topUp, p.shared.db.topUp? tradeNo = some topUp → topUp.status = .failed →
        p.shared.db.creditsFor tradeNo = []) := by
  exact Exec.exists_and_and_of_actions [(0, true), (0, true), (1, true), (1, true)]
    (by decide +kernel) fun _ hrun _ _ => credited_is_success rfl hrun

/-- The failure of the payment is handled by the process 1, and the recharge by the process 2
between its read and its save: the wallet is credited, and the order is stored as failed. -/
theorem credited_then_failed :
    ∃ p, Exec (Pool.step advance) (fun _ _ => True)
        (start stripeDb [.sessionAsyncPaymentFailed 1 "T1",
          .handler 2 (stripeRequest .recharge fun _ => false)]) p ∧
      p.shared.db.topUps = [stripeOrder .failed 0] ∧ p.shared.db.users 1 = some 1000100 ∧
      p.shared.db.creditsFor "T1" = [⟨"T1", 1, 0, 1000000⟩] := by
  exact Exec.exists_of_actions [(0, true), (0, true), (1, true), (1, true), (0, true)]
    (by decide +kernel)

end OmniRouters.Payment.FailedOrders
