import OmniRouters.Subscription.Purchase

/-!
# The total of the top-ups of a user

`GetUserSuccessfulTopUpQuotaTotal` (model/topup.go:205-220) computes from the rows of
`top_ups` what the orders of a user have credited; the member tier rests on it. Each row is computed
again by `CalculateTopUpCreditedQuota` (lines 83-96), which cuts off the fraction where the
completions round, and which counts the money of a subscription bought with Stripe.

* `serve_credits`: what a completion credits, whichever gateway it is of.
* `Matched.step`: one event keeps each row equal to what it has credited.
* `topUp_total_credited`: if the products round down and no Stripe subscription counts, the total
  is what has been credited.
* `topUp_total_differs`: a product that rounds up, and a Stripe subscription.
-/

namespace OmniRouters.Payment

open Billing Lib Subscription.Purchase List Option Db

/-! ## The computation from the rows -/

/-- `decimal.IntPart`: the fraction is cut off, and the rest is an `int64`. -/
def intPart (d : ℚ) : ℤ := Int.bmod (if 0 ≤ d then d.floor else -(-d).floor) (2 ^ 64)

/-- `CalculateTopUpCreditedQuota` (lines 83-96). -/
def calculateTopUpCreditedQuota (quotaPerUnit : ℚ) (topUp : TopUp) : ℤ :=
  if topUp.status ≠ .success then 0
  else match topUp.effectivePaymentProvider with
    | .stripe => intPart (topUp.money * quotaPerUnit)
    | .creem => topUp.amount
    | _ => intPart (topUp.amount * quotaPerUnit)

/-- The rows that the total reads. -/
def TopUp.counts (userId : ℕ) (topUp : TopUp) : Bool :=
  topUp.userId = userId ∧ topUp.organizationId = 0 ∧ topUp.status = .success

/-- `GetUserSuccessfulTopUpQuotaTotal` (lines 205-220). The total is an `int64`. -/
def getUserSuccessfulTopUpQuotaTotal (quotaPerUnit : ℚ) (topUps : List TopUp) (userId : ℕ) : ℤ :=
  (topUps.filter (·.counts userId)).foldl
    (fun total topUp => Int.bmod (total + calculateTopUpCreditedQuota quotaPerUnit topUp) (2 ^ 64))
    0

/-! ## What a completion credits -/

/-- The quota that a provider credits for an order, before it is rounded. -/
def TopUp.productFor (quotaPerUnit : ℚ) (topUp : TopUp) : Provider → ℚ
  | .stripe => topUp.money * quotaPerUnit
  | .creem => topUp.amount
  | _ => topUp.amount * quotaPerUnit

def TopUp.product (quotaPerUnit : ℚ) (topUp : TopUp) : ℚ :=
  topUp.productFor quotaPerUnit topUp.effectivePaymentProvider

/-- A pending order is completed, and the rounded product is credited. -/
def Credits (quotaPerUnit : ℚ) (tradeNo : String) (db db' : Db) : Prop :=
  ∃ topUp done quota, db.topUp? tradeNo = some topUp ∧ topUp.status = .pending ∧
    positiveQuota (topUp.product quotaPerUnit) = some quota ∧
    done.product quotaPerUnit = topUp.product quotaPerUnit ∧ Completed topUp done ∧
    db' = (db.saveTopUp done).credit done quota

section Cases

variable {db db' : Db} {tradeNo : String} {fails : Stmt → Bool} {quotaPerUnit : ℚ}

/-- A gateway that accepts the orders of one provider. -/
theorem product_of_provider {topUp : TopUp} {provider : Provider}
    (h : topUp.effectivePaymentProvider = provider) :
    topUp.product quotaPerUnit = topUp.productFor quotaPerUnit provider := by
  rw [TopUp.product, h]

theorem completeTx_credits {c : Completion} {now : ℤ} {alreadyDone : Bool}
    (hquota : ∀ topUp, c.accepts topUp = true →
      c.quota topUp = positiveQuota (topUp.product quotaPerUnit))
    (hprovider : ∀ topUp, c.accepts topUp = true →
      topUp.paymentProvider.getD (paymentProviderFromMethod (c.paymentMethod topUp)) =
        topUp.effectivePaymentProvider)
    (h : completeTx c now fails db tradeNo = .ok (alreadyDone, db')) :
    db' = db ∨ Credits quotaPerUnit tradeNo db db' := by
  obtain hsame | ⟨topUp, done, quota, hfind, haccepts, hpending, hc, rfl, rfl⟩ := completeTx_ok h
  · exact .inl hsame
  have hproduct : ({ topUp with
      paymentMethod := c.paymentMethod topUp
      completeTime := now
      status := .success } : TopUp).product quotaPerUnit = topUp.product quotaPerUnit :=
    product_of_provider (hprovider topUp haccepts)
  rw [hquota topUp haccepts] at hc
  exact .inr ⟨topUp, _, quota, hfind, hpending, hc, hproduct, ⟨rfl, rfl, rfl, rfl⟩, rfl⟩

/-- **What a call credits.** -/
theorem serve_credits (db : Db) (r : Request) :
    (serve db r).2 = db ∨
      (∃ expected target topUp, r.call = .updatePendingTopUpStatus expected target ∧
        db.topUp? r.tradeNo = some topUp ∧ topUp.status = .pending ∧
        (serve db r).2 = db.saveTopUp { topUp with status := target }) ∨
      Credits r.quotaPerUnit r.tradeNo db (serve db r).2 := by
  fun_cases serve db r
  case case1 | case2 => exact .inl rfl
  rename_i alreadyDone db' _ htx
  revert htx
  fun_cases r.tx db <;> intro htx
  case case1 =>
    refine (completeTx_credits (fun topUp hacc => ?_) (fun topUp hacc => ?_) htx).imp id .inr
    · have hprovider : topUp.paymentProvider = some .epay := of_decide_eq_true hacc
      have heffective : topUp.effectivePaymentProvider = .epay := by
        rw [TopUp.effectivePaymentProvider, hprovider]
        rfl
      rw [product_of_provider heffective]
      rfl
    · have hprovider : topUp.paymentProvider = some .epay := of_decide_eq_true hacc
      simp [TopUp.effectivePaymentProvider, hprovider]
  case case2 | case3 | case4 | case5 =>
    refine (completeTx_credits (fun topUp hacc => ?_) (fun _ _ => rfl) htx).imp id .inr
    rw [product_of_provider (of_decide_eq_true hacc)]
    rfl
  case case6 =>
    refine (completeTx_credits (fun topUp _ => ?_) (fun _ _ => rfl) htx).imp id .inr
    dsimp only [manualCompleteTopUp]
    rw [TopUp.product]
    cases topUp.effectivePaymentProvider <;> rfl
  case case7 expected target hcall =>
    obtain ⟨topUp, hfind, hpending, rfl⟩ := updatePending_ok htx
    exact .inr (.inl ⟨expected, target, topUp, hcall, hfind, hpending, rfl⟩)

end Cases

/-! ## Rows -/

def RoundsDown (quotaPerUnit : ℚ) (topUp : TopUp) : Prop :=
  Int.fract (topUp.product quotaPerUnit) < 1 / 2

variable {d quotaPerUnit : ℚ} {quota : ℤ} {topUp : TopUp} {db : Db}

theorem positiveQuota_eq_some (h : positiveQuota d = some quota) :
    roundHalfAway d = quota ∧ 0 < quota ∧ quota ≤ maxWalletQuota := by
  obtain ⟨hquota, hpos⟩ := filter_eq_some_iff.1 h
  unfold walletQuotaFromDecimalStrict at hquota
  split at hquota
  · cases hquota
  next hrange =>
    cases hquota
    exact ⟨rfl, of_decide_eq_true hpos, by omega⟩

/-- A positive product that rounds down is rounded to its integer part. -/
theorem floor_of_positiveQuota (h : positiveQuota d = some quota) (hdown : Int.fract d < 1 / 2) :
    0 ≤ d ∧ d.floor = quota := by
  obtain ⟨hround, hpos, -⟩ := positiveQuota_eq_some h
  unfold roundHalfAway at hround
  split at hround
  next hd =>
    refine ⟨hd, ?_⟩
    have hsplit := Int.floor_add_fract d
    rw [← hround]
    refine ((Int.floor_eq_iff (a := d + 1 / 2)).2 ⟨?_, ?_⟩).symm
    · have hle := Int.floor_le d
      change ((⌊d⌋ : ℤ) : ℚ) ≤ d + 1 / 2
      linarith
    · change d + 1 / 2 < ((⌊d⌋ : ℤ) : ℚ) + 1
      linarith
  next hd =>
    have hfloor : 0 ≤ (-d + 1 / 2).floor := Rat.le_floor_iff.2 (by push_cast; linarith)
    omega

theorem intPart_eq (hd : 0 ≤ d) (hle : d.floor ≤ maxWalletQuota) : intPart d = d.floor := by
  have hnonneg : 0 ≤ d.floor := Rat.le_floor_iff.2 (by push_cast; exact hd)
  unfold maxWalletQuota at hle
  rw [intPart, if_pos hd]
  exact Int.bmod_eq_of_le (by omega) (by omega)

/-- **A complete order** is computed as it was credited, if its product rounds down. -/
theorem calculate_of_roundsDown (hstatus : topUp.status = .success)
    (hquota : positiveQuota (topUp.product quotaPerUnit) = some quota)
    (hdown : RoundsDown quotaPerUnit topUp) :
    calculateTopUpCreditedQuota quotaPerUnit topUp = quota := by
  obtain ⟨hnonneg, hfloor⟩ := floor_of_positiveQuota hquota hdown
  have hint : intPart (topUp.product quotaPerUnit) = quota := by
    rw [intPart_eq hnonneg (hfloor ▸ (positiveQuota_eq_some hquota).2.2), hfloor]
  unfold calculateTopUpCreditedQuota
  rw [if_neg (not_not.2 hstatus)]
  unfold TopUp.product at hint hfloor
  cases hprovider : topUp.effectivePaymentProvider with
  | creem =>
    rw [hprovider] at hfloor
    dsimp only [TopUp.productFor] at hfloor ⊢
    rw [← hfloor, Rat.floor_intCast]
  | _ =>
    rw [hprovider] at hint
    exact hint

theorem calculate_of_status (h : topUp.status ≠ .success) :
    calculateTopUpCreditedQuota quotaPerUnit topUp = 0 :=
  if_pos h

/-! ## Histories -/

/-- What happens to the orders: a new order, a call on an order, and the completion of a
subscription order, which credits no wallet. -/
inductive Event
  | place (topUp : TopUp)
  | request (r : Request)
  | subscription (now : ℤ) (order : SubscriptionOrder)

/-- One event. The trade numbers are unique. -/
def stepHistory (db : Db) : Event → Option Db
  | .place topUp =>
    if (db.topUp? topUp.tradeNo).isSome ∨ topUp.status ≠ .pending then none
    else some { db with topUps := topUp :: db.topUps }
  | .request r => some (serve db r).2
  | .subscription now order =>
    (upsertSubscriptionTopUpTx now db.topUps order).map fun topUps => { db with topUps := topUps }

/-- The call marks an order as paid without a credit. -/
def Call.marksSuccess : Call → Bool
  | .updatePendingTopUpStatus _ .success => true
  | _ => false

/-- The condition on an event. A call runs with the quota per unit of the total, its order rounds
down, and it does not mark an order as paid without a credit. A subscription has a trade number
of its own, and one bought with Stripe costs less than a quota. -/
def Matches (quotaPerUnit : ℚ) (db : Db) : Event → Prop
  | .place _ => True
  | .request r => r.quotaPerUnit = quotaPerUnit ∧
    r.call.marksSuccess = false ∧
    ∀ topUp ∈ db.topUp? r.tradeNo, RoundsDown quotaPerUnit topUp
  | .subscription _ order => db.topUp? order.tradeNo = none ∧
    (order.effectivePaymentProvider = .stripe →
      0 ≤ order.money * quotaPerUnit ∧ order.money * quotaPerUnit < 1)

instance (quotaPerUnit : ℚ) (topUp : TopUp) : Decidable (RoundsDown quotaPerUnit topUp) :=
  inferInstanceAs (Decidable (_ < _))

instance (quotaPerUnit : ℚ) (db : Db) : (event : Event) → Decidable (Matches quotaPerUnit db event)
  | .place _ => isTrue trivial
  | .request _ => inferInstanceAs (Decidable (_ ∧ _ ∧ _))
  | .subscription _ _ => inferInstanceAs (Decidable (_ ∧ (_ → _)))

/-- What a row adds to the total of a user. -/
def TopUp.share (quotaPerUnit : ℚ) (userId : ℕ) (topUp : TopUp) : ℤ :=
  if topUp.organizationId = 0 ∧ topUp.userId = userId then
    calculateTopUpCreditedQuota quotaPerUnit topUp
  else 0

/-- The invariant: each row is computed as it was credited, and so is their total. -/
structure Matched (quotaPerUnit : ℚ) (db : Db) : Prop where
  sound : db.Sound
  keys : (db.topUps.map TopUp.tradeNo).Nodup
  rows : ∀ tradeNo, (db.topUp? tradeNo = none → db.creditsFor tradeNo = []) ∧
    ∀ topUp ∈ db.topUp? tradeNo, calculateTopUpCreditedQuota quotaPerUnit topUp =
      ((db.creditsFor tradeNo).map Credit.quota).sum
  total : ∀ userId, (db.topUps.map (TopUp.share quotaPerUnit userId)).sum = db.credited userId
  positive : ∀ c ∈ db.credits, 0 < c.quota

section Step

variable {quotaPerUnit : ℚ} {db db' : Db} {tradeNo : String} {topUp : TopUp}

theorem mem_of_topUp? (h : db.topUp? tradeNo = some topUp) : topUp ∈ db.topUps :=
  mem_of_find?_eq_some h

theorem share_of_status {userId : ℕ} (h : topUp.status ≠ .success) :
    topUp.share quotaPerUnit userId = 0 := by
  unfold TopUp.share
  rw [calculate_of_status h, ite_self]

section

variable (h : Matched quotaPerUnit db)

include h

/-- A new row that counts as nothing. -/
theorem Matched.add (hnew : db.topUp? topUp.tradeNo = none)
    (hzero : calculateTopUpCreditedQuota quotaPerUnit topUp = 0) :
    Matched quotaPerUnit { db with topUps := topUp :: db.topUps } := by
  have hfind (t : String) : topUp? { db with topUps := topUp :: db.topUps } t =
      if topUp.tradeNo = t then some topUp else db.topUp? t := by
    unfold topUp?
    rw [find?_cons]
    split
    next heq =>
      rw [if_pos (of_decide_eq_true heq)]
    next hne =>
      rw [if_neg (of_decide_eq_false hne)]
  have hnone : db.creditsFor topUp.tradeNo = [] := (h.rows topUp.tradeNo).1 hnew
  refine ⟨⟨h.sound.once, fun t x hx hstatus => ?_⟩, ?_, fun t => ⟨fun hx => ?_, fun x hx => ?_⟩,
    fun userId => ?_, h.positive⟩
  · rw [hfind] at hx
    split at hx
    next heq =>
      exact heq ▸ hnone
    · exact h.sound.pending t x hx hstatus
  · rw [map_cons, nodup_cons]
    refine ⟨fun hmem => ?_, h.keys⟩
    obtain ⟨row, hrow, hkey⟩ := List.mem_map.1 hmem
    exact absurd hkey (by simpa using find?_eq_none.1 hnew row hrow)
  · rw [hfind] at hx
    split at hx
    · cases hx
    · exact (h.rows t).1 hx
  · rw [hfind] at hx
    split at hx
    next heq =>
      cases hx
      subst heq
      rw [hzero]
      change 0 = ((db.creditsFor _).map Credit.quota).sum
      rw [hnone]
      rfl
    · exact (h.rows t).2 x hx
  · rw [map_cons, sum_cons, TopUp.share, hzero, ite_self, zero_add]
    exact h.total userId

theorem sum_share_saveTopUp {done : TopUp} (userId : ℕ) (hfind : db.topUp? tradeNo = some topUp)
    (hpending : topUp.status = .pending) (hdone : done.tradeNo = topUp.tradeNo) :
    ((db.saveTopUp done).topUps.map (TopUp.share quotaPerUnit userId)).sum =
      db.credited userId + done.share quotaPerUnit userId := by
  have hsum := sum_map_replace (TopUp.share quotaPerUnit userId) h.keys
    (mem_of_topUp? hfind) hdone.symm
  rw [share_of_status (by simp [hpending]), sub_zero, h.total] at hsum
  exact hsum

theorem Matched.status {target : OrderStatus} (hfind : db.topUp? tradeNo = some topUp)
    (hpending : topUp.status = .pending) (htarget : target ≠ .success) :
    Matched quotaPerUnit (db.saveTopUp { topUp with status := target }) := by
  have htrade := tradeNo_of_topUp? hfind
  have heffect : Effect .manualCompleteTopUp tradeNo db
      (db.saveTopUp { topUp with status := target }) := .status target hfind hpending
  refine ⟨heffect.sound h.sound, ?_, fun t => ⟨fun hx => ?_, fun x hx => ?_⟩, fun userId => ?_,
    h.positive⟩
  · exact (map_key_replace TopUp.tradeNo _ db.topUps).symm ▸ h.keys
  · rw [topUp?_saveTopUp] at hx
    split at hx
    · exact (h.rows t).1 (map_eq_none_iff.1 hx)
    · exact (h.rows t).1 hx
  · rw [topUp?_saveTopUp] at hx
    split at hx
    next heq =>
      obtain ⟨y, -, rfl⟩ := map_eq_some_iff.1 hx
      obtain rfl : tradeNo = t := htrade.symm.trans heq
      rw [calculate_of_status htarget]
      change 0 = ((db.creditsFor tradeNo).map Credit.quota).sum
      rw [h.sound.pending tradeNo topUp hfind hpending]
      rfl
    · exact (h.rows t).2 x hx
  · refine (sum_share_saveTopUp h userId hfind hpending ?_).trans ?_
    · rfl
    · rw [share_of_status htarget, add_zero]
      rfl

end

theorem Db.credit_topUps {quota : ℤ} : (db.credit topUp quota).topUps = db.topUps := by
  unfold Db.credit
  split <;> rfl

/-- An order is completed and credited. -/
theorem Matched.credit (h : Matched quotaPerUnit db)
    (hdown : ∀ topUp ∈ db.topUp? tradeNo, RoundsDown quotaPerUnit topUp)
    (hcredits : Credits quotaPerUnit tradeNo db db') : Matched quotaPerUnit db' := by
  obtain ⟨topUp, done, quota, hfind, hpending, hquota, hproduct, hdone, rfl⟩ := hcredits
  have htrade : done.tradeNo = tradeNo := hdone.tradeNo.trans (tradeNo_of_topUp? hfind)
  have hnone : (db.saveTopUp done).creditsFor tradeNo = [] :=
    h.sound.pending tradeNo topUp hfind hpending
  have hcalculated : calculateTopUpCreditedQuota quotaPerUnit done = quota := by
    refine calculate_of_roundsDown hdone.status (hproduct ▸ hquota) ?_
    unfold RoundsDown
    rw [hproduct]
    exact hdown topUp hfind
  have heffect : Effect .manualCompleteTopUp tradeNo db
      ((db.saveTopUp done).credit done quota) :=
    .credit quota hfind hpending (.inl rfl) hdone
  refine ⟨heffect.sound h.sound, ?_, fun t => ⟨fun hx => ?_, fun x hx => ?_⟩, fun userId => ?_,
    fun c hc => ?_⟩
  · rw [credit_topUps]
    exact (map_key_replace TopUp.tradeNo _ db.topUps).symm ▸ h.keys
  · rw [credit_topUp?, topUp?_saveTopUp] at hx
    rw [creditsFor_credit]
    split at hx
    next heq =>
      obtain rfl : tradeNo = t := htrade.symm.trans heq
      rw [map_eq_none_iff, hfind] at hx
      cases hx
    next hne =>
      rw [if_neg hne]
      exact (h.rows t).1 hx
  · rw [credit_topUp?, topUp?_saveTopUp] at hx
    rw [creditsFor_credit]
    split at hx
    next heq =>
      obtain ⟨y, -, rfl⟩ := map_eq_some_iff.1 hx
      rw [if_pos heq, ← heq, htrade, hnone, hcalculated]
      simp
    next hne =>
      rw [if_neg hne]
      exact (h.rows t).2 x hx
  · rw [credit_topUps, sum_share_saveTopUp h userId hfind hpending hdone.tradeNo]
    unfold credited
    rw [credit_credits, map_cons, sum_cons, TopUp.share, hcalculated, add_comm]
    rfl
  · rw [credit_credits] at hc
    rcases mem_cons.1 hc with rfl | hc
    · exact (positiveQuota_eq_some hquota).2.1
    · exact h.positive c hc

/-- The new row of a subscription counts as nothing, unless it was bought with Stripe for a quota or
more. -/
theorem upsert_counts_nothing {now : ℤ} {order : SubscriptionOrder} {topUps : List TopUp}
    (hstripe : order.effectivePaymentProvider = .stripe →
      0 ≤ order.money * quotaPerUnit ∧ order.money * quotaPerUnit < 1)
    (hnew : db.topUp? order.tradeNo = none)
    (h : upsertSubscriptionTopUpTx now db.topUps order = some topUps) :
    ∃ topUp, topUps = topUp :: db.topUps ∧ topUp.tradeNo = order.tradeNo ∧
      calculateTopUpCreditedQuota quotaPerUnit topUp = 0 := by
  unfold upsertSubscriptionTopUpTx at h
  unfold topUp? at hnew
  rw [hnew] at h
  cases h
  refine ⟨_, rfl, rfl, ?_⟩
  dsimp only [calculateTopUpCreditedQuota, TopUp.effectivePaymentProvider, getD_some]
  rw [if_neg (not_not.2 rfl)]
  cases hprovider : order.effectivePaymentProvider with
  | stripe =>
    obtain ⟨hnonneg, hlt⟩ := hstripe hprovider
    have hfloor : (order.money * quotaPerUnit).floor = 0 :=
      Int.floor_eq_zero_iff.2 ⟨hnonneg, hlt⟩
    rw [intPart_eq hnonneg (by rw [hfloor]; decide), hfloor]
  | creem => rfl
  | _ =>
    rw [Int.cast_zero, zero_mul]
    rfl

/-- **One event** keeps each row equal to what it has credited. -/
theorem Matched.step {event : Event} (h : Matched quotaPerUnit db)
    (hmatches : Matches quotaPerUnit db event) (hstep : stepHistory db event = some db') :
    Matched quotaPerUnit db' := by
  cases event with
  | place topUp =>
    dsimp only [stepHistory] at hstep
    split at hstep
    · cases hstep
    rename_i hfree
    cases hstep
    have hpending : topUp.status = .pending := by
      by_contra hstatus
      exact hfree (.inr hstatus)
    refine h.add ?_ (calculate_of_status (by simp [hpending]))
    exact not_isSome_iff_eq_none.1 fun hsome => hfree (.inl hsome)
  | request r =>
    obtain ⟨rfl, htarget, hdown⟩ := hmatches
    cases hstep
    obtain hsame | ⟨expected, target, topUp, hcall, hfind, hpending, hstatus⟩ | hcredits :=
      serve_credits db r
    · rw [hsame]
      exact h
    · rw [hstatus]
      refine h.status hfind hpending ?_
      rintro rfl
      rw [hcall] at htarget
      cases htarget
    · exact h.credit hdown hcredits
  | subscription now order =>
    obtain ⟨hnew, hstripe⟩ := hmatches
    obtain ⟨topUps, hupsert, rfl⟩ := map_eq_some_iff.1 hstep
    obtain ⟨topUp, rfl, htrade, hzero⟩ := upsert_counts_nothing hstripe hnew hupsert
    exact h.add (htrade ▸ hnew) hzero

/-- The wallets change by the credits. -/
theorem balanced_step {db₀ : Db} {event : Event} (h : Db.Balanced db₀ db)
    (hstep : stepHistory db event = some db') : Db.Balanced db₀ db' := by
  cases event with
  | place topUp =>
    dsimp only [stepHistory] at hstep
    split at hstep
    · cases hstep
    · cases hstep
      exact h
  | request r =>
    cases hstep
    exact (serve_effect db r).balanced h
  | subscription now order =>
    obtain ⟨topUps, -, rfl⟩ := map_eq_some_iff.1 hstep
    exact h

end Step

/-! ## The total -/

theorem foldl_bmod {α : Type*} (f : α → ℤ) (n : ℕ) (xs : List α) (start : ℤ) :
    xs.foldl (fun total x => Int.bmod (total + f x) n) (Int.bmod start n) =
      Int.bmod (start + (xs.map f).sum) n := by
  induction xs generalizing start with
  | nil => simp
  | cons x xs ih =>
    rw [foldl_cons, Int.bmod_add_bmod, ih, map_cons, sum_cons, add_assoc]

/-- The rows that the total reads are those that count for the user. -/
theorem sum_counts (quotaPerUnit : ℚ) (userId : ℕ) (topUps : List TopUp) :
    ((topUps.filter (·.counts userId)).map (calculateTopUpCreditedQuota quotaPerUnit)).sum =
      (topUps.map (TopUp.share quotaPerUnit userId)).sum := by
  induction topUps with
  | nil => rfl
  | cons topUp topUps ih =>
    rw [map_cons, sum_cons, ← ih]
    by_cases hcounts : topUp.counts userId = true
    · rw [filter_cons_of_pos hcounts, map_cons, sum_cons]
      obtain ⟨huser, horg, -⟩ := of_decide_eq_true hcounts
      rw [TopUp.share, if_pos ⟨horg, huser⟩]
    · rw [filter_cons_of_neg hcounts]
      have hzero : topUp.share quotaPerUnit userId = 0 := by
        by_cases howner : topUp.organizationId = 0 ∧ topUp.userId = userId
        · refine share_of_status fun hstatus => hcounts ?_
          exact decide_eq_true ⟨howner.2, howner.1, hstatus⟩
        · exact if_neg howner
      rw [hzero, zero_add]

theorem Matched.credited_nonneg (h : Matched quotaPerUnit db) (userId : ℕ) :
    0 ≤ db.credited userId := by
  refine sum_nonneg fun x hx => ?_
  obtain ⟨c, hc, rfl⟩ := List.mem_map.1 hx
  split
  · exact (h.positive c hc).le
  · exact le_rfl

/-- No order is complete yet. -/
structure NoneComplete (db : Db) : Prop where
  credits : db.credits = []
  keys : (db.topUps.map TopUp.tradeNo).Nodup
  status : ∀ topUp ∈ db.topUps, topUp.status ≠ .success

theorem NoneComplete.matched (h : NoneComplete db) : Matched quotaPerUnit db := by
  have hnone (t : String) : db.creditsFor t = [] := by simp [creditsFor, h.credits]
  refine ⟨(Db.start_sound h.credits).1, h.keys, fun t => ⟨fun _ => hnone t, fun topUp hfind => ?_⟩,
    fun userId => ?_, ?_⟩
  · rw [hnone, calculate_of_status (h.status topUp (mem_of_topUp? hfind))]
    rfl
  · rw [credited, h.credits]
    refine sum_eq_zero fun x hx => ?_
    obtain ⟨topUp, htopUp, rfl⟩ := List.mem_map.1 hx
    exact share_of_status (h.status topUp htopUp)
  · rw [h.credits]
    exact forall_mem_nil _

/-- **The total is what was credited.** In every history whose events meet the condition, each row
is computed as the quota that its order has credited, and the total of a user, as long as it is
an `int64`, is what the wallet of the user has received. -/
theorem topUp_total_credited {quotaPerUnit : ℚ} {db₀ db : Db} (hstart : NoneComplete db₀)
    (hrun : Exec stepHistory (Matches quotaPerUnit) db₀ db) :
    (∀ tradeNo, ∀ topUp ∈ db.topUp? tradeNo, calculateTopUpCreditedQuota quotaPerUnit topUp =
        ((db.creditsFor tradeNo).map Credit.quota).sum) ∧
      ∀ userId, db.users userId = (db₀.users userId).map (· + db.credited userId) ∧
        (db.credited userId < 2 ^ 63 →
          getUserSuccessfulTopUpQuotaTotal quotaPerUnit db.topUps userId = db.credited userId) := by
  have hinv : Matched quotaPerUnit db ∧ Db.Balanced db₀ db := by
    refine Exec.invariant (I := fun db => Matched quotaPerUnit db ∧ Db.Balanced db₀ db)
      (fun db event db' hdb hmatches hstep => ?_)
      ⟨hstart.matched, (Db.start_sound hstart.credits).2⟩ hrun
    exact ⟨hdb.1.step hmatches hstep, balanced_step hdb.2 hstep⟩
  refine ⟨fun tradeNo => (hinv.1.rows tradeNo).2, fun userId => ⟨hinv.2 userId, fun hfits => ?_⟩⟩
  have hnonneg := hinv.1.credited_nonneg userId
  calc getUserSuccessfulTopUpQuotaTotal quotaPerUnit db.topUps userId
      = Int.bmod (0 + ((db.topUps.filter (·.counts userId)).map
          (calculateTopUpCreditedQuota quotaPerUnit)).sum) (2 ^ 64) := foldl_bmod _ _ _ 0
    _ = Int.bmod (db.credited userId) (2 ^ 64) := by rw [zero_add, sum_counts, hinv.1.total]
    _ = db.credited userId := Int.bmod_eq_of_le (by omega) (by omega)

/-- A pending order of the user 1. -/
def pendingTopUp (tradeNo : String) (amount : ℤ) (money : ℚ) (provider : Provider) : TopUp :=
  ⟨tradeNo, 1, 0, amount, money, "", some provider, 0, .pending⟩

/-- Pending orders of the user 1, whose wallet is empty. -/
def ordersOfUser (topUps : List TopUp) : Db :=
  ⟨topUps, fun userId => if userId = 1 then some 0 else none, fun _ => none, []⟩

/-- A call on an order, with 500000 quota for a unit. -/
def callOn (call : Call) (tradeNo : String) : Event :=
  .request ⟨call, tradeNo, 500000, 7, fun _ => false⟩

/-- A subscription order of the user 1 for ten units. -/
def subscriptionFor (provider : Provider) : SubscriptionOrder :=
  ⟨"s1", 1, 10, "", some provider, .pending, 0, ""⟩

/-- Orders of three gateways, one of them for a price with cents, and a subscription. -/
def threeGateways : Db := ordersOfUser [pendingTopUp "e" 2 14 .epay,
  pendingTopUp "p" 10 (999 / 100) .stripe, pendingTopUp "c" 800 5 .creem]

theorem topUp_total_credited_three :
    ∃ db, Exec stepHistory (Matches 500000) threeGateways db ∧
      db.topUps.length = 4 ∧ db.users 1 = some 5995800 ∧
      getUserSuccessfulTopUpQuotaTotal 500000 db.topUps 1 = db.credited 1 := by
  refine Exec.exists_imp_of_actions (P := fun db => db.topUps.length = 4 ∧
      db.users 1 = some 5995800 ∧ db.credited 1 < 2 ^ 63)
    [callOn (.rechargeEpay "alipay") "e", callOn .recharge "p", callOn (.rechargeCreem "") "c",
      .subscription 8 (subscriptionFor .epay)] (by decide +kernel) fun db hrun hdb => ?_
  exact ⟨hdb.1, hdb.2.1, ((topUp_total_credited ⟨rfl, by decide, by decide⟩ hrun).2 1).2 hdb.2.2⟩

/-- A Stripe order whose product is one and a half is credited with two and counted as one, and a
Stripe subscription is counted though it credits nothing. -/
theorem topUp_total_differs :
    NoneComplete (ordersOfUser [pendingTopUp "p" 1 (3 / 1000000) .stripe]) ∧
      (∃ db, Exec stepHistory (fun _ _ => True)
          (ordersOfUser [pendingTopUp "p" 1 (3 / 1000000) .stripe]) db ∧
        db.credited 1 = 2 ∧ getUserSuccessfulTopUpQuotaTotal 500000 db.topUps 1 = 1) ∧
      ∃ db, Exec stepHistory (fun _ _ => True) (ordersOfUser []) db ∧
        db.credited 1 = 0 ∧ getUserSuccessfulTopUpQuotaTotal 500000 db.topUps 1 = 5000000 := by
  refine ⟨⟨rfl, by decide, by decide⟩, ?_, ?_⟩
  · exact Exec.exists_of_actions [callOn .recharge "p"] (by decide +kernel)
  · exact Exec.exists_of_actions [.subscription 8 (subscriptionFor .stripe)] (by decide +kernel)

end OmniRouters.Payment
