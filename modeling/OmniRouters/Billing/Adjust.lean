import OmniRouters.Billing.RequestLife

/-!
# Adjustments of a funding source

The settlement of a session, the direct charge of a request without one, and the later
adjustments of a task all come down to one change of one ledger. Whether it is made can be
told from the rows before the call.

* `adjustLedger_ok`: an adjustment is made if and only if the call reaches the database
  and the rows admit it.
* `Phase.settle_outcome`: the settlement of a request takes the actual quota or leaves the
  reservation, according to the same condition.
-/

namespace OmniRouters.Billing

/-! ## One ledger -/

/-- The change of a ledger by `delta`: positive to charge, negative to return. -/
def adjustLedger (s : Store) (l : Ledger) (delta : ℤ) : Bool × Store :=
  match l with
  | .wallet => if 0 < delta then decreaseUserQuota s delta else increaseUserQuota s (-delta)
  | .organization => adjustOrganizationQuota s delta
  | .subscription id => postConsumeUserSubscriptionDelta s id delta
  | .token => (false, s)

/-- The rows let the ledger change by `delta`: a wallet and an organization stay within
`MaxWalletQuota`, a subscription within its total. -/
def Rows.Admits (r : Rows) (l : Ledger) (delta : ℤ) : Prop :=
  match l with
  | .wallet => 0 < delta ∨ -delta ≤ maxWalletQuota ∧ r.userQuota ≤ maxWalletQuota + delta
  | .organization =>
    delta ≤ maxWalletQuota ∧ -maxWalletQuota ≤ delta ∧
      (0 < delta ∨ r.organization.quota ≤ maxWalletQuota + delta)
  | .subscription id =>
    ∃ sub, r.subscriptions.get? id = some sub ∧
      ¬ (0 < sub.amountTotal ∧ sub.amountTotal < (sub.amountUsed + delta).toNat)
  | .token => False

/-- A change by `delta` will be made: there is nothing to change, or the database answers
and its rows admit the change. -/
def Store.Adjusts (s : Store) (l : Ledger) (delta : ℤ) : Prop :=
  delta = 0 ∨ s.down = false ∧ s.rows.Admits l delta

/-- A statement succeeds if the database answers and the statement has a result. -/
theorem Store.exec_ok (s : Store) (tx : Rows → Option Rows) :
    (s.exec tx).1 = true ↔ s.down = false ∧ (tx s.rows).isSome = true := by
  unfold Store.exec
  cases s.down with
  | true => simp
  | false => cases tx s.rows <;> simp

variable {s : Store} {quota delta : ℤ} {l : Ledger}

theorem decreaseUserQuota_ok (hquota : 0 ≤ quota) :
    (decreaseUserQuota s quota).1 = true ↔ s.down = false := by
  rw [decreaseUserQuota, if_neg (not_lt.2 hquota), Store.exec_ok]
  simp

theorem increaseUserQuota_ok (hquota : 0 ≤ quota) :
    (increaseUserQuota s quota).1 = true ↔
      s.down = false ∧ quota ≤ maxWalletQuota ∧ s.rows.userQuota ≤ maxWalletQuota - quota := by
  unfold increaseUserQuota
  by_cases hmax : quota ≤ maxWalletQuota
  · have hif : ¬ (quota < 0 ∨ maxWalletQuota < quota) := by omega
    rw [if_neg hif, Store.exec_ok]
    by_cases hroom : s.rows.userQuota ≤ maxWalletQuota - quota <;> simp [hmax, hroom]
  · rw [if_pos (Or.inr (not_le.1 hmax))]
    simp [hmax]

theorem adjustOrganizationQuota_ok (hdelta : delta ≠ 0) :
    (adjustOrganizationQuota s delta).1 = true ↔
      s.down = false ∧ delta ≤ maxWalletQuota ∧ -maxWalletQuota ≤ delta ∧
        (0 < delta ∨ s.rows.organization.quota ≤ maxWalletQuota + delta) := by
  rw [adjustOrganizationQuota, if_neg hdelta]
  by_cases hmax : maxWalletQuota < delta ∨ delta < -maxWalletQuota
  · rw [if_pos hmax]
    simp only [Bool.false_eq_true, false_iff, not_and]
    omega
  · obtain ⟨hle, hge⟩ := not_or.1 hmax
    rw [if_neg hmax, Store.exec_ok]
    simp only [not_lt.1 hle, not_lt.1 hge, true_and]
    by_cases hpos : 0 < delta
    · simp [hpos]
    · by_cases hroom : s.rows.organization.quota ≤ maxWalletQuota + delta <;>
        simp [hpos, hroom]

theorem postConsumeUserSubscriptionDelta_ok {id : ℕ} (hdelta : delta ≠ 0) :
    (postConsumeUserSubscriptionDelta s id delta).1 = true ↔
      s.down = false ∧ ∃ sub, s.rows.subscriptions.get? id = some sub ∧
        ¬ (0 < sub.amountTotal ∧ sub.amountTotal < (sub.amountUsed + delta).toNat) := by
  unfold postConsumeUserSubscriptionDelta
  by_cases hid : id = 0
  · -- no row has the id zero
    subst hid
    rw [if_pos rfl]
    simp only [Bool.false_eq_true, false_iff, not_and, not_exists]
    intro _ sub hsub
    have hpos := s.rows.subscriptions.ids_pos sub (List.mem_of_find?_eq_some hsub)
    rw [SubscriptionTable.get?_id hsub] at hpos
    exact absurd hpos (lt_irrefl 0)
  · rw [if_neg hid, if_neg hdelta, Store.exec_ok]
    apply and_congr_right
    intro _
    cases hget : s.rows.subscriptions.get? id with
    | none => simp
    | some sub =>
      by_cases hfull : 0 < sub.amountTotal ∧ sub.amountTotal < (sub.amountUsed + delta).toNat
      · simp only [if_pos hfull]
        refine iff_of_false nofun ?_
        rintro ⟨sub', heq, hroom⟩
        cases heq
        exact hroom hfull
      · simp only [if_neg hfull]
        exact iff_of_true rfl ⟨sub, rfl, hfull⟩

theorem adjustLedger_ok (hdelta : delta ≠ 0) :
    (adjustLedger s l delta).1 = true ↔ s.down = false ∧ s.rows.Admits l delta := by
  cases l with
  | token => simp [adjustLedger, Rows.Admits]
  | organization => exact adjustOrganizationQuota_ok hdelta
  | subscription id => exact postConsumeUserSubscriptionDelta_ok hdelta
  | wallet =>
    unfold adjustLedger Rows.Admits
    by_cases hpos : 0 < delta
    · rw [if_pos hpos, decreaseUserQuota_ok hpos.le]
      simp [hpos]
    · rw [if_neg hpos, increaseUserQuota_ok (by omega), sub_neg_eq_add]
      simp [hpos]

/-- An adjustment that keeps a subscription's count above zero is made exactly, or not at
all. -/
theorem adjustLedger_applies (s : Store) (delta : ℤ) (hl : l ≠ .token)
    (hpos : ∀ id, l = .subscription id → 0 ≤ s.rows.taken l + delta) :
    Applies l delta s.rows (adjustLedger s l delta).1 (adjustLedger s l delta).2.rows := by
  cases l with
  | token => exact absurd rfl hl
  | wallet =>
    simp only [adjustLedger]
    split
    · exact (decreaseUserQuota_takes s delta).applies
    · have happ := (increaseUserQuota_takes s (-delta)).applies
      rwa [neg_neg] at happ
  | organization => exact (adjustOrganizationQuota_takes s delta).applies
  | subscription id => exact postConsumeUserSubscriptionDelta_applies s id delta (hpos id rfl)

theorem FundingSource.settle_eq (fs : FundingSource) (hdelta : delta ≠ 0)
    (s : Store) : fs.settle delta s = adjustLedger s fs.ledger delta := by
  cases fs with
  | wallet | subscription =>
    simp only [FundingSource.settle, if_neg hdelta, FundingSource.ledger, adjustLedger]
  | organization f => rfl

theorem FundingSource.settle_zero (fs : FundingSource) (s : Store) : fs.settle 0 s = (true, s) := by
  cases fs <;> rfl

/-! ## Settlement of a request -/

section Settle

variable {r0 : Rows} {rq : Request} {actual : ℤ}

/-- The fields of `RelayInfo` that a task keeps of its request. -/
def RelayInfo.SameFunding (info info' : RelayInfo) : Prop :=
  info'.organizationId = info.organizationId ∧ info'.billingSource = info.billingSource ∧
    info'.subscriptionId = info.subscriptionId

/-- What the settlement of the quota `actual` does, `reserved` being taken before: the
ledger moves to the actual quota if the adjustment is made, and stays otherwise. -/
structure SettleOutcome (r0 : Rows) (rq rq' : Request) (l : Ledger) (reserved actual : ℤ) :
    Prop where
  made : rq.store.Adjusts l (actual - reserved) →
    rq'.store.rows.taken l = r0.taken l + actual
  missed : ¬ rq.store.Adjusts l (actual - reserved) →
    rq'.store.rows.taken l = r0.taken l + reserved
  spares : Spares l r0 rq'.store.rows
  info : rq.info.SameFunding rq'.info

/-- An adjustment from the reservation to the actual quota, after which only the token's ledger is
changed. -/
theorem SettleOutcome.of_adjust {rq' : Request} {reserved : ℤ} (hl : l ≠ .token)
    (hactual : 0 ≤ actual) (htaken : rq.store.rows.taken l = r0.taken l + reserved)
    (hspares : Spares l r0 rq.store.rows) (hne : actual - reserved ≠ 0)
    (hrest : ∀ l', l' ≠ .token → rq'.store.rows.taken l' =
      (adjustLedger rq.store l (actual - reserved)).2.rows.taken l')
    (hinfo : rq.info.SameFunding rq'.info) : SettleOutcome r0 rq rq' l reserved actual := by
  have happ := adjustLedger_applies rq.store (actual - reserved) hl fun id hid => by
    subst hid
    have hused : 0 ≤ r0.taken (.subscription id) := Int.natCast_nonneg _
    omega
  have hok := adjustLedger_ok (s := rq.store) (l := l) hne
  have hsp : Spares l r0 rq'.store.rows := fun l' hne' ht =>
    (hrest l' ht).trans ((hspares.trans happ.spares) l' hne' ht)
  have hmoved := hrest l hl
  generalize adjustLedger rq.store l (actual - reserved) = res at happ hok hmoved
  obtain ⟨ok, s'⟩ := res
  refine ⟨fun hadj => ?_, fun hnot => ?_, hsp, hinfo⟩
  · obtain rfl : ok = true := hok.2 (hadj.resolve_left hne)
    have hmove := happ.moves.taken
    omega
  · obtain rfl : ok = false := Bool.eq_false_iff.2 fun h => hnot (.inr (hok.1 h))
    rw [hmoved, happ.eq]
    exact htaken

/-- Nothing is left to settle. -/
theorem SettleOutcome.of_zero {rq' : Request} {reserved : ℤ}
    (hzero : actual - reserved = 0) (htaken : rq'.store.rows.taken l = r0.taken l + reserved)
    (hspares : Spares l r0 rq'.store.rows) (hinfo : rq.info.SameFunding rq'.info) :
    SettleOutcome r0 rq rq' l reserved actual where
  made _ := by
    omega
  missed hnot := absurd (.inl hzero) hnot
  spares := hspares
  info := hinfo

variable {session : BillingSession}

/-- `Settle` of an open session. -/
theorem Open.settle_outcome (h : Open r0 (rq.state session))
    (hspares : Spares session.funding.ledger r0 rq.store.rows) (hactual : 0 ≤ actual) :
    SettleOutcome r0 rq (.ofState ((rq.state session).settle actual).2) session.funding.ledger
      session.preConsumedQuota actual := by
  have htaken : rq.store.rows.taken session.funding.ledger =
      r0.taken session.funding.ledger + session.preConsumedQuota := h.taken
  have hL := session.funding.ledger_ne_token
  unfold State.settle
  rw [if_neg (by simp [h.settled])]
  by_cases hzero : actual - (rq.state session).session.preConsumedQuota = 0
  · rw [if_pos hzero]
    exact .of_zero hzero htaken hspares ⟨rfl, rfl, rfl⟩
  rw [if_neg hzero, if_neg (by simp [h.fundingSettled]), FundingSource.settle_eq _ hzero]
  simp only [Request.state] at hzero ⊢
  generalize hres : adjustLedger rq.store session.funding.ledger _ = res
  obtain ⟨ok, s⟩ := res
  cases ok with
  | false =>
    exact .of_adjust hL hactual htaken hspares hzero (fun _ _ => by rw [hres]; rfl) ⟨rfl, rfl, rfl⟩
  | true =>
    obtain ⟨ok, s', post, heq, ht⟩ := State.finishSettle_takes
      { store := s, info := rq.info, session := { session with fundingSettled := true } }
      (actual - session.preConsumedQuota)
    simp only [Request.ofState] at heq ⊢
    rw [heq]
    refine .of_adjust hL hactual htaken hspares hzero (fun l hl => ?_) ⟨rfl, rfl, rfl⟩
    rw [hres, State.logFailure_rows, ht.tokenOnly.taken l hl]

/-- `SettleTokenBilling` of an open token-mode session, without tool usage. -/
theorem Open.settleToken_outcome (h : Open r0 (rq.state session))
    (htokens : session.TokensCounted) (hmode : session.tokenSubscription = true)
    (hspares : Spares session.funding.ledger r0 rq.store.rows) (hactual : 0 ≤ actual) :
    SettleOutcome r0 rq (.ofState ((rq.state session).settleTokenBilling actual 0).2)
      session.funding.ledger session.preConsumedQuota actual := by
  have htaken : rq.store.rows.taken session.funding.ledger =
      r0.taken session.funding.ledger + session.preConsumedQuota := h.taken
  obtain ⟨post, session', heq⟩ := h.settleTokenBilling_eq htokens hmode actual
  rw [heq]
  simp only [Request.ofState, Request.state]
  by_cases hzero : actual - session.preConsumedQuota = 0
  · rw [hzero, FundingSource.settle_zero]
    exact .of_zero hzero htaken hspares ⟨rfl, rfl, rfl⟩
  rw [FundingSource.settle_eq _ hzero]
  exact .of_adjust session.funding.ledger_ne_token hactual htaken hspares hzero (fun _ _ => rfl)
    ⟨rfl, rfl, rfl⟩

/-- The funding step of a direct charge, before any session was opened. -/
theorem postConsumeFunding_eq (hsource : rq.info.billingSource = none) (quota : ℤ) :
    postConsumeFunding rq quota = ((adjustLedger rq.store rq.directLedger quota).1,
        { rq with store := (adjustLedger rq.store rq.directLedger quota).2 }) := by
  unfold postConsumeFunding Request.directLedger
  rw [hsource]
  by_cases horg : 0 < rq.info.organizationId
  · rw [if_pos horg, if_pos horg]
    rfl
  · rw [if_neg horg, if_neg horg]
    rfl

/-- The token step of a direct charge moves no funds. -/
theorem postConsumeToken_frame (rq : Request) (quota : ℤ) :
    (∀ l, l ≠ .token → (postConsumeToken rq quota).2.store.rows.taken l = rq.store.rows.taken l) ∧
      (postConsumeToken rq quota).2.info = rq.info := by
  unfold postConsumeToken
  by_cases hplay : rq.info.isPlayground = true
  · rw [if_pos hplay]
    exact ⟨fun _ _ => rfl, rfl⟩
  rw [if_neg hplay]
  refine ⟨fun l hl => ?_, rfl⟩
  by_cases hpos : 0 < quota
  · rw [if_pos hpos]
    exact (decreaseTokenQuota_takes _ _).applies.other hl
  · rw [if_neg hpos]
    exact (increaseTokenQuota_takes _ _).applies.other hl

/-- A settlement without a session. -/
theorem Idle.settle_outcome (h : Idle r0 rq) (hactual : 0 ≤ actual) :
    SettleOutcome r0 rq (settleBilling rq actual).2 rq.directLedger
      rq.info.finalPreConsumedQuota actual := by
  have hL := rq.directLedger_ne_token
  have hspares : Spares rq.directLedger r0 rq.store.rows := fun l _ ht => h.taken l ht
  have htaken : rq.store.rows.taken rq.directLedger =
      r0.taken rq.directLedger + rq.info.finalPreConsumedQuota := by
    rw [h.finalPreConsumedQuota, add_zero]
    exact h.taken _ hL
  unfold settleBilling
  rw [h.billing]
  by_cases hzero : actual - rq.info.finalPreConsumedQuota = 0
  · rw [if_pos hzero]
    exact .of_zero hzero htaken hspares ⟨rfl, rfl, rfl⟩
  rw [if_neg hzero, postConsumeQuota, postConsumeFunding_eq h.billingSource]
  generalize hres : adjustLedger rq.store rq.directLedger _ = res
  obtain ⟨ok, s⟩ := res
  cases ok with
  | false =>
    exact .of_adjust hL hactual htaken hspares hzero (fun _ _ => by rw [hres]) ⟨rfl, rfl, rfl⟩
  | true =>
    obtain ⟨hrest, hinfo⟩ := postConsumeToken_frame { rq with store := s }
      (actual - rq.info.finalPreConsumedQuota)
    refine .of_adjust hL hactual htaken hspares hzero (fun l hl => ?_) ?_
    · rw [hres, ← hrest l hl]
    rw [hinfo]
    exact ⟨rfl, rfl, rfl⟩

/-- **Settlement.** The ledger of a request moves to the actual quota if the adjustment is
made, and stays at the reservation otherwise. -/
theorem Phase.settle_outcome (h : Phase r0 rq)
    (hlog : ∀ δ, .rollbackFundingReserve δ ∉ rq.store.log) (hactual : 0 ≤ actual) :
    SettleOutcome r0 rq (settleBilling rq actual).2 rq.fundingLedger rq.reserved actual := by
  unfold Request.fundingLedger Request.reserved
  rcases h with h | ⟨session, h⟩ | ⟨-, δ, hδ⟩
  · rw [h.billing]
    exact h.settle_outcome hactual
  · have hmode := h.mode
    unfold settleBilling
    rw [h.billing]
    simp only
    split
    next htoken =>
      rw [htoken] at hmode
      exact h.isOpen.settleToken_outcome h.tokens hmode h.spares hactual
    · exact h.isOpen.settle_outcome h.spares hactual
  · exact absurd hδ (hlog δ)

end Settle

end OmniRouters.Billing
