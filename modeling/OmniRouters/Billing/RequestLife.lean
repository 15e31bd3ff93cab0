import OmniRouters.Billing.Settlement

/-!
# The life of a request's billing

A request of any kind of key, from its first reservation to its settlement or
refund. It is idle until a session is opened for it, then it holds what the
session has reserved, unless a rollback of a reservation failed on the way.

* `Phase.preConsumeBilling`, `Phase.reserve`: further reservations keep a request
  to its phases.
* `Phase.settle`: a settlement takes the actual quota.
* `Phase.refund`: a refund gives back everything.
-/

namespace OmniRouters.Billing

open Request State

/-! ## Phases -/

/-- Nothing has been taken for the request since the rows `r0`. -/
structure Idle (r0 : Rows) (rq : Request) : Prop where
  billing : rq.billing = none
  billingSource : rq.info.billingSource = none
  finalPreConsumedQuota : rq.info.finalPreConsumedQuota = 0
  record : rq.store.rows.record = none
  log : .refundBillingSource ∉ rq.store.log ∧ .refundExtraReserved ∉ rq.store.log
  taken : ∀ l, l ≠ .token → rq.store.rows.taken l = r0.taken l

/-- The request's session holds its reservation, relative to the rows `r0`. -/
structure Holding (r0 : Rows) (rq : Request) (session : BillingSession) : Prop where
  billing : rq.billing = some session
  isOpen : Open r0 (rq.state session)
  spares : Spares session.funding.ledger r0 rq.store.rows
  tokens : session.TokensCounted
  mode : session.tokenSubscription = rq.info.isTokenSubscriptionRequest
  billingSource : rq.info.billingSource = some session.funding.source
  subscriptionId : ∀ f, session.funding = .subscription f →
    rq.info.subscriptionId = f.subscriptionId ∧ 0 < f.subscriptionId
  fundedBy : rq.info.FundedBy session.funding.source

/-- A rollback of a reservation has failed. -/
def Lost (rq : Request) : Prop :=
  rq.billing.isSome = true ∧ ∃ δ, .rollbackFundingReserve δ ∈ rq.store.log

/-- The phases of a request before it is settled or refunded. -/
def Phase (r0 : Rows) (rq : Request) : Prop :=
  Idle r0 rq ∨ (∃ session, Holding r0 rq session) ∨ Lost rq

variable {r0 : Rows} {rq : Request} {session : BillingSession} {line : LogLine} {st : State}
  {actual : ℤ} {l : Ledger}

theorem Funded.holding {r0' : Rows} {info : RelayInfo} (h : Funded r0 info rq session)
    (hr : ∀ l, l ≠ .token → r0.taken l = r0'.taken l)
    (hsource : info.FundedBy session.funding.source) : Holding r0' rq session where
  billing := h.billing
  isOpen := by
    refine { h.isOpen with taken := ?_ }
    rw [h.isOpen.taken, hr _ (rq.state session).session.funding.ledger_ne_token]
  spares l hl ht := by rw [h.spares l hl ht, hr l ht]
  tokens := h.tokens
  mode := h.mode.trans (RelayInfo.isTokenSubscriptionRequest_of_fixed h.fixed).symm
  billingSource := h.billingSource
  subscriptionId := h.subscriptionId
  fundedBy := by
    unfold RelayInfo.FundedBy at hsource ⊢
    rw [RelayInfo.organizationId_of_fixed h.fixed]
    exact hsource

theorem Unfunded.idle {rq' : Request} (h : Unfunded rq rq') (hidle : Idle r0 rq) : Idle r0 rq' where
  billing := h.billing
  billingSource := by
    rw [h.info]
    exact hidle.billingSource
  finalPreConsumedQuota := by
    rw [h.info]
    exact hidle.finalPreConsumedQuota
  record := h.record.trans hidle.record
  log := h.log_refund hidle.log
  taken l hl := (h.taken l hl).trans (hidle.taken l hl)

/-! ## Reservations -/

theorem Lost.reserve (h : Lost rq) (session : BillingSession) (target : ℤ) (req : Bool) :
    Lost (.ofState ((rq.state session).reserve target req).2) := by
  have hroll : RollbackFailed (rq.state session) := h.2
  refine ⟨rfl, ?_⟩
  cases req with
  | false => exact hroll.step 0 (.reserve target)
  | true => exact hroll.step 0 (.reserveBeforeSubmit target)

/-- A reservation keeps what the request holds, unless its rollback fails. -/
theorem Holding.reserve (h : Holding r0 rq session) (target : ℤ) (req : Bool) :
    (∃ session', Holding r0 (.ofState ((rq.state session).reserve target req).2) session') ∨
      Lost (.ofState ((rq.state session).reserve target req).2) := by
  by_cases hroll : ∃ δ, .rollbackFundingReserve δ ∈
      ((rq.state session).reserve target req).2.store.log
  · exact .inr ⟨rfl, hroll⟩
  have hopen := h.isOpen.reserve target req fun δ hδ => hroll ⟨δ, hδ⟩
  rcases (rq.state session).reserve_cases target req with ⟨s, hst, -, htaken, -⟩ |
    ⟨s, δ, trusted, -, -, -, hspares, -, -, hmode, hst⟩ | ⟨s, δ, -, hst⟩
  · rw [hst] at hopen ⊢
    exact .inl ⟨session, rfl, hopen, h.spares.trans fun l _ ht => htaken l ht, h.tokens, h.mode,
      h.billingSource, h.subscriptionId, h.fundedBy⟩
  · rw [hst] at hopen ⊢
    have hts : session.tokenSubscription = false := hmode
    have htok := h.tokens
    unfold BillingSession.TokensCounted at htok
    rw [if_neg (by simp [hts])] at htok
    refine .inl ⟨_, rfl, hopen, ?_, ?_, ?_, ?_, ?_, ?_⟩
    · simp only [ofState, syncRelayInfo_store, syncRelayInfo_session,
        FundingSource.charge_ledger]
      exact h.spares.trans hspares
    · simp only [syncRelayInfo_session, BillingSession.TokensCounted]
      rw [if_neg (by simp [hmode])]
      simp only [state]
      omega
    · simp only [ofState, syncRelayInfo_session]
      rw [RelayInfo.isTokenSubscriptionRequest_of_fixed (syncRelayInfo_fixed _)]
      exact h.mode
    · simp only [ofState, syncRelayInfo_billingSource, syncRelayInfo_session]
    · intro f hf
      simp only [syncRelayInfo_session] at hf
      refine ⟨syncRelayInfo_subscriptionId hf, ?_⟩
      cases hfs : session.funding with
      | wallet | organization => simp [state, hfs, FundingSource.charge] at hf
      | subscription g =>
        obtain rfl : g = f := by simpa [state, hfs, FundingSource.charge] using hf
        exact (h.subscriptionId g hfs).2
    · simp only [ofState, syncRelayInfo_session, FundingSource.charge_source]
      unfold RelayInfo.FundedBy
      rw [RelayInfo.organizationId_of_fixed (syncRelayInfo_fixed _)]
      exact h.fundedBy
  · refine absurd ⟨δ, ?_⟩ hroll
    rw [hst]
    exact List.mem_cons_self

/-- `PreConsumeBilling` opens a session or reserves more in the one there is. -/
theorem Phase.preConsumeBilling (h : Phase r0 rq) (quota : ℤ) :
    Phase r0 (preConsumeBilling rq quota).2 := by
  unfold Billing.preConsumeBilling
  split
  · exact h
  rename_i hquota
  rcases h with h | ⟨session, h⟩ | h
  · rw [h.billing]
    rcases newBillingSession_attempt h.billing h.record h.log (not_lt.1 hquota) with
      ⟨-, -, session, hsource, hf⟩ | ⟨-, hun⟩
    · exact .inr (.inl ⟨session, hf.holding h.taken hsource⟩)
    · exact .inl (hun.idle h)
  · rw [h.billing]
    exact .inr (h.reserve quota true)
  · obtain ⟨session, hb⟩ := Option.isSome_iff_exists.1 h.1
    rw [hb]
    exact .inr (.inr (h.reserve session quota true))

/-- `Reserve` of the request's session, where it has one. -/
theorem Phase.reserve (h : Phase r0 rq) (hb : rq.billing = some session) (target : ℤ) (req : Bool) :
    Phase r0 (.ofState ((rq.state session).reserve target req).2) := by
  rcases h with h | ⟨session', h⟩ | h
  · rw [h.billing] at hb
    cases hb
  · rw [h.billing] at hb
    cases hb
    exact .inr (h.reserve target req)
  · exact .inr (.inr (h.reserve session target req))

/-! ## Settlement -/

/-- `SettleTokenBilling` of a session that is not settled: the tools are charged to the wallet once
the subscription is settled. -/
theorem State.settleTokenBilling_cases {f : SubscriptionFunding}
    (hsettled : st.session.settled = false) (hmode : st.session.tokenSubscription = true)
    (hfunding : st.session.funding = .subscription f) (tokens tools : ℤ) :
    ∃ made s, FundingSource.settle (.subscription f) (tokens - f.preConsumed) st.store = (made, s) ∧
      ((made = false ∧ st.settleTokenBilling tokens tools = (false, { st with store := s })) ∨
        (made = true ∧ ∃ ok s', (if 0 < tools then decreaseUserQuota s tools else (true, s)) =
            (ok, s') ∧
          st.settleTokenBilling tokens tools = (ok, {
            store := s'
            info := { st.info with
              subscriptionPostDelta :=
                st.info.subscriptionPostDelta + (tokens - f.preConsumed) }
            session := { st.session with fundingSettled := true, settled := ok } }))) := by
  have hstep : (if tokens - f.preConsumed = 0 then (true, st.store)
      else FundingSource.settle (.subscription f) (tokens - f.preConsumed) st.store) =
        FundingSource.settle (.subscription f) (tokens - f.preConsumed) st.store := by
    by_cases hdelta : tokens - f.preConsumed = 0
    · rw [if_pos hdelta, hdelta]
      rfl
    · exact if_neg hdelta
  unfold settleTokenBilling
  rw [if_neg (by simp [hsettled]), hmode, hfunding]
  dsimp only
  rw [hstep]
  obtain ⟨made, s⟩ := FundingSource.settle (.subscription f) (tokens - f.preConsumed) st.store
  refine ⟨made, s, rfl, ?_⟩
  cases made with
  | false => exact .inl ⟨rfl, rfl⟩
  | true =>
    refine .inr ⟨rfl, ?_⟩
    by_cases htools : 0 < tools
    · simp only [if_pos htools]
      obtain ⟨ok, s'⟩ := decreaseUserQuota s tools
      refine ⟨ok, s', rfl, ?_⟩
      cases ok with
      | false => simp only [hsettled]
      | true => rfl
    · simp only [if_neg htools]
      exact ⟨true, s, rfl, rfl⟩

theorem State.settleTokenBilling_frame (st : State) (tokens tools : ℤ) :
    ∃ s post fundingSettled settled, (st.settleTokenBilling tokens tools).2 = { st with
        store := s
        info := { st.info with subscriptionPostDelta := post }
        session := { st.session with fundingSettled := fundingSettled, settled := settled } } ∧
      s.log = st.store.log := by
  by_cases hopen : st.session.settled = false ∧ st.session.tokenSubscription = true ∧
      st.session.funding.source = .subscription
  · obtain ⟨hsettled, hmode, hsource⟩ := hopen
    cases hfs : st.session.funding with
    | wallet | organization => rw [hfs] at hsource; cases hsource
    | subscription f =>
      obtain ⟨made, s, hmade, ⟨rfl, heq⟩ | ⟨rfl, ok, s', hpaid, heq⟩⟩ :=
        settleTokenBilling_cases hsettled hmode hfs tokens tools
      all_goals
        have hs := FundingSource.settle_settles (.subscription f) (tokens - f.preConsumed) st.store
        rw [hmade] at hs
        rw [heq]
      · exact ⟨s, _, _, _, rfl, hs.log⟩
      refine ⟨s', _, _, _, rfl, ?_⟩
      have hlog := decreaseUserQuota_log s tools
      split_ifs at hpaid
      · rw [hpaid] at hlog
        exact hlog.trans hs.log
      · cases hpaid
        exact hs.log
  · have hsame : (st.settleTokenBilling tokens tools).2 = st := by
      unfold settleTokenBilling
      split
      · rfl
      rename_i hsettled
      split
      next f hmode hfs =>
        exact absurd ⟨by simpa using hsettled, hmode, by rw [hfs]; rfl⟩ hopen
      · rfl
    exact ⟨st.store, _, _, _, hsame, rfl⟩

theorem State.mem_settleTokenBilling_log (st : State) (tokens tools : ℤ) (h : line ∈ st.store.log) :
    line ∈ (st.settleTokenBilling tokens tools).2.store.log := by
  obtain ⟨s, _, _, _, heq, hlog⟩ := st.settleTokenBilling_frame tokens tools
  rw [heq]
  exact hlog ▸ h

section

variable (h : Open r0 st) (htokens : st.session.TokensCounted)
  (hmode : st.session.tokenSubscription = true)

include h htokens hmode

/-- Without tool usage the funding source of a token-mode session is settled, and no more. -/
theorem Open.settleTokenBilling_eq (actual : ℤ) : ∃ post session, st.settleTokenBilling actual 0 =
      ((st.session.funding.settle (actual - st.session.preConsumedQuota) st.store).1,
        { store := (st.session.funding.settle (actual - st.session.preConsumedQuota) st.store).2
          info := { st.info with subscriptionPostDelta := post }
          session := session }) := by
  unfold BillingSession.TokensCounted at htokens
  rw [if_pos hmode] at htokens
  obtain ⟨hsource, -, hextra⟩ := htokens
  have hcounted := h.counted
  unfold Counted at hcounted
  cases hfs : st.session.funding with
  | wallet | organization => rw [hfs] at hsource; cases hsource
  | subscription f =>
    simp only [hfs] at hcounted
    have htotal : st.session.preConsumedQuota = f.preConsumed := by
      have hsum := hcounted.total
      omega
    obtain ⟨made, s, hmade, ⟨rfl, heq⟩ | ⟨rfl, ok, s', hpaid, heq⟩⟩ :=
      settleTokenBilling_cases h.settled hmode hfs actual 0
    · rw [heq, htotal, hmade]
      exact ⟨_, _, rfl⟩
    cases hpaid
    rw [heq, htotal, hmade]
    exact ⟨_, _, rfl⟩

theorem State.settleTokenBilling_ok (hok : (st.settleTokenBilling actual 0).1 = true) :
    (st.settleTokenBilling actual 0).2.store.rows.taken st.session.funding.ledger =
        st.session.funding.floor (r0.taken st.session.funding.ledger + actual) ∧
      Spares st.session.funding.ledger st.store.rows
        (st.settleTokenBilling actual 0).2.store.rows := by
  obtain ⟨post, session, heq⟩ := h.settleTokenBilling_eq htokens hmode actual
  have hs := st.session.funding.settle_settles (actual - st.session.preConsumedQuota) st.store
  rw [heq] at hok ⊢
  refine ⟨?_, fun l hl _ => hs.other l hl⟩
  rw [hs.made hok, h.taken]
  congr 1
  omega

end

theorem mem_settleBilling_log (hb : rq.billing.isSome = true) (actual : ℤ)
    (h : line ∈ rq.store.log) : line ∈ (settleBilling rq actual).2.store.log := by
  obtain ⟨session, hs⟩ := Option.isSome_iff_exists.1 hb
  unfold settleBilling
  rw [hs]
  simp only
  split
  · exact (rq.state session).mem_settleTokenBilling_log actual 0 h
  · obtain ⟨s, _, _, _, heq, -, hlog⟩ := (rq.state session).settle_frame actual
    rw [heq]
    exact hlog _ h

/-- The quota has been taken from the ledger, and from no other. -/
abbrev Paid (r0 : Rows) (ledger : Ledger) (quota : ℤ) (rows : Rows) : Prop :=
  rows.taken ledger = r0.taken ledger + quota ∧ Spares ledger r0 rows

section

variable (hactual : 0 ≤ actual) (hok : (settleBilling rq actual).1 = true)

include hactual hok

/-- A settlement of what a session holds takes the actual quota. -/
theorem Holding.settle (h : Holding r0 rq session) :
    Paid r0 session.funding.ledger actual (settleBilling rq actual).2.store.rows := by
  have hfloor : session.funding.floor (r0.taken session.funding.ledger + actual) =
      r0.taken session.funding.ledger + actual := by
    cases session.funding with
    | subscription f =>
      exact max_eq_right (add_nonneg (Int.natCast_nonneg _) hactual)
    | _ => rfl
  have hmode := h.mode
  have hopen := h.isOpen
  have hspares := h.spares
  revert hok
  unfold settleBilling
  rw [h.billing]
  simp only
  split
  next htoken =>
    rw [htoken] at hmode
    intro hok
    have hs := settleTokenBilling_ok hopen h.tokens hmode hok
    exact ⟨hs.1.trans hfloor, hspares.trans hs.2⟩
  · intro hok
    have hs := settle_ok hopen.settled hopen.fundingSettled hok
    have htaken := hopen.taken
    refine ⟨hs.1.trans ?_, hspares.trans ((rq.state session).settle_spares actual)⟩
    simp only [state] at htaken ⊢
    rw [htaken, ← hfloor]
    congr 1
    omega

/-- A settlement without a session takes the actual quota directly. -/
theorem Idle.settle (h : Idle r0 rq) :
    Paid r0 rq.directLedger actual (settleBilling rq actual).2.store.rows := by
  have hL := rq.directLedger_ne_token
  have hidle : Spares rq.directLedger r0 rq.store.rows := fun l _ ht => h.taken l ht
  revert hok
  unfold settleBilling
  rw [h.billing]
  simp only [h.finalPreConsumedQuota, sub_zero]
  split_ifs with h0
  · intro _
    rw [h0, Paid, add_zero]
    exact ⟨h.taken _ hL, hidle⟩
  · intro hok
    have hd := postConsumeQuota_ok hactual hok
    exact ⟨by rw [hd.taken, h.taken _ hL], hidle.trans hd.spares⟩

/-- **Settlement.** A request that is settled has paid the actual quota, from its
funding source and from no other. -/
theorem Phase.settle (h : Phase r0 rq)
    (hlog : ∀ δ, .rollbackFundingReserve δ ∉ (settleBilling rq actual).2.store.log) :
    Paid r0 rq.fundingLedger actual (settleBilling rq actual).2.store.rows := by
  unfold Request.fundingLedger
  rcases h with h | ⟨session, h⟩ | ⟨hb, δ, hδ⟩
  · rw [h.billing]
    exact h.settle hactual hok
  · rw [h.billing]
    exact h.settle hactual hok
  · exact absurd (mem_settleBilling_log hb actual hδ) (hlog δ)

end

/-! ## Refund -/

theorem Held.refundClosure_spares (h : Held r0 st)
    (hid : ∀ f, st.session.funding = .subscription f → st.info.subscriptionId = f.subscriptionId) :
    Spares st.session.funding.ledger st.store.rows st.refundClosure.store.rows := by
  intro l hl ht
  unfold State.refundClosure
  rw [refundToken_taken _ _ ht]
  have hown := h.refund_funding.1 l hl
  unfold State.refundExtraReserved
  split
  next hcond =>
    rw [State.logFailure_rows, postConsumeUserSubscriptionDelta_other _ _ _ ?_,
      State.logFailure_rows, hown]
    cases hfs : st.session.funding with
    | wallet | organization => rw [hfs] at hcond; cases hcond.2.1
    | subscription f =>
      rw [hfs] at hl
      rw [hid f hfs]
      exact hl
  · rw [State.logFailure_rows, hown]

/-- Without a failing call the refund closure gives everything back. -/
theorem Held.refundClosure_clean (h : Held r0 st) (hlog : Clean st.refundClosure.store.log) :
    st.refundClosure.store.rows.taken st.session.funding.ledger =
      r0.taken st.session.funding.ledger := by
  have htaken := h.refundClosure_taken
  unfold keptBack at htaken
  rwa [if_neg hlog.1, if_neg hlog.2, add_zero, add_zero] at htaken

theorem Holding.needsRefund (h : Holding r0 rq session) (hpos : 0 < session.preConsumedQuota) :
    (rq.state session).needsRefund = true := by
  have hopen := h.isOpen
  have htok := h.tokens
  have hc := hopen.counted
  unfold State.needsRefund
  rw [if_neg (by simp [hopen.settled, hopen.refunded, hopen.fundingSettled])]
  unfold BillingSession.TokensCounted at htok
  split_ifs at htok with hts
  · obtain ⟨hsource, hzero, hextra⟩ := htok
    have hnone : ¬ 0 < (rq.state session).session.tokenConsumed := by
      show ¬ 0 < session.tokenConsumed
      omega
    unfold Counted at hc
    rw [if_neg hnone]
    simp only [state] at hc ⊢
    cases hfs : session.funding with
    | wallet | organization => rw [hfs] at hsource; cases hsource
    | subscription f =>
      simp only [hfs] at hc
      have htotal : f.preConsumed + session.extraReserved = session.preConsumedQuota := hc.total
      exact decide_eq_true (by omega)
  · rw [if_pos (by simp only [state]; omega)]

theorem mem_refundBilling_log {δ : ℤ} (h : .rollbackFundingReserve δ ∈ rq.store.log) :
    ∃ δ, .rollbackFundingReserve δ ∈ (refundBilling rq).store.log := by
  unfold refundBilling
  split
  next session _ =>
    have hroll : RollbackFailed (rq.state session) := ⟨δ, h⟩
    exact hroll.step 0 .refund
  · exact ⟨δ, h⟩

theorem Holding.refund (h : Holding r0 rq session) (hlog : Clean (refundBilling rq).store.log)
    (hl : l ≠ .token) : (refundBilling rq).store.rows.taken l = r0.taken l := by
  have hopen := h.isOpen
  have hnonneg := hopen.nonneg
  revert hlog
  unfold refundBilling
  rw [h.billing]
  simp only [ofState, State.refund]
  split
  · -- nothing to refund: the session holds nothing
    rename_i hskip
    intro _
    by_cases hL : l = session.funding.ledger
    · have hzero : session.preConsumedQuota = 0 := by
        by_contra hne
        have hneed := h.needsRefund (lt_of_le_of_ne hnonneg (Ne.symm hne))
        simp [hopen.settled, hopen.refunded, hneed] at hskip
      have htaken := hopen.taken
      simp only [state] at htaken ⊢
      rw [hL, htaken, hzero, add_zero]
    · exact h.spares l hL hl
  · intro hlog
    have hheld : Held r0 { rq.state session with
        session := { session with refunded := true } } :=
      { hopen.toHeld with counted := hopen.counted.setRefunded }
    by_cases hL : l = session.funding.ledger
    · rw [hL]
      exact hheld.refundClosure_clean hlog
    · exact (hheld.refundClosure_spares (fun f hf => (h.subscriptionId f hf).1) l hL hl).trans
        (h.spares l hL hl)

/-- **Refund.** A request that is refunded without a failing call has paid nothing. -/
theorem Phase.refund (h : Phase r0 rq) (hlog : Clean (refundBilling rq).store.log)
    (hroll : ∀ δ, .rollbackFundingReserve δ ∉ (refundBilling rq).store.log) (hl : l ≠ .token) :
    (refundBilling rq).store.rows.taken l = r0.taken l := by
  rcases h with h | ⟨session, h⟩ | ⟨-, δ, hδ⟩
  · unfold refundBilling
    rw [h.billing]
    exact h.taken l hl
  · exact h.refund hlog hl
  · obtain ⟨δ', hδ'⟩ := mem_refundBilling_log hδ
    exact absurd hδ' (hroll δ')

end OmniRouters.Billing
