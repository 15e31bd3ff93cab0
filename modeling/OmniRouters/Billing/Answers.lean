import OmniRouters.Billing.Adjust

/-!
# What billing leaves alone

The frame of the operations before a settlement. No call makes an answering database fail or
changes the groups of a subscription, no further reservation gives a session another funding
source or takes back what it holds. When the database answers every call, what is left to fail
is the calls' own conditions: a wallet or a subscription without the funds.

* `State.reserve_keeps`: a further reservation.
* `State.settle_funding`: a settlement keeps the funding source.
* `Holding.debited`, `Idle.settle_debited`: the settlement of a positive quota debits a
  ledger.
-/

namespace OmniRouters.Billing

namespace Store

theorem Answers.down {s : Store} (h : s.Answers) : s.down = false := by
  unfold Store.Answers at h
  simp [Store.down, h]

theorem Later.sysLog {s s' : Store} (h : s.Later s') (line : LogLine) : s.Later (s'.sysLog line) :=
  ⟨h.answers, h.groups⟩

theorem Later.logFailure {s s' : Store} (h : s.Later s') (line : LogLine) (ok : Bool) :
    s.Later (State.logFailure line (ok, s')) := by
  cases ok with
  | true => exact h
  | false => exact h.sysLog line

end Store

/-! ## Funding sources -/

/-- A funding source without its own counter: what a further reservation leaves of it. -/
def FundingSource.uncounted : FundingSource → FundingSource
  | wallet _ => wallet ⟨0⟩
  | organization _ => organization ⟨0⟩
  | subscription f => subscription f

theorem FundingSource.source_uncounted (fs : FundingSource) : fs.uncounted.source = fs.source := by
  cases fs <;> rfl

theorem FundingSource.eq_subscription_of_uncounted {fs fs' : FundingSource}
    {f : SubscriptionFunding} (h : fs'.uncounted = fs.uncounted) (hf : fs' = .subscription f) :
    fs = .subscription f := by
  subst hf
  cases fs with
  | wallet | organization => cases h
  | subscription f' => exact h.symm

theorem FundingSource.charge_uncounted (fs : FundingSource) (δ : ℤ) :
    (fs.charge δ).uncounted = fs.uncounted := by
  cases fs <;> rfl

/-! ## Operations of a session -/

/-- What an operation of a session leaves: a later store, the funding source, at least the
reservation there was, the fields that are set when the request is admitted, and the
context's groups. -/
structure State.Keeps (st st' : State) : Prop where
  later : st.store.Later st'.store
  funding : st'.session.funding.uncounted = st.session.funding.uncounted
  reserved : st.session.preConsumedQuota ≤ st'.session.preConsumedQuota
  fixed : st'.info.fixed = st.info.fixed
  context : st'.info.allowedGroups = st.info.allowedGroups

theorem RelayInfo.usingGroup_of_fixed {info info' : RelayInfo} (h : info.fixed = info'.fixed) :
    info.usingGroup = info'.usingGroup := by
  have hu := congrArg (fun i : RelayInfo => i.usingGroup) h
  exact hu

theorem State.syncRelayInfo_allowedGroups (st : State) :
    st.syncRelayInfo.info.allowedGroups = st.info.allowedGroups := by
  unfold State.syncRelayInfo
  split <;> rfl

namespace State

/-- A step that only changes the store. -/
theorem Keeps.of_store {st : State} {s : Store} (h : st.store.Later s) :
    st.Keeps { st with store := s } := ⟨h, rfl, le_rfl, rfl, rfl⟩

theorem Keeps.source {st st' : State} (h : st.Keeps st') :
    st'.session.funding.source = st.session.funding.source := by
  rw [← FundingSource.source_uncounted, h.funding, FundingSource.source_uncounted]

/-- A further reservation. -/
theorem reserve_keeps (st : State) (target : ℤ) (req : Bool) :
    st.Keeps (st.reserve target req).2 := by
  rcases st.reserve_cases target req with ⟨s, hst, hleaves, -⟩ |
    ⟨s, δ, trusted, hpos, hleaves, -, -, -, -, -, hst⟩ | ⟨s, δ, hlater, hst⟩
  · rw [hst]
    exact .of_store hleaves.toLater
  · rw [hst]
    refine ⟨?_, ?_, ?_, ?_, ?_⟩
    · simpa using hleaves.toLater
    · simpa using FundingSource.charge_uncounted _ δ
    · simp only [syncRelayInfo_session]
      omega
    · exact syncRelayInfo_fixed _
    · exact syncRelayInfo_allowedGroups _
  · rw [hst]
    exact ⟨hlater.sysLog _, FundingSource.charge_uncounted _ δ, le_rfl, rfl, rfl⟩

end State

/-- A subscription session holds at least one unit. -/
def BillingSession.Reserves (session : BillingSession) : Prop :=
  session.funding.source = .subscription → 0 < session.preConsumedQuota

/-! ## Settlement -/

/-- The ledger has been debited between the rows `r` and `r'`. -/
def Rows.Debited (r r' : Rows) (l : Ledger) : Prop := r.taken l < r'.taken l

theorem Spares.not_debited {L l : Ledger} {r r' : Rows} (h : Spares L r r') (hl : l ≠ L)
    (ht : l ≠ .token) : ¬ r.Debited r' l := by
  unfold Rows.Debited
  rw [h l hl ht]
  exact lt_irrefl _

theorem State.settle_funding (st : State) (actual : ℤ) :
    (st.settle actual).2.session.funding = st.session.funding := by
  obtain ⟨s, _, _, _, heq, -⟩ := st.settle_frame actual
  rw [heq]

theorem State.settleTokenBilling_funding (st : State) (tokens tools : ℤ) :
    (st.settleTokenBilling tokens tools).2.session.funding = st.session.funding := by
  obtain ⟨s, _, _, _, heq, -⟩ := st.settleTokenBilling_frame tokens tools
  rw [heq]

theorem postConsumeQuota_billing (rq : Request) (quota : ℤ) :
    (postConsumeQuota rq quota).2.billing = rq.billing := by
  have hfunding : (postConsumeFunding rq quota).2.billing = rq.billing := by
    unfold postConsumeFunding
    dsimp only
    split_ifs
    · rfl
    · rfl
    · rfl
    · rfl
    · generalize postConsumeUserSubscriptionDelta rq.store rq.info.subscriptionId quota = res
      obtain ⟨ok, s⟩ := res
      cases ok <;> rfl
    · rfl
    · rfl
  unfold postConsumeQuota
  generalize postConsumeFunding rq quota = res at hfunding ⊢
  obtain ⟨ok, rq'⟩ := res
  cases ok with
  | false => exact hfunding
  | true =>
    dsimp only
    unfold postConsumeToken
    split
    · exact hfunding
    · exact hfunding

section Settle

variable {r0 : Rows} {rq : Request} {session : BillingSession}

section

variable (h : Holding r0 rq session) (hkey : rq.info.isTokenSubscriptionRequest = false)

include h hkey

theorem Holding.settleBilling_eq (actual : ℤ) :
    (settleBilling rq actual).2 = .ofState ((rq.state session).settle actual).2 := by
  unfold settleBilling
  rw [h.billing]
  simp only [hkey, Bool.false_eq_true, if_false]

/-- A settlement moves the ledger of the session only. -/
theorem Holding.settle_spares (actual : ℤ) :
    Spares session.funding.ledger r0 (settleBilling rq actual).2.store.rows := by
  rw [h.settleBilling_eq hkey]
  exact h.spares.trans ((rq.state session).settle_spares actual)

end

/-- Without the change the reservation stays, and that is a debit too: the wallet can refuse
only a return, and a subscription has reserved something. -/
theorem BillingSession.Reserves.pos_of_missed (hres : session.Reserves)
    (hans : rq.store.Answers) {actual : ℤ} (hpos : 0 < actual)
    (horg : session.funding.source ≠ .organization)
    (hmiss : ¬ rq.store.Adjusts session.funding.ledger (actual - session.preConsumedQuota)) :
    0 < session.preConsumedQuota := by
  cases hfs : session.funding with
  | subscription f => exact hres (by rw [hfs]; rfl)
  | organization f => exact absurd (by rw [hfs]; rfl) horg
  | wallet f =>
    rw [hfs] at hmiss
    by_contra hle
    refine hmiss (.inr ⟨hans.down, .inl ?_⟩)
    omega

/-- **A positive charge.** The settlement of a session debits its ledger. -/
theorem Holding.debited (h : Holding r0 rq session)
    (hkey : rq.info.isTokenSubscriptionRequest = false) (hans : rq.store.Answers)
    (hres : session.Reserves) (horg : session.funding.source ≠ .organization) {actual : ℤ}
    (hpos : 0 < actual) :
    r0.Debited (settleBilling rq actual).2.store.rows session.funding.ledger := by
  have hout := h.isOpen.settle_outcome h.spares hpos.le
  rw [← h.settleBilling_eq hkey] at hout
  unfold Rows.Debited
  by_cases hadj : rq.store.Adjusts session.funding.ledger (actual - session.preConsumedQuota)
  · rw [hout.made hadj]
    omega
  · have hreserved := hres.pos_of_missed hans hpos horg hadj
    rw [hout.missed hadj]
    omega

section

variable (h : Idle r0 rq) (horg : rq.info.organizationId = 0)

include h horg

/-- A request without a session pays from the wallet. -/
theorem Idle.directLedger_eq : rq.directLedger = .wallet := by
  unfold Request.directLedger
  rw [if_neg (by omega), if_neg (by rw [h.billingSource]; nofun)]

theorem Idle.settle_debited (hans : rq.store.Answers) {actual : ℤ} (hpos : 0 < actual) :
    Spares .wallet r0 (settleBilling rq actual).2.store.rows ∧
      r0.Debited (settleBilling rq actual).2.store.rows .wallet := by
  have hout := h.settle_outcome hpos.le
  rw [h.directLedger_eq horg, h.finalPreConsumedQuota] at hout
  refine ⟨hout.spares, ?_⟩
  unfold Rows.Debited
  rw [hout.made (.inr ⟨hans.down, .inl (by omega)⟩)]
  omega

/-- A settlement without a session that charges nothing debits no ledger. -/
theorem Idle.settle_not_debited {actual : ℤ} (hle : actual ≤ 0) {l : Ledger} (hl : l ≠ .token) :
    ¬ r0.Debited (settleBilling rq actual).2.store.rows l := by
  have hidle := h.taken l hl
  unfold Rows.Debited settleBilling
  rw [h.billing]
  simp only [h.finalPreConsumedQuota, sub_zero]
  split_ifs with hzero
  · rw [hidle]
    exact lt_irrefl _
  have happ := adjustLedger_applies rq.store (l := .wallet) actual nofun nofun
  rw [postConsumeQuota, postConsumeFunding_eq h.billingSource, h.directLedger_eq horg]
  generalize adjustLedger rq.store .wallet actual = res at happ ⊢
  obtain ⟨ok, s⟩ := res
  cases ok with
  | false =>
    simp only at happ ⊢
    rw [happ.eq, hidle]
    exact lt_irrefl _
  | true =>
    simp only at happ ⊢
    rw [(postConsumeToken_frame { rq with store := s } actual).1 l hl]
    by_cases hw : l = .wallet
    · subst hw
      have hmove := happ.moves.taken
      simp only
      omega
    · rw [happ.spares l hw hl, hidle]
      exact lt_irrefl _

end

end Settle

end OmniRouters.Billing
