import OmniRouters.Billing.SessionRun

/-!
# What a session leaves alone

A session moves the ledger of its funding source and the token, and no other:
`Spares L r r'` says that every other ledger stands as it was. The second half
follows the token itself through the pre-consume and the settle.

* `State.settle_spares`: the other ledgers.
* `preConsume_new`: everything the pre-consume of a new session can do.
* `State.settle_ok`: what a settle takes from the funding source and from the token.
-/

namespace OmniRouters.Billing

/-- What a session takes from the token: its reservation, and nothing from a key
that pays in tokens. -/
def BillingSession.TokensCounted (session : BillingSession) : Prop :=
  if session.tokenSubscription then
    session.funding.source = .subscription ∧ session.tokenConsumed = 0 ∧ session.extraReserved = 0
  else session.tokenConsumed = session.preConsumedQuota

/-- A session that has been opened and holds its reservation, relative to the
rows `r0` before it. -/
structure Opened (r0 : Rows) (info : RelayInfo) (st : State) : Prop where
  isOpen : Open r0 st
  spares : Spares st.session.funding.ledger r0 st.store.rows
  token : st.store.rows.taken .token =
    r0.taken .token + info.tokenShare st.session.tokenConsumed
  tokens : st.session.TokensCounted
  subscriptionId : ∀ f, st.session.funding = .subscription f → 0 < f.subscriptionId
  info : st.info = (State.syncRelayInfo { st with info := info }).info

/-- A pre-consume that failed has moved nothing, unless its token rollback failed
and was logged. -/
structure Untouched (s : Store) (info : RelayInfo) (st : State) : Prop where
  taken : ∀ l, l ≠ .token → st.store.rows.taken l = s.rows.taken l
  token : (∀ q, .rollbackTokenQuota q ∉ st.store.log) →
    st.store.rows.taken .token = s.rows.taken .token
  record : st.store.rows.record = s.rows.record
  log : (∀ line, line ∈ s.log → line ∈ st.store.log) ∧
    ∀ line, line ∈ st.store.log → line ∈ s.log ∨ ∃ q, line = .rollbackTokenQuota q
  info : st.info = info

theorem preConsume_new {quota : ℤ} {st : State} {tokenSubscription : Bool}
    (hnew : st.session = .new st.session.funding tokenSubscription)
    (hmode : tokenSubscription = true → st.session.funding.source = .subscription)
    (hfunding : FreshFunding st.session.funding quota st.store.rows) (hlog : Clean st.store.log)
    (hquota : 0 ≤ quota) :
    ((st.preConsume quota).1 = none ∧ Opened st.store.rows st.info (st.preConsume quota).2 ∧
        (st.preConsume quota).2.store.log = st.store.log) ∨
      ((st.preConsume quota).1 ≠ none ∧ Untouched st.store st.info (st.preConsume quota).2) := by
  have htok : st.session.tokenConsumed = 0 := by rw [hnew]; rfl
  have hts : st.session.tokenSubscription = tokenSubscription := by rw [hnew]; rfl
  have hextra : st.session.extraReserved = 0 := by rw [hnew]; rfl
  have hunused : Unused quota st.store.rows st := by
    refine ⟨?_, ?_, ?_, ?_, ?_, hfunding, hlog, fun _ _ => rfl⟩
    all_goals rw [hnew]; rfl
  generalize hres : st.preConsume quota = res
  have hcases := hres ▸ State.preConsume_preConsumes htok quota
  cases hcases with
  | token trusted ht =>
    have hrows := ht.applies.eq
    refine .inr ⟨nofun, fun l _ => by simp only [hrows], fun _ => by simp only [hrows],
      by simp only [hrows], ?_, rfl⟩
    simp only [ht.leaves.log]
    exact ⟨fun _ h => h, fun _ h => .inl h⟩
  | @funding n trusted s s' δ e fs hp hpre =>
    have htoken := hp.takes.tokenOnly
    obtain ⟨hδ, heff⟩ := hp.quota hquota
    obtain ⟨-, hrows, -⟩ := (hunused.of_token htoken n trusted).refused hδ heff hpre
    have hplog := (FundingSource.preConsume_frame hpre).2.log
    obtain ⟨ok, s'', n', heq, hr⟩ := State.rollbackToken_takes { st with
      store := s'
      session := { st.session with funding := fs, tokenConsumed := n, trusted := trusted } }
    rw [heq]
    have hn : max 0 n = n := max_eq_right hp.nonneg
    rw [hn] at hr
    refine .inr ⟨nofun, fun l hl => ?_, fun hclean => ?_, ?_, ?_, rfl⟩
    · rw [State.logFailure_rows, hr.applies.other hl, hrows, htoken.taken l hl]
    · cases ok with
      | false => exact absurd List.mem_cons_self (hclean n)
      | true =>
        have hback := hr.applies.moves.taken
        have hpaid := hp.takes.applies.moves.taken
        simp only [State.logFailure_rows]
        rw [hback, hrows]
        simp only
        omega
    · rw [State.logFailure_rows, hr.applies.record, hrows, htoken.record]
    · simp only [State.mem_logFailure, hr.leaves.log, hplog, htoken.log]
      refine ⟨fun _ h => .inr h, fun line h => ?_⟩
      rcases h with ⟨rfl, -⟩ | h
      · exact .inr ⟨_, rfl⟩
      · exact .inl h
  | @charged n trusted s s' δ fs hp hpre =>
    have htoken := hp.takes.tokenOnly
    obtain ⟨hδ, heff⟩ := hp.quota hquota
    have hfresh := hunused.of_token htoken n trusted
    obtain ⟨hsource, hleaves⟩ := FundingSource.preConsume_frame hpre
    obtain ⟨-, -, hother, -, hid⟩ := (FundingSource.preConsume_fresh hfresh.funding hδ heff
      hpre).resolve_right fun h => h.1 rfl
    refine .inl ⟨rfl, ⟨hfresh.charged hδ heff hpre, fun l hl ht => ?_, ?_, ?_, fun f hf => ?_,
      ?_⟩, ?_⟩
    · simp only [State.syncRelayInfo_store, State.syncRelayInfo_session] at hl ⊢
      rw [hother l hl, htoken.taken l ht]
    · simp only [State.syncRelayInfo_store, State.syncRelayInfo_session]
      rw [hother .token fs.ledger_ne_token.symm]
      exact hp.takes.applies.moves.taken
    · have hshare := hp.share
      simp only [State.syncRelayInfo_session, BillingSession.TokensCounted]
      split_ifs with hmode'
      · rw [if_pos hmode'] at hshare
        exact ⟨hsource.trans (hmode (hts.symm.trans hmode')), hshare, hextra⟩
      · rwa [if_neg hmode', max_eq_right hδ] at hshare
    · simp only [State.syncRelayInfo_session] at hf
      exact (hid f hf).2
    · cases fs <;> rfl
    · simp only [State.syncRelayInfo_store]
      rw [hleaves.log, htoken.log]

/-! ## Settle -/

/-- A settle of an unsettled session that returns no error brings the funding
source and the token from the reservation to the actual quota. -/
theorem State.settle_ok {st : State} {actual : ℤ} (hset : st.session.settled = false)
    (hfset : st.session.fundingSettled = false) (hok : (st.settle actual).1 = true) :
    (st.settle actual).2.store.rows.taken st.session.funding.ledger =
        st.session.funding.floor (st.store.rows.taken st.session.funding.ledger +
          (actual - st.session.preConsumedQuota)) ∧
      (st.settle actual).2.store.rows.taken .token = st.store.rows.taken .token +
          st.info.tokenShare (actual - st.session.preConsumedQuota) := by
  have hset' : ¬ st.session.settled = true := by simp [hset]
  have hfset' : ¬ st.session.fundingSettled = true := by simp [hfset]
  revert hok
  unfold State.settle
  simp only [if_neg hset', if_neg hfset']
  generalize actual - st.session.preConsumedQuota = δ
  split_ifs with h0
  · intro _
    rw [h0, add_zero, FundingSource.floor_taken, RelayInfo.tokenShare, ite_self, add_zero]
    exact ⟨rfl, rfl⟩
  · have hs := st.session.funding.settle_settles δ st.store
    generalize st.session.funding.settle δ st.store = res at hs ⊢
    obtain ⟨ok, s⟩ := res
    cases ok with
    | false => exact fun h => absurd h Bool.false_ne_true
    | true =>
      obtain ⟨ok, s', post, heq, ht⟩ := State.finishSettle_takes
        { st with store := s, session := { st.session with fundingSettled := true } } δ
      simp only at heq ⊢
      rw [heq]
      intro hok
      subst hok
      simp only [State.logFailure_rows]
      rw [ht.applies.other st.session.funding.ledger_ne_token, ht.applies.moves.taken]
      exact ⟨hs.made rfl, by rw [hs.other _ st.session.funding.ledger_ne_token.symm]⟩

theorem State.settle_spares (st : State) (actual : ℤ) :
    Spares st.session.funding.ledger st.store.rows (st.settle actual).2.store.rows := by
  obtain ⟨s, _, _, _, heq, hspares, -⟩ := st.settle_frame actual
  rw [heq]
  exact hspares

end OmniRouters.Billing
