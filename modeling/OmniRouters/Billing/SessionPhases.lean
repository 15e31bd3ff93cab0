import OmniRouters.Billing.SessionSpec

/-!
# The phases of a billing session

A session is open, settled or refunded. While it is open, the ledger of its
funding source stands at its old value plus `preConsumedQuota` (`Open`); once
settled, at its old value plus the actual quota (`Settled`); once refunded, at
its old value plus what the failing calls of the refund kept back (`Refunded`).

* `Unused.preConsume`: a new session is open after its pre-consume.
* `Open.reserve`, `Open.settle`, `Held.refundClosure_taken`: what the calls on
  an open session make of it.
-/

namespace OmniRouters.Billing

open State FundingSource

/-! ## The three phases of a session -/

/-- The counters of a session over a subscription: the pre-consumed part is
recorded under the request's id, the rest is in `extraReserved`. -/
structure SubscriptionCounted (f : SubscriptionFunding) (st : State) : Prop where
  total : f.preConsumed + st.session.extraReserved = st.session.preConsumedQuota
  pre_nonneg : 0 ≤ f.preConsumed
  extra_nonneg : 0 ≤ st.session.extraReserved
  record : 0 < f.preConsumed →
    st.store.rows.record = some ⟨f.subscriptionId, f.preConsumed, false⟩
  bound : 0 < st.session.extraReserved →
    st.info.subscriptionId = f.subscriptionId ∧ 0 < f.subscriptionId

/-- What the funding source counts adds up to `preConsumedQuota`. -/
def Counted (st : State) : Prop :=
  match st.session.funding with
  | .wallet f => f.consumed = st.session.preConsumedQuota
  | .organization f => f.consumed = st.session.preConsumedQuota
  | .subscription f => SubscriptionCounted f st

/-- No failed refund is logged. -/
abbrev Clean (log : List LogLine) : Prop :=
  .refundBillingSource ∉ log ∧ .refundExtraReserved ∉ log

/-- The session holds exactly its reservation, relative to the rows `r0` before
it, and no refund has been tried. -/
structure Held (r0 : Rows) (st : State) : Prop where
  taken : st.store.rows.taken st.session.funding.ledger =
    r0.taken st.session.funding.ledger + st.session.preConsumedQuota
  nonneg : 0 ≤ st.session.preConsumedQuota
  counted : Counted st
  log : .refundBillingSource ∉ st.store.log ∧ .refundExtraReserved ∉ st.store.log

/-- Neither settled nor refunded. -/
structure Open (r0 : Rows) (st : State) : Prop extends Held r0 st where
  settled : st.session.settled = false
  refunded : st.session.refunded = false
  fundingSettled : st.session.fundingSettled = false

/-- Settled for `actual`. -/
structure Settled (r0 : Rows) (actual : ℤ) (st : State) : Prop where
  settled : st.session.settled = true
  refunded : st.session.refunded = false
  taken : st.store.rows.taken st.session.funding.ledger =
    st.session.funding.floor (r0.taken st.session.funding.ledger + actual)

/-- What the failing calls of a refund have kept back, read from the log. -/
def keptBack (st : State) : ℤ :=
  (if .refundBillingSource ∈ st.store.log then st.session.funding.counter else 0) +
    if .refundExtraReserved ∈ st.store.log then st.session.extraReserved else 0

/-- Refunded, up to what the failing calls kept back. -/
structure Refunded (r0 : Rows) (st : State) : Prop where
  settled : st.session.settled = false
  refunded : st.session.refunded = true
  taken : st.store.rows.taken st.session.funding.ledger =
    r0.taken st.session.funding.ledger + keptBack st

/-- The phases a session can be in. -/
def SessionInv (r0 : Rows) (actual : ℤ) (st : State) : Prop :=
  Open r0 st ∨ Settled r0 actual st ∨ Refunded r0 st

variable {r0 : Rows} {st : State} {f : SubscriptionFunding} {s : Store} {quota δ : ℤ}

theorem Held.used (h : Held r0 st) (hf : st.session.funding = .subscription f) :
    st.session.preConsumedQuota ≤ st.store.rows.subscriptions.used f.subscriptionId := by
  have ht := h.taken
  simp only [hf, FundingSource.ledger, Rows.taken] at ht
  omega

theorem State.syncRelayInfo_subscriptionId (hf : st.session.funding = .subscription f) :
    st.syncRelayInfo.info.subscriptionId = f.subscriptionId := by
  unfold State.syncRelayInfo
  simp only [hf]

theorem FundingSource.charge_neg (fs : FundingSource) (δ : ℤ) : (fs.charge δ).charge (-δ) = fs := by
  cases fs <;> simp [FundingSource.charge]

theorem Counted.setRefunded (h : Counted st) :
    Counted { st with session := { st.session with refunded := true } } := by
  unfold Counted at h ⊢
  cases hfs : st.session.funding with
  | subscription f =>
    simp only [hfs] at h ⊢
    exact { h with }
  | _ => simpa only [hfs] using h

namespace State

/-- Everything `reserve` can do: nothing to the funding source, or take `δ` from
it and count it, or fail to roll back. -/
theorem reserve_cases (st : State) (target : ℤ) (req : Bool) :
    (∃ s, (st.reserve target req).2 = { st with store := s } ∧ st.store.Leaves s ∧
        (∀ l, l ≠ .token → s.rows.taken l = st.store.rows.taken l) ∧
        s.rows.record = st.store.rows.record) ∨
      (∃ s δ trusted, 0 < δ ∧ st.store.Leaves s ∧ s.rows.taken st.session.funding.ledger =
          st.store.rows.taken st.session.funding.ledger + δ ∧
        Spares st.session.funding.ledger st.store.rows s.rows ∧
        s.rows.record = st.store.rows.record ∧
        (∀ f, st.session.funding = .subscription f → 0 < f.subscriptionId) ∧
        st.session.tokenSubscription = false ∧
        (st.reserve target req).2 = syncRelayInfo { st with
          store := s
          session := { st.session with
            funding := st.session.funding.charge δ
            preConsumedQuota := st.session.preConsumedQuota + δ
            tokenConsumed := st.session.tokenConsumed + δ
            extraReserved := st.session.extraReserved + δ
            trusted := trusted } }) ∨
      ∃ s δ, st.store.Later s ∧ (st.reserve target req).2 = { st with
        store := s.sysLog (.rollbackFundingReserve δ)
        session := { st.session with funding := st.session.funding.charge δ } } := by
  unfold reserve
  split
  · exact .inl ⟨st.store, rfl, .refl _, fun _ _ => rfl, rfl⟩
  rename_i hmode
  simp only
  split
  · exact .inl ⟨st.store, rfl, .refl _, fun _ _ => rfl, rfl⟩
  rename_i hskip
  push Not at hskip
  obtain ⟨-, -, -, htarget⟩ := hskip
  generalize (req || st.info.imageRequest) = req'
  generalize hδ : target - st.session.preConsumedQuota = δ
  have hpos : 0 < δ := by omega
  obtain ⟨e, s, heq, h, hid⟩ := st.reserveFunding_takes hpos req'
  rw [heq]
  cases e with
  | some e =>
    have hrows : s.rows = st.store.rows := h.applies.eq
    exact .inl ⟨s, rfl, h.leaves, fun _ _ => by rw [hrows], by rw [hrows]⟩
  | none =>
    -- the funding source is charged; what happens next depends on the token
    obtain ⟨ok, s', q, heq', ht⟩ := reserveToken_takes
      { st with
        store := s
        session := { st.session with funding := st.session.funding.charge δ } } δ
    have hm := h.applies.moves
    have htoken := ht.tokenOnly
    have hL := st.session.funding.ledger_ne_token
    simp only [Option.isNone_none, if_true, heq']
    cases ok with
    | true =>
      exact .inr (.inl ⟨s', δ, _, hpos, h.leaves.trans ht.leaves,
        (htoken.taken _ hL).trans hm.taken, hm.spares.trans (htoken.spares _),
        htoken.record.trans hm.record, hid rfl, by simpa using hmode, rfl⟩)
    | false =>
      -- the subscription has at least what was just reserved
      have hback : ∀ f, st.session.funding.charge δ = .subscription f →
          δ ≤ s'.rows.subscriptions.used f.subscriptionId := by
        intro f hf
        have htaken := (htoken.taken _ hL).trans hm.taken
        rw [← FundingSource.charge_ledger _ δ, hf] at htaken
        simp only [FundingSource.ledger, Rows.taken] at htaken
        omega
      obtain ⟨ok, s'', heq'', hr⟩ := rollbackFundingReserve_takes
        { st with
          store := s'
          session := { st.session with funding := st.session.funding.charge δ } } δ hback
      have hleaves := (h.leaves.trans ht.leaves).trans hr.leaves
      cases ok with
      | false => exact .inr (.inr ⟨s'', δ, hleaves.toLater, heq''⟩)
      | true =>
        have hm' := hr.applies.moves
        simp only [FundingSource.charge_ledger] at hm'
        refine .inl ⟨s'', ?_, hleaves, fun l hl => ?_,
          hm'.record.trans (htoken.record.trans hm.record)⟩
        · simp only [heq'', if_true, charge_neg]
          rfl
        · by_cases hfs : l = st.session.funding.ledger
          · rw [hfs, hm'.taken, htoken.taken _ hL, hm.taken, add_neg_cancel_right]
          · rw [hm'.other l hfs, htoken.taken l hl, hm.other l hfs]

end State

/-- A step that leaves the session, the funds and the record alone keeps a
session open. -/
theorem Open.of_store (h : Open r0 st) (hlog : s.log = st.store.log)
    (htaken : s.rows.taken st.session.funding.ledger =
      st.store.rows.taken st.session.funding.ledger)
    (hrecord : s.rows.record = st.store.rows.record) : Open r0 { st with store := s } where
  settled := h.settled
  refunded := h.refunded
  fundingSettled := h.fundingSettled
  taken := htaken.trans h.taken
  nonneg := h.nonneg
  counted := by
    have hc := h.counted
    unfold Counted at hc ⊢
    cases hfs : st.session.funding with
    | subscription f =>
      simp only [hfs] at hc ⊢
      exact { hc with record := fun hp => hrecord.trans (hc.record hp) }
    | _ => simpa only [hfs] using hc
  log := by rw [hlog]; exact h.log

/-- A reservation keeps a session open as long as no rollback fails. -/
theorem Open.reserve (h : Open r0 st) (target : ℤ) (req : Bool)
    (hroll : ∀ δ, .rollbackFundingReserve δ ∉ (st.reserve target req).2.store.log) :
    Open r0 (st.reserve target req).2 := by
  rcases st.reserve_cases target req with ⟨s, hst, hleaves, htaken, hrecord⟩ |
    ⟨s, δ, trusted, hpos, hleaves, htaken, -, hrecord, hid, -, hst⟩ | ⟨s, δ, -, hst⟩
  · rw [hst]
    exact h.of_store hleaves.log (htaken _ st.session.funding.ledger_ne_token) hrecord
  · rw [hst]
    have hnonneg := h.nonneg
    refine ⟨⟨?_, ?_, ?_, ?_⟩, by simpa using h.settled, by simpa using h.refunded,
      by simpa using h.fundingSettled⟩
    · simp only [syncRelayInfo_store, syncRelayInfo_session,
        FundingSource.charge_ledger]
      rw [htaken, h.taken]
      omega
    · simp only [syncRelayInfo_session]
      omega
    · have hc := h.counted
      unfold Counted at hc ⊢
      simp only [syncRelayInfo_session]
      cases hfs : st.session.funding with
      | wallet | organization =>
        simp only [hfs] at hc
        simp only [FundingSource.charge, hc]
      | subscription f =>
        simp only [hfs] at hc
        have htotal := hc.total
        have hextra := hc.extra_nonneg
        refine ⟨?_, hc.pre_nonneg, ?_, ?_, fun _ => ⟨?_, hid f hfs⟩⟩
        · simp only [syncRelayInfo_session]
          omega
        · simp only [syncRelayInfo_session]
          omega
        · intro hp
          exact hrecord.trans (hc.record hp)
        · exact syncRelayInfo_subscriptionId rfl
    · simp only [syncRelayInfo_store, hleaves.log]
      exact h.log
  · rw [hst] at hroll
    exact absurd List.mem_cons_self (hroll δ)

/-! ## Settle -/

/-- What every settle leaves alone: the funding source, the other ledgers and what was logged. -/
theorem State.settle_frame (st : State) (actual : ℤ) :
    ∃ s post fundingSettled settled, (st.settle actual).2 = { st with
        store := s
        info := { st.info with subscriptionPostDelta := post }
        session := { st.session with fundingSettled := fundingSettled, settled := settled } } ∧
      Spares st.session.funding.ledger st.store.rows s.rows ∧
      ∀ line ∈ st.store.log, line ∈ s.log := by
  have hlog {line : LogLine} {ok : Bool} {s s' : Store} {q δ : ℤ} (ht : Takes .token q s ok s')
      (h : line ∈ s.log) : line ∈ (State.logFailure (.adjustTokenQuota δ) (ok, s')).log := by
    rw [← ht.leaves.log] at h
    exact (State.mem_logFailure _ _ _).2 (.inr h)
  unfold State.settle
  split
  · exact ⟨st.store, _, _, _, rfl, Spares.refl _ _, fun _ h => h⟩
  simp only
  split_ifs
  · exact ⟨st.store, _, _, _, rfl, Spares.refl _ _, fun _ h => h⟩
  · obtain ⟨ok, s, post, heq, ht⟩ := st.finishSettle_takes (actual - st.session.preConsumedQuota)
    rw [heq]
    refine ⟨_, post, _, _, rfl, ?_, fun line h => hlog ht h⟩
    rw [State.logFailure_rows]
    exact ht.tokenOnly.spares _
  · have hs := st.session.funding.settle_settles (actual - st.session.preConsumedQuota) st.store
    generalize st.session.funding.settle _ st.store = res at hs ⊢
    obtain ⟨ok, s⟩ := res
    cases ok with
    | false => exact ⟨s, _, _, _, rfl, fun l hl _ => hs.other l hl, fun _ h => hs.log ▸ h⟩
    | true =>
      obtain ⟨ok, s', post, heq, ht⟩ := State.finishSettle_takes
        { st with store := s, session := { st.session with fundingSettled := true } }
        (actual - st.session.preConsumedQuota)
      simp only at heq ⊢
      rw [heq]
      refine ⟨_, post, _, _, rfl, ?_, fun line h => hlog ht (hs.log ▸ h)⟩
      rw [State.logFailure_rows]
      exact Spares.trans (fun l hl _ => hs.other l hl) (ht.tokenOnly.spares _)

/-- A settle commits the actual quota, or fails and leaves the session open. -/
theorem Open.settle (h : Open r0 st) (actual : ℤ) :
    Open r0 (st.settle actual).2 ∨ Settled r0 actual (st.settle actual).2 := by
  have hset : ¬ st.session.settled = true := by simp [h.settled]
  have hfset : ¬ st.session.fundingSettled = true := by simp [h.fundingSettled]
  unfold State.settle
  simp only [if_neg hset, if_neg hfset]
  split_ifs with h0
  · -- nothing to adjust: the reservation is the actual quota
    refine .inr ⟨rfl, h.refunded, ?_⟩
    have htaken := h.taken
    have hactual : actual = st.session.preConsumedQuota := by omega
    rw [hactual]
    rw [← htaken, FundingSource.floor_taken]
  · have hs := st.session.funding.settle_settles (actual - st.session.preConsumedQuota) st.store
    generalize st.session.funding.settle _ st.store = res at hs ⊢
    obtain ⟨ok, s⟩ := res
    cases ok with
    | false =>
      have hrows : s.rows = st.store.rows := hs.missed rfl
      exact .inl (h.of_store hs.log (by rw [hrows]) (by rw [hrows]))
    | true =>
      obtain ⟨ok, s', post, heq, ht⟩ := State.finishSettle_takes
        { st with store := s, session := { st.session with fundingSettled := true } }
        (actual - st.session.preConsumedQuota)
      simp only at heq ⊢
      rw [heq]
      refine .inr ⟨rfl, h.refunded, ?_⟩
      simp only [State.logFailure_rows]
      rw [ht.applies.other st.session.funding.ledger_ne_token, hs.made rfl, h.taken]
      congr 1
      omega

/-! ## Refund -/

/-- The funding source's own refund gives back what it counted, or fails without
effect. -/
theorem Held.refund_funding (h : Held r0 st) :
    let res := st.session.funding.refund st.store
    (∀ l, l ≠ st.session.funding.ledger → res.2.rows.taken l = st.store.rows.taken l) ∧
      ((res.1 = true ∧ res.2.rows.taken st.session.funding.ledger =
          st.store.rows.taken st.session.funding.ledger - st.session.funding.counter) ∨
        (res.1 = false ∧ res.2.rows = st.store.rows)) := by
  have hc := h.counted
  have hnonneg := h.nonneg
  unfold Counted at hc
  cases hfs : st.session.funding with
  | wallet f | organization f =>
    simp only [hfs] at hc
    rw [← hc] at hnonneg
    have hne : st.session.funding.source ≠ .subscription := by rw [hfs]; nofun
    have ht := refund_takes hne (by rwa [hfs]) st.store
    rw [hfs] at ht
    refine ⟨fun l hl => ht.applies.other hl, ?_⟩
    generalize FundingSource.refund _ st.store = res at ht ⊢
    obtain ⟨ok, s⟩ := res
    cases ok with
    | true => exact .inl ⟨rfl, ht.applies.moves.taken⟩
    | false => exact .inr ⟨rfl, ht.applies.eq⟩
  | subscription f =>
    simp only [hfs] at hc
    have hpre := hc.pre_nonneg
    have hextra := hc.extra_nonneg
    have htotal := hc.total
    have hused := h.used hfs
    simp only [FundingSource.refund, FundingSource.ledger, FundingSource.counter]
    split_ifs with h0
    · exact ⟨fun _ _ => rfl, .inl ⟨rfl, by simp only; omega⟩⟩
    rcases refundWithRetry_cases (hc.record (by omega)) (by omega) (by omega) 3 with
      ⟨hok, r, hm, hr⟩ | ⟨hok, hr⟩
    · rw [hr]
      exact ⟨hm.other, .inl ⟨hok, hm.taken⟩⟩
    · rw [hr]
      exact ⟨fun _ _ => rfl, .inr ⟨hok, rfl⟩⟩

/-- The token step of a refund moves only the token. -/
theorem State.refundToken_taken (st : State) (s : Store) {l : Ledger} (hl : l ≠ .token) :
    (st.refundToken s).rows.taken l = s.rows.taken l := by
  unfold State.refundToken
  split
  · rw [State.logFailure_rows]
    exact (increaseTokenQuota_takes s _).applies.other hl
  · rfl

theorem State.mem_refundToken_log (st : State) (s : Store) (line : LogLine)
    (hline : line ≠ .refundTokenQuota) : line ∈ (st.refundToken s).log ↔ line ∈ s.log := by
  unfold State.refundToken
  split
  · rw [State.mem_logFailure, increaseTokenQuota_log]
    exact or_iff_right fun hl => hline hl.1
  · rfl

theorem State.mem_refundExtraReserved_log (st : State) (s : Store) (line : LogLine)
    (hline : line ≠ .refundExtraReserved) :
    line ∈ (st.refundExtraReserved s).log ↔ line ∈ s.log := by
  unfold State.refundExtraReserved
  split
  · rw [State.mem_logFailure, postConsumeUserSubscriptionDelta_log]
    exact or_iff_right fun hl => hline hl.1
  · rfl

/-- The extra reservation of a subscription is returned, or the failure is
logged. -/
theorem State.refundExtraReserved_cases (hfs : st.session.funding = .subscription f)
    (hc : SubscriptionCounted f st) (hlog : .refundExtraReserved ∉ s.log)
    (hused : st.session.extraReserved ≤ s.rows.subscriptions.used f.subscriptionId) :
    ((st.refundExtraReserved s).rows.taken st.session.funding.ledger =
          s.rows.taken st.session.funding.ledger - st.session.extraReserved ∧
        .refundExtraReserved ∉ (st.refundExtraReserved s).log) ∨
      ((st.refundExtraReserved s).rows.taken st.session.funding.ledger =
          s.rows.taken st.session.funding.ledger ∧
        .refundExtraReserved ∈ (st.refundExtraReserved s).log) := by
  have hnonneg := hc.extra_nonneg
  have hL : st.session.funding.ledger = .subscription f.subscriptionId := by rw [hfs]; rfl
  rw [hL]
  unfold State.refundExtraReserved
  by_cases h0 : 0 < st.session.extraReserved
  · obtain ⟨hid, hpos⟩ := hc.bound h0
    have hcond : 0 < st.session.extraReserved ∧
        st.session.funding.source = .subscription ∧ 0 < st.info.subscriptionId :=
      ⟨h0, by rw [hfs]; rfl, by rw [hid]; exact hpos⟩
    have h := postConsumeUserSubscriptionDelta_applies s f.subscriptionId
      (-st.session.extraReserved) (by omega)
    have hl := postConsumeUserSubscriptionDelta_log s f.subscriptionId (-st.session.extraReserved)
    rw [if_pos hcond, hid]
    generalize postConsumeUserSubscriptionDelta s f.subscriptionId _ = res at h hl ⊢
    obtain ⟨ok, s'⟩ := res
    simp only at hl
    cases ok with
    | true => exact .inl ⟨h.moves.taken, by simpa only [State.logFailure, hl] using hlog⟩
    | false =>
      have hrows : s'.rows = s.rows := h.eq
      refine .inr ⟨?_, List.mem_cons_self⟩
      simp only [State.logFailure, Store.sysLog_rows, hrows]
  · rw [if_neg fun hcond => h0 hcond.1]
    exact .inl ⟨by omega, hlog⟩

theorem State.refundExtraReserved_of_ne (s : Store)
    (hfs : st.session.funding.source ≠ .subscription) : st.refundExtraReserved s = s := by
  exact if_neg fun hcond => hfs hcond.2.1

/-- The refund closure gives the reservation back, up to what its failing calls
keep back. -/
theorem Held.refundClosure_taken (h : Held r0 st) :
    st.refundClosure.store.rows.taken st.session.funding.ledger =
      r0.taken st.session.funding.ledger + keptBack st.refundClosure := by
  obtain ⟨hlog1, hlog2⟩ := h.log
  have htaken := h.taken
  have hc := h.counted
  have hflog := st.session.funding.refund_log st.store
  generalize hs1 : State.logFailure .refundBillingSource (st.session.funding.refund st.store) = s1
  -- the funding source's own refund
  have hown : (s1.rows.taken st.session.funding.ledger =
        st.store.rows.taken st.session.funding.ledger - st.session.funding.counter ∧
        .refundBillingSource ∉ s1.log) ∨
      (s1.rows.taken st.session.funding.ledger = st.store.rows.taken st.session.funding.ledger ∧
        .refundBillingSource ∈ s1.log) := by
    subst hs1
    rw [State.logFailure_rows, State.mem_logFailure, hflog]
    rcases h.refund_funding.2 with ⟨hok, hr⟩ | ⟨hok, hr⟩
    · exact .inl ⟨hr, by simp [hok, hlog1]⟩
    · exact .inr ⟨by rw [hr], by simp [hok]⟩
  have hextra : .refundExtraReserved ∉ s1.log := by
    subst hs1
    rw [State.mem_logFailure, hflog]
    simp [hlog2]
  have hstore : st.refundClosure.store = st.refundToken (st.refundExtraReserved s1) := by
    subst hs1
    rfl
  have hmem1 : .refundBillingSource ∈ st.refundClosure.store.log ↔
      .refundBillingSource ∈ s1.log := by
    rw [hstore, mem_refundToken_log _ _ .refundBillingSource nofun,
      mem_refundExtraReserved_log _ _ .refundBillingSource nofun]
  have hmem2 : .refundExtraReserved ∈ st.refundClosure.store.log ↔
      .refundExtraReserved ∈ (st.refundExtraReserved s1).log := by
    rw [hstore, mem_refundToken_log _ _ .refundExtraReserved nofun]
  have hkept : keptBack st.refundClosure =
      (if .refundBillingSource ∈ s1.log then st.session.funding.counter else 0) +
        if .refundExtraReserved ∈ (st.refundExtraReserved s1).log then st.session.extraReserved
        else 0 := by
    unfold keptBack
    simp only [hmem1, hmem2]
    rfl
  rw [hkept, hstore, refundToken_taken _ _ st.session.funding.ledger_ne_token]
  unfold Counted at hc
  cases hfs : st.session.funding with
  | subscription f =>
    simp only [hfs] at hc
    have hpre : st.session.funding.counter = f.preConsumed := by rw [hfs]; rfl
    have hused : st.session.extraReserved ≤ s1.rows.subscriptions.used f.subscriptionId := by
      have htotal := hc.total
      have hnonneg := hc.pre_nonneg
      rw [hpre] at hown
      simp only [hfs, FundingSource.ledger, Rows.taken] at hown htaken
      rcases hown with ⟨hr, -⟩ | ⟨hr, -⟩ <;> omega
    have htotal := hc.total
    have hex := refundExtraReserved_cases hfs hc hextra hused
    rw [hpre] at hown
    rw [hfs] at htaken hown hex
    rcases hown with ⟨hr, hm⟩ | ⟨hr, hm⟩ <;> rcases hex with ⟨hr', hm'⟩ | ⟨hr', hm'⟩ <;>
      simp only [hm, hm', if_true, if_false, FundingSource.counter] <;> omega
  | wallet | organization =>
    simp only [hfs] at hc
    rw [refundExtraReserved_of_ne _ (by simp [hfs, FundingSource.source]), if_neg hextra]
    rw [hfs] at htaken hown
    simp only [FundingSource.counter] at hown ⊢
    rcases hown with ⟨hr, hm⟩ | ⟨hr, hm⟩ <;> simp only [hm, if_true, if_false] <;> omega

/-! ## Pre-consume -/

/-- A funding source that has taken nothing yet. A subscription source is built
with the amount that the session pre-consumes, and the request has no
pre-consume record. -/
def FreshFunding (fs : FundingSource) (quota : ℤ) (r : Rows) : Prop :=
  match fs with
  | .wallet f => f.consumed = 0
  | .organization f => f.consumed = 0
  | .subscription f => f.preConsumed = 0 ∧ f.amount = quota ∧ r.record = none

/-- A session before its pre-consume, as `NewBillingSession` builds it for a
wallet, an organization or a quota-mode subscription. -/
structure Fresh (quota : ℤ) (st : State) : Prop where
  session : st.session = .new st.session.funding false
  funding : FreshFunding st.session.funding quota st.store.rows
  log : .refundBillingSource ∉ st.store.log ∧ .refundExtraReserved ∉ st.store.log
  nonneg : 0 ≤ quota

/-- A session whose funding source has not been charged, relative to the rows `r0`
before it. Only the token may have moved. -/
structure Unused (quota : ℤ) (r0 : Rows) (st : State) : Prop where
  settled : st.session.settled = false
  refunded : st.session.refunded = false
  fundingSettled : st.session.fundingSettled = false
  preConsumedQuota : st.session.preConsumedQuota = 0
  extraReserved : st.session.extraReserved = 0
  funding : FreshFunding st.session.funding quota st.store.rows
  log : .refundBillingSource ∉ st.store.log ∧ .refundExtraReserved ∉ st.store.log
  same : ∀ l, l ≠ .token → st.store.rows.taken l = r0.taken l

/-- A session that holds nothing is open. -/
theorem Unused.open (h : Unused quota r0 st) : Open r0 st := by
  obtain ⟨hset, href, hfset, hpre, hextra, hfunding, hlog, hsame⟩ := h
  refine ⟨⟨?_, hpre.ge, ?_, hlog⟩, hset, href, hfset⟩
  · rw [hpre, add_zero]
    exact hsame _ st.session.funding.ledger_ne_token
  unfold FreshFunding at hfunding
  unfold Counted
  cases hfs : st.session.funding with
  | wallet | organization =>
    simp only [hfs] at hfunding ⊢
    rw [hfunding, hpre]
  | subscription f =>
    simp only [hfs] at hfunding ⊢
    exact ⟨by omega, hfunding.1.ge, hextra.ge, by omega, by omega⟩

/-- A pre-consume takes its amount and counts it, or does nothing. -/
theorem FundingSource.preConsume_fresh {fs fs' : FundingSource} {s' : Store}
    {e : Option FundingError} (hfs : FreshFunding fs quota s.rows)
    (hδ : 0 ≤ δ) (hquota : fs.source = .subscription → δ = quota)
    (hpre : fs.preConsume δ s = (e, fs', s')) :
    (e = none ∧ s'.rows.taken fs'.ledger = s.rows.taken fs'.ledger + δ ∧
        (∀ l, l ≠ fs'.ledger → s'.rows.taken l = s.rows.taken l) ∧ fs'.counter = δ ∧
        ∀ f, fs' = .subscription f →
          s'.rows.record = some ⟨f.subscriptionId, f.preConsumed, false⟩ ∧ 0 < f.subscriptionId) ∨
      (e ≠ none ∧ fs' = fs ∧ s'.rows = s.rows) := by
  have hcases := fun hne => preConsume_takes fs hne δ s
  cases fs with
  | wallet | organization =>
    obtain ⟨e', s'', heq, htakes⟩ := hcases (fun h => by cases h)
    rw [max_eq_right hδ] at heq htakes
    cases heq.symm.trans hpre
    cases e with
    | some e => exact .inr ⟨Option.some_ne_none _, rfl, htakes.applies.eq⟩
    | none =>
      have hm := htakes.applies.moves
      refine .inl ⟨rfl, hm.taken, hm.other, ?_, fun f hf => by cases hf⟩
      simpa [charge, counter, FreshFunding] using hfs
  | subscription f =>
    obtain ⟨-, hamount, hrec⟩ := hfs
    have hδq := hquota rfl
    have h := preConsumeUserSubscription_cases s f.usingGroup f.amount f.billingMode
      f.subscriptionId hrec
    simp only [preConsume] at hpre
    generalize preConsumeUserSubscription s f.usingGroup f.amount f.billingMode f.subscriptionId
      = res at h hpre
    obtain ⟨outcome, s''⟩ := res
    rcases h with ⟨e', rfl, hr⟩ | ⟨-, sub, hsub, -, rfl, hrec', hm⟩
    · cases hpre
      exact .inr ⟨Option.some_ne_none _, rfl, hr⟩
    cases hpre
    refine .inl ⟨rfl, ?_, hm.other, ?_, fun g hg => ?_⟩
    · rw [hδq, ← hamount]
      exact hm.taken
    · simp only [counter]
      omega
    · obtain rfl := FundingSource.subscription.inj hg
      exact ⟨hrec', s.rows.subscriptions.ids_pos sub hsub⟩

/-- A step that leaves the funds and the record alone leaves the funding source unused. -/
theorem Unused.of_store (h : Unused quota r0 st) (n : ℤ) (trusted : Bool)
    (htaken : ∀ l, l ≠ .token → s.rows.taken l = st.store.rows.taken l)
    (hrecord : s.rows.record = st.store.rows.record) (hlog : Clean s.log) :
    Unused quota r0 { st with
      store := s
      session := { st.session with tokenConsumed := n, trusted := trusted } } where
  settled := h.settled
  refunded := h.refunded
  fundingSettled := h.fundingSettled
  preConsumedQuota := h.preConsumedQuota
  extraReserved := h.extraReserved
  funding := by
    have hfunding := h.funding
    unfold FreshFunding at hfunding ⊢
    cases hfs : st.session.funding with
    | subscription f =>
      simp only [hfs] at hfunding ⊢
      exact ⟨hfunding.1, hfunding.2.1, hrecord.trans hfunding.2.2⟩
    | _ => simpa only [hfs] using hfunding
  log := hlog
  same l hl := (htaken l hl).trans (h.same l hl)

/-- A step that only touches the token leaves the funding source unused. -/
theorem Unused.of_token (h : Unused quota r0 st) (ht : TokenOnly st.store s) (n : ℤ)
    (trusted : Bool) :
    Unused quota r0 { st with
      store := s
      session := { st.session with tokenConsumed := n, trusted := trusted } } :=
  h.of_store n trusted ht.taken ht.record (by rw [ht.log]; exact h.log)

section

variable (h : Unused quota r0 st) (hδ : 0 ≤ δ)
  (hquota : st.session.funding.source = .subscription → δ = quota)

include h hδ hquota

/-- Charging the funding source leaves the session open. -/
theorem Unused.charged {fs : FundingSource}
    (hpre : st.session.funding.preConsume δ st.store = (none, fs, s)) :
    Open r0 (State.syncRelayInfo { st with
      store := s
      session := { st.session with funding := fs, preConsumedQuota := δ } }) := by
  have hextra := h.extraReserved
  have hlog := (FundingSource.preConsume_frame hpre).2.log
  rcases preConsume_fresh h.funding hδ hquota hpre with
    ⟨-, htaken, -, hcounter, hrecord⟩ | ⟨hno, -⟩
  · refine ⟨⟨?_, ?_, ?_, ?_⟩, by simpa using h.settled, by simpa using h.refunded,
      by simpa using h.fundingSettled⟩
    · simp only [syncRelayInfo_store, syncRelayInfo_session]
      rw [htaken, h.same _ fs.ledger_ne_token]
    · simpa using hδ
    · unfold Counted
      cases fs with
      | wallet | organization => exact hcounter
      | subscription f =>
        simp only [FundingSource.counter] at hcounter
        refine ⟨?_, by omega, ?_, fun _ => ?_, fun hpos => ?_⟩
        · simp only [syncRelayInfo_session]
          omega
        · simp only [syncRelayInfo_session]
          omega
        · simpa using (hrecord f rfl).1
        · simp only [syncRelayInfo_session] at hpos
          omega
    · simp only [syncRelayInfo_store, hlog]
      exact h.log
  · exact absurd rfl hno

/-- A refused charge leaves the funding source unused. -/
theorem Unused.refused {fs : FundingSource} {e : FundingError}
    (hpre : st.session.funding.preConsume δ st.store = (some e, fs, s)) :
    fs = st.session.funding ∧ s.rows = st.store.rows ∧
      Unused quota r0 (State.rollbackToken { st with
        store := s
        session := { st.session with funding := fs } }) := by
  have hlog := (FundingSource.preConsume_frame hpre).2.log
  rcases preConsume_fresh h.funding hδ hquota hpre with ⟨hno, -⟩ | ⟨-, rfl, hrows⟩
  · cases hno
  refine ⟨rfl, hrows, ?_⟩
  obtain ⟨ok, s', n, heq, ht⟩ := State.rollbackToken_takes { st with
    store := s, session := { st.session with funding := st.session.funding } }
  rw [heq]
  refine h.of_store n _ (fun l hl => ?_) ?_ ?_
  · rw [State.logFailure_rows, ht.applies.other hl, hrows]
  · rw [State.logFailure_rows, ht.applies.record, hrows]
  · simp only [Clean, State.mem_logFailure, ht.leaves.log, hlog]
    simpa using h.log

end

/-- Whether it succeeds or not, the pre-consume leaves the session open. -/
theorem Unused.preConsume (h : Unused quota st.store.rows st) (htok : st.session.tokenConsumed = 0)
    (hnonneg : 0 ≤ quota) : Open st.store.rows (st.preConsume quota).2 := by
  generalize hres : st.preConsume quota = res
  have hcases := hres ▸ preConsume_preConsumes htok quota
  cases hcases with
  | token trusted ht => exact (h.of_token ht.tokenOnly _ trusted).open
  | funding n trusted hp hpre =>
    have hunused := h.of_token hp.takes.tokenOnly n trusted
    exact (hunused.refused (hp.quota hnonneg).1 (hp.quota hnonneg).2 hpre).2.2.open
  | charged n trusted hp hpre =>
    have hunused := h.of_token hp.takes.tokenOnly n trusted
    exact hunused.charged (hp.quota hnonneg).1 (hp.quota hnonneg).2 hpre

theorem Fresh.unused (h : Fresh quota st) : Unused quota st.store.rows st := by
  have hsession := h.session
  generalize hfs : st.session.funding = fs at hsession
  refine ⟨?_, ?_, ?_, ?_, ?_, h.funding, h.log, fun _ _ => rfl⟩
  all_goals rw [hsession]; rfl

end OmniRouters.Billing
