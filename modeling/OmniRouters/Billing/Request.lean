import OmniRouters.Billing.Frame

/-!
# Billing a request

Models of `NewBillingSession` (service/billing_session.go:464-611), which
picks the funding source by the user's billing preference, and of
`PreConsumeBilling`, `SettleBilling` (`service/billing.go`) and
`PostConsumeQuota` (`service/quota.go`), which the relay calls around a request.

A `Request` carries its session, if it has one: a free request has none, and its
settlement then takes the charge directly.
-/

namespace OmniRouters.Billing

open RelayInfo

/-- The state of a request: the store, its `RelayInfo` and `RelayInfo.Billing`. -/
structure Request where
  store : Store
  info : RelayInfo
  billing : Option BillingSession
deriving DecidableEq

/-! ## `NewBillingSession` -/

/-- Builds a session over `funding` and pre-consumes `quota`; an error drops the
session. -/
def openSession (store : Store) (info : RelayInfo) (funding : FundingSource)
    (tokenSubscription : Bool) (quota : ℤ) : Option ErrorCode × Request :=
  let st : State := { store := store, info := info, session := .new funding tokenSubscription }
  match st.preConsume quota with
  | (some e, st) => (some e, { store := st.store, info := st.info, billing := none })
  | (none, st) => (none, { store := st.store, info := st.info, billing := some st.session })

/-- `subConsume`: a subscription pre-consumes at least one unit. -/
def atLeastOne (quota : ℤ) : ℤ := if quota ≤ 0 then 1 else quota

theorem atLeastOne_nonneg (quota : ℤ) : 0 ≤ atLeastOne quota := by
  unfold atLeastOne
  split <;> omega

/-- `tryWallet` (billing_session.go:520-549). -/
def tryWallet (rq : Request) (quota : ℤ) : Option ErrorCode × Request :=
  if rq.store.down then (some .queryDataError, { rq with store := rq.store.next })
  else
    let store := rq.store.next
    let userQuota := store.rows.userQuota
    if userQuota ≤ 0 then (some .insufficientUserQuota, { rq with store := store })
    else if userQuota - quota < 0 then (some .insufficientUserQuota, { rq with store := store })
    else openSession store { rq.info with userQuota := userQuota } (.wallet ⟨0⟩) false quota

/-- `trySubscription` (billing_session.go:551-576). -/
def trySubscription (rq : Request) (quota : ℤ) : Option ErrorCode × Request :=
  let subConsume := atLeastOne quota
  match openSession rq.store rq.info
      (.subscription ⟨rq.info.usingGroup, subConsume, .quota, 0, 0, []⟩) false subConsume with
  | (some e, rq) => (some e, rq)
  | (none, rq) =>
    if rq.info.subscriptionAllowedGroups ≠ [] then
      (none, { rq with
        info := { rq.info with allowedGroups := rq.info.subscriptionAllowedGroups } })
    else (none, rq)

/-- The switch over the billing preference
(billing_session.go:578-610). -/
def byPreference (rq : Request) (quota : ℤ) : Option ErrorCode × Request :=
  match rq.info.billingPreference with
  | .subscriptionOnly => trySubscription rq quota
  | .walletOnly => tryWallet rq quota
  | .walletFirst =>
    match tryWallet rq quota with
    | (none, rq) => (none, rq)
    | (some e, rq) =>
      if e = .insufficientUserQuota then trySubscription rq quota else (some e, rq)
  | .subscriptionFirst =>
    -- `HasActiveUserSubscription`
    if rq.store.down then (some .queryDataError, { rq with store := rq.store.next })
    else
      let rq := { rq with store := rq.store.next }
      if rq.store.rows.subscriptions.list.isEmpty then tryWallet rq quota
      else match trySubscription rq quota with
        | (none, rq) => (none, rq)
        | (some e, rq) =>
          if e = .insufficientUserQuota then tryWallet rq quota else (some e, rq)

/-- `NewBillingSession` (billing_session.go:464-611). -/
def newBillingSession (rq : Request) (quota : ℤ) : Option ErrorCode × Request :=
  if 0 < rq.info.organizationId then
    if rq.info.subscriptionKey ≠ none then (some .invalidRequest, rq)
    else openSession rq.store rq.info (.organization ⟨0⟩) false quota
  else match rq.info.subscriptionKey with
    | none => byPreference rq quota
    | some mode =>
      -- standalone tools are charged to the wallet even for a subscription key
      if rq.info.isStandaloneTool then
        openSession rq.store rq.info (.wallet ⟨0⟩) false quota
      else match mode with
        | .quota =>
          let reservation := atLeastOne quota
          openSession rq.store rq.info
            (.subscription
              ⟨rq.info.usingGroup, reservation, .quota, rq.info.subscriptionId, 0, []⟩)
            false reservation
        | .token =>
          let reservation := atLeastOne rq.info.estimateTokens
          openSession rq.store rq.info
            (.subscription
              ⟨rq.info.usingGroup, reservation, .token, rq.info.subscriptionId, 0, []⟩)
            true reservation

/-! ## `PreConsumeBilling` and `SettleBilling` -/

/-- The session's view of a request that has one. -/
def Request.state (rq : Request) (session : BillingSession) : State :=
  { store := rq.store, info := rq.info, session := session }

/-- A request after an operation of its session. -/
def Request.ofState (st : State) : Request :=
  { store := st.store, info := st.info, billing := some st.session }

/-- `PreConsumeBilling` (billing.go:22-56) of a quota that was not
clamped. -/
def preConsumeBilling (rq : Request) (quota : ℤ) : Option ErrorCode × Request :=
  if quota < 0 then (some .modelPriceError, rq)
  else match rq.billing with
    | some session =>
      match (rq.state session).reserve quota true with
      | (e, st) => (e, .ofState st)
    | none => newBillingSession rq quota

/-- The funding step of `PostConsumeQuota` (quota.go:461-490), by
the request's billing source. -/
def postConsumeFunding (rq : Request) (quota : ℤ) : Bool × Request :=
  if 0 < rq.info.organizationId then
    match adjustOrganizationQuota rq.store quota with
    | (ok, s) => (ok, { rq with store := s })
  else if rq.info.billingSource = some .organization then (false, rq)
  else if rq.info.billingSource = some .subscription then
    if rq.info.subscriptionId = 0 then (false, rq)
    else if quota = 0 then (true, rq)
    else match postConsumeUserSubscriptionDelta rq.store rq.info.subscriptionId quota with
      | (false, s) => (false, { rq with store := s })
      | (true, s) =>
        (true, { rq with
          store := s
          info := { rq.info with
            subscriptionPostDelta := rq.info.subscriptionPostDelta + quota } })
  else
    match (if 0 < quota then decreaseUserQuota rq.store quota
      else increaseUserQuota rq.store (-quota)) with
    | (ok, s) => (ok, { rq with store := s })

/-- The token step of `PostConsumeQuota` (quota.go:493-503). -/
def postConsumeToken (rq : Request) (quota : ℤ) : Bool × Request :=
  if rq.info.isPlayground then (true, rq)
  else
    match (if 0 < quota then decreaseTokenQuota rq.store quota
      else increaseTokenQuota rq.store (-quota)) with
    | (ok, s) => (ok, { rq with store := s })

/-- `PostConsumeQuota` (quota.go:454-512). -/
def postConsumeQuota (rq : Request) (quota : ℤ) : Bool × Request :=
  match postConsumeFunding rq quota with
  | (false, rq) => (false, rq)
  | (true, rq) => postConsumeToken rq quota

/-- `IsTokenSubscriptionRequest` (service/subscription_access.go:29-31). -/
def RelayInfo.isTokenSubscriptionRequest (info : RelayInfo) : Bool :=
  info.subscriptionKey = some .token && !info.isStandaloneTool

/-- `SettleBilling` (billing.go:63-112). -/
def settleBilling (rq : Request) (actualQuota : ℤ) : Bool × Request :=
  match rq.billing with
  | some session =>
    if rq.info.isTokenSubscriptionRequest then
      match (rq.state session).settleTokenBilling actualQuota 0 with
      | (ok, st) => (ok, .ofState st)
    else match (rq.state session).settle actualQuota with
      | (ok, st) => (ok, .ofState st)
  | none =>
    let quotaDelta := actualQuota - rq.info.finalPreConsumedQuota
    if quotaDelta = 0 then (true, rq) else postConsumeQuota rq quotaDelta

/-- The start of billing in `Relay` (controller/relay.go:189-196): a free
request is given no session. -/
def startBilling (rq : Request) (freeModel : Bool) (quota : ℤ) : Option ErrorCode × Request :=
  if freeModel && !rq.info.isTokenSubscriptionRequest then (none, rq)
  else preConsumeBilling rq quota

/-- `Billing.Refund`, for a request that has a session. -/
def refundBilling (rq : Request) : Request :=
  match rq.billing with
  | some session => .ofState (rq.state session).refund
  | none => rq

/-! ## Outcomes of `NewBillingSession` -/

/-- The fields of `RelayInfo` that are set when the request is admitted. -/
def RelayInfo.fixed (info : RelayInfo) : RelayInfo :=
  { info with
    userQuota := 0
    finalPreConsumedQuota := 0
    billingSource := none
    subscriptionId := 0
    subscriptionPostDelta := 0
    subscriptionAllowedGroups := []
    allowedGroups := [] }

variable {info info' : RelayInfo} {rq rq' rq'' : Request} {r0 : Rows} {session : BillingSession}
  {quota : ℤ} {kinds : BillingSource → Prop} {res : Option ErrorCode × Request}

section

variable (h : info.fixed = info'.fixed)

include h

theorem RelayInfo.isPlayground_of_fixed : info.isPlayground = info'.isPlayground := by
  have hp := congrArg (fun i : RelayInfo => i.isPlayground) h
  exact hp

theorem RelayInfo.tokenShare_of_fixed (q : ℤ) : info.tokenShare q = info'.tokenShare q := by
  unfold tokenShare
  rw [isPlayground_of_fixed h]

theorem RelayInfo.organizationId_of_fixed : info.organizationId = info'.organizationId := by
  have ho := congrArg (fun i : RelayInfo => i.organizationId) h
  exact ho

theorem RelayInfo.subscriptionKey_of_fixed : info.subscriptionKey = info'.subscriptionKey := by
  have hk := congrArg (fun i : RelayInfo => i.subscriptionKey) h
  exact hk

end

theorem State.syncRelayInfo_fixed (st : State) : st.syncRelayInfo.info.fixed = st.info.fixed := by
  unfold State.syncRelayInfo
  split <;> rfl

theorem State.syncRelayInfo_billingSource (st : State) :
    st.syncRelayInfo.info.billingSource = some st.session.funding.source := by
  unfold State.syncRelayInfo
  split <;> rfl

/-- The request has a session that holds its reservation, relative to the rows `r0`
before billing began. -/
structure Funded (r0 : Rows) (info : RelayInfo) (rq : Request) (session : BillingSession) :
    Prop where
  billing : rq.billing = some session
  isOpen : Open r0 (rq.state session)
  spares : Spares session.funding.ledger r0 rq.store.rows
  token : (∀ q, .rollbackTokenQuota q ∉ rq.store.log) →
    rq.store.rows.taken .token = r0.taken .token + info.tokenShare session.tokenConsumed
  tokens : session.TokensCounted
  mode : session.tokenSubscription = info.isTokenSubscriptionRequest
  billingSource : rq.info.billingSource = some session.funding.source
  subscriptionId : ∀ f, session.funding = .subscription f →
    rq.info.subscriptionId = f.subscriptionId ∧ 0 < f.subscriptionId
  fixed : rq.info.fixed = info.fixed

/-- The request has no session and its ledgers stand, up to a token rollback that
failed and was logged. -/
structure Unfunded (rq rq' : Request) : Prop where
  billing : rq'.billing = none
  taken : ∀ l, l ≠ .token → rq'.store.rows.taken l = rq.store.rows.taken l
  token : (∀ q, .rollbackTokenQuota q ∉ rq'.store.log) →
    rq'.store.rows.taken .token = rq.store.rows.taken .token
  record : rq'.store.rows.record = rq.store.rows.record
  log : (∀ line, line ∈ rq.store.log → line ∈ rq'.store.log) ∧
    ∀ line, line ∈ rq'.store.log → line ∈ rq.store.log ∨ ∃ q, line = .rollbackTokenQuota q
  info : rq'.info = { rq.info with userQuota := rq'.info.userQuota }

theorem Unfunded.fixed (h : Unfunded rq rq') : rq'.info.fixed = rq.info.fixed := by
  rw [h.info]
  rfl

theorem RelayInfo.isTokenSubscriptionRequest_of_fixed (h : info.fixed = info'.fixed) :
    info.isTokenSubscriptionRequest = info'.isTokenSubscriptionRequest := by
  have ht := congrArg isTokenSubscriptionRequest h
  exact ht

theorem Funded.tokenConsumed_eq (h : Funded r0 info rq session)
    (hkey : info.isTokenSubscriptionRequest = false) :
    session.tokenConsumed = session.preConsumedQuota := by
  have ht := h.tokens
  unfold BillingSession.TokensCounted at ht
  rwa [h.mode, hkey, if_neg nofun] at ht

theorem Unfunded.key (h : Unfunded rq rq') :
    rq'.info.isTokenSubscriptionRequest = rq.info.isTokenSubscriptionRequest :=
  isTokenSubscriptionRequest_of_fixed h.fixed

/-- Only the rows' ledgers matter to what a session holds. -/
theorem Funded.congr {r0' : Rows} (h : Funded r0 info rq session)
    (hr : ∀ l, l ≠ .token → r0.taken l = r0'.taken l)
    (ht : (∀ q, .rollbackTokenQuota q ∉ rq.store.log) → r0.taken .token = r0'.taken .token)
    (hinfo : info.fixed = info'.fixed) : Funded r0' info' rq session := by
  refine { h with
    isOpen := { h.isOpen with taken := ?_ }
    spares := fun l hl ht => ?_
    token := fun hlog => ?_
    mode := h.mode.trans (isTokenSubscriptionRequest_of_fixed hinfo)
    fixed := h.fixed.trans hinfo }
  · rw [h.isOpen.taken, hr _ (rq.state session).session.funding.ledger_ne_token]
  · rw [h.spares l hl ht, hr l ht]
  · rw [h.token hlog, ht hlog, tokenShare_of_fixed hinfo]

theorem Unfunded.trans (h : Unfunded rq rq') (h' : Unfunded rq' rq'') : Unfunded rq rq'' where
  billing := h'.billing
  taken l hl := (h'.taken l hl).trans (h.taken l hl)
  token hq := (h'.token hq).trans (h.token fun q hmem => hq q (h'.log.1 _ hmem))
  record := h'.record.trans h.record
  log := by
    refine ⟨fun line hl => h'.log.1 line (h.log.1 line hl), fun line hl => ?_⟩
    rcases h'.log.2 line hl with hl | hl
    · exact h.log.2 line hl
    · exact .inr hl
  info := by rw [h'.info, h.info]

/-- A failed attempt before the one that funds the request has moved nothing. -/
theorem Funded.after (h : Unfunded rq rq') (h' : Funded rq'.store.rows rq'.info rq'' session)
    (hmem : ∀ line, line ∈ rq'.store.log → line ∈ rq''.store.log) :
    Funded rq.store.rows rq.info rq'' session :=
  h'.congr h.taken (fun hlog => h.token fun q hq => hlog q (hmem _ hq)) h.fixed

/-- Everything `openSession` can do. -/
theorem openSession_cases (store : Store) (info : RelayInfo) (funding : FundingSource) (quota : ℤ)
    (tokenSubscription : Bool) (hts : tokenSubscription = info.isTokenSubscriptionRequest)
    (hmode : tokenSubscription = true → funding.source = .subscription)
    (hfunding : FreshFunding funding quota store.rows) (hlog : Clean store.log)
    (hquota : 0 ≤ quota) :
    ((openSession store info funding tokenSubscription quota).1 = none ∧
        (openSession store info funding tokenSubscription quota).2.store.log = store.log ∧
        ∃ session, session.funding.source = funding.source ∧ Funded store.rows info
          (openSession store info funding tokenSubscription quota).2 session) ∨
      ((openSession store info funding tokenSubscription quota).1 ≠ none ∧
        Unfunded ⟨store, info, none⟩
          (openSession store info funding tokenSubscription quota).2) := by
  generalize hst : ({ store := store, info := info, session := .new funding tokenSubscription } :
    State) = st0
  have hcases := @preConsume_new quota st0 tokenSubscription (by rw [← hst]; rfl)
    (by rw [← hst]; exact hmode) (by rw [← hst]; exact hfunding) (by rw [← hst]; exact hlog) hquota
  obtain ⟨hsource, hsub⟩ := (@State.preConsume_preConsumes st0 (by rw [← hst]; rfl) quota).session
  unfold openSession
  simp only [hst]
  generalize st0.preConsume quota = res at hcases hsource hsub ⊢
  obtain ⟨e, st⟩ := res
  subst hst
  rcases hcases with ⟨he, hopened, hl⟩ | ⟨he, hun⟩
  · subst he
    refine .inl ⟨rfl, hl, st.session, hsource, rfl, hopened.isOpen, hopened.spares,
      fun _ => hopened.token, hopened.tokens, hsub.trans hts, ?_, ?_, ?_⟩
    · simp only
      rw [hopened.info]
      exact State.syncRelayInfo_billingSource _
    · intro f hf
      simp only
      rw [hopened.info]
      exact ⟨State.syncRelayInfo_subscriptionId hf, hopened.subscriptionId f hf⟩
    · simp only
      rw [hopened.info]
      exact State.syncRelayInfo_fixed _
  · cases e with
    | none => exact absurd rfl he
    | some e =>
      simp only at hun
      exact .inr ⟨nofun, rfl, hun.taken, hun.token, hun.record, hun.log, by simp only [hun.info]⟩

def BillingPreference.Admits : BillingPreference → BillingSource → Prop
  | .subscriptionOnly, source => source = .subscription
  | .walletOnly, source => source = .wallet
  | _, source => source = .wallet ∨ source = .subscription

theorem BillingPreference.Admits.ne_organization {pref : BillingPreference} {source : BillingSource}
    (h : pref.Admits source) : source ≠ .organization := by
  rintro rfl
  cases pref <;> simp [BillingPreference.Admits] at h

/-- The outcome of an attempt to fund a request with a source of the given kinds. -/
def Attempt (kinds : BillingSource → Prop) (rq : Request) (res : Option ErrorCode × Request) :
    Prop :=
  (res.1 = none ∧ (∀ line, line ∈ rq.store.log → line ∈ res.2.store.log) ∧
      ∃ session, kinds session.funding.source ∧ Funded rq.store.rows rq.info res.2 session) ∨
    (res.1 ≠ none ∧ Unfunded rq res.2)

/-- An open session reads only the subscription from `RelayInfo`. -/
theorem Open.setInfo (h : Open r0 (rq.state session)) {info : RelayInfo}
    (hid : info.subscriptionId = rq.info.subscriptionId) :
    Open r0 (Request.state { rq with info := info } session) := by
  refine { h with counted := ?_ }
  have hc := h.counted
  unfold Counted at hc ⊢
  simp only [Request.state] at hc ⊢
  cases hfs : session.funding with
  | subscription f =>
    simp only [hfs] at hc ⊢
    exact { hc with bound := fun hx => ⟨hid.trans (hc.bound hx).1, (hc.bound hx).2⟩ }
  | _ => simpa only [hfs] using hc

/-- Reading the database changes nothing. -/
theorem Unfunded.read (hb : rq.billing = none) : Unfunded rq { rq with store := rq.store.next } :=
  ⟨hb, fun _ _ => rfl, fun _ => rfl, rfl, ⟨fun _ h => h, fun _ h => .inl h⟩, rfl⟩

theorem tryWallet_attempt (hb : rq.billing = none)
    (hkey : rq.info.isTokenSubscriptionRequest = false) (hlog : Clean rq.store.log)
    (hquota : 0 ≤ quota) : Attempt (· = .wallet) rq (tryWallet rq quota) := by
  unfold tryWallet
  split
  · exact .inr ⟨nofun, .read hb⟩
  simp only
  split
  · exact .inr ⟨nofun, .read hb⟩
  split
  · exact .inr ⟨nofun, .read hb⟩
  have hcases := openSession_cases rq.store.next
    { rq.info with userQuota := rq.store.next.rows.userQuota } (.wallet ⟨0⟩) quota false hkey.symm
    nofun rfl hlog hquota
  rcases hcases with ⟨hok, hl, session, hs, hf⟩ | ⟨hok, hun⟩
  · refine .inl ⟨hok, fun line h => by rw [hl]; exact h, session, hs, ?_⟩
    exact hf.congr (fun _ _ => rfl) (fun _ => rfl) rfl
  · refine .inr ⟨hok, hun.billing, hun.taken, hun.token, hun.record, hun.log, ?_⟩
    rw [hun.info]

theorem trySubscription_attempt (quota : ℤ) (hkey : rq.info.isTokenSubscriptionRequest = false)
    (hrec : rq.store.rows.record = none) (hlog : Clean rq.store.log) :
    Attempt (· = .subscription) rq (trySubscription rq quota) := by
  have hcases := openSession_cases rq.store rq.info
    (.subscription ⟨rq.info.usingGroup, atLeastOne quota, .quota, 0, 0, []⟩) (atLeastOne quota)
    false hkey.symm nofun ⟨rfl, rfl, hrec⟩ hlog (atLeastOne_nonneg quota)
  unfold trySubscription
  simp only
  generalize openSession rq.store rq.info _ false (atLeastOne quota) = res at hcases ⊢
  obtain ⟨e, rq'⟩ := res
  rcases hcases with ⟨rfl, hl, session, hs, hf⟩ | ⟨hok, hun⟩
  · have hmem : ∀ line, line ∈ rq.store.log → line ∈ rq'.store.log := fun line h => by
      rw [hl]; exact h
    simp only
    split
    · exact .inl ⟨rfl, hmem, session, hs, { hf with isOpen := hf.isOpen.setInfo rfl }⟩
    · exact .inl ⟨rfl, hmem, session, hs, hf⟩
  · cases e with
    | none => exact absurd rfl hok
    | some e =>
      exact .inr ⟨nofun, hun.billing, hun.taken, hun.token, hun.record, hun.log, hun.info⟩

/-- A second attempt after one that moved nothing. -/
theorem Attempt.after (h : Unfunded rq rq') (h' : Attempt kinds rq' res) :
    Attempt kinds rq res := by
  rcases h' with ⟨hok, hmem, session, hk, hf⟩ | ⟨hok, hun⟩
  · exact .inl ⟨hok, fun line hl => hmem line (h.log.1 line hl), session, hk,
      Funded.after h hf hmem⟩
  · exact .inr ⟨hok, h.trans hun⟩

theorem Attempt.mono {kinds' : BillingSource → Prop} (h : Attempt kinds rq res)
    (hk : ∀ s, kinds s → kinds' s) : Attempt kinds' rq res := by
  rcases h with ⟨hok, hmem, session, hs, hf⟩ | h
  · exact .inl ⟨hok, hmem, session, hk _ hs, hf⟩
  · exact .inr h

theorem Unfunded.log_refund (h : Unfunded rq rq') (hlog : Clean rq.store.log) :
    Clean rq'.store.log := by
  refine ⟨fun hm => ?_, fun hm => ?_⟩
  · rcases h.log.2 _ hm with hm | ⟨q, hq⟩
    · exact hlog.1 hm
    · cases hq
  · rcases h.log.2 _ hm with hm | ⟨q, hq⟩
    · exact hlog.2 hm
    · cases hq

/-- **The billing preference.** A request is funded by a source that its preference
admits, or not at all. -/
theorem byPreference_attempt (hb : rq.billing = none)
    (hkey : rq.info.isTokenSubscriptionRequest = false) (hrec : rq.store.rows.record = none)
    (hlog : Clean rq.store.log) (hquota : 0 ≤ quota) :
    Attempt rq.info.billingPreference.Admits rq (byPreference rq quota) := by
  unfold byPreference
  cases hpref : rq.info.billingPreference with
  | subscriptionOnly => exact trySubscription_attempt quota hkey hrec hlog
  | walletOnly => exact tryWallet_attempt hb hkey hlog hquota
  | walletFirst =>
    have hw := tryWallet_attempt hb hkey hlog hquota
    generalize tryWallet rq quota = res at hw ⊢
    obtain ⟨e, rq'⟩ := res
    cases e with
    | none => exact hw.mono fun s hs => .inl hs
    | some e =>
      rcases hw with ⟨hok, -⟩ | ⟨hok, hun⟩
      · cases hok
      simp only at hun ⊢
      split
      · have hs := trySubscription_attempt quota (hun.key.trans hkey)
          (hun.record.trans hrec) (hun.log_refund hlog)
        exact (Attempt.after hun hs).mono fun s hs => .inr hs
      · exact .inr ⟨nofun, hun⟩
  | subscriptionFirst =>
    simp only
    split
    · exact .inr ⟨nofun, .read hb⟩
    have hread := Unfunded.read hb
    have hlog1 := hread.log_refund hlog
    have hrec1 := hread.record.trans hrec
    have hkey1 := hread.key.trans hkey
    split
    · exact (Attempt.after hread (tryWallet_attempt hread.billing hkey1 hlog1 hquota)).mono
        fun s hs => .inl hs
    have hs := trySubscription_attempt quota hkey1 hrec1 hlog1
    generalize trySubscription _ quota = res at hs ⊢
    obtain ⟨e, rq'⟩ := res
    cases e with
    | none => exact (Attempt.after hread hs).mono fun s hs => .inr hs
    | some e =>
      rcases hs with ⟨hok, -⟩ | ⟨hok, hun⟩
      · cases hok
      simp only at hun ⊢
      split
      · have hw := tryWallet_attempt hun.billing (hun.key.trans hkey1)
          (hun.log_refund hlog1) hquota
        exact (Attempt.after hread (Attempt.after hun hw)).mono fun s hs => .inl hs
      · exact .inr ⟨nofun, hread.trans hun⟩

/-- The organization's quota is a source of its members' requests, and of no others. -/
def RelayInfo.FundedBy (info : RelayInfo) (source : BillingSource) : Prop :=
  source = .organization ↔ 0 < info.organizationId

/-- `NewBillingSession`, for every kind of key. -/
theorem newBillingSession_attempt (hb : rq.billing = none) (hrec : rq.store.rows.record = none)
    (hlog : Clean rq.store.log) (hquota : 0 ≤ quota) :
    Attempt rq.info.FundedBy rq (newBillingSession rq quota) := by
  have hopen : ∀ (funding : FundingSource) (ts : Bool) (q : ℤ),
      ts = rq.info.isTokenSubscriptionRequest → (ts = true → funding.source = .subscription) →
      FreshFunding funding q rq.store.rows → 0 ≤ q → rq.info.FundedBy funding.source →
      Attempt rq.info.FundedBy rq (openSession rq.store rq.info funding ts q) := by
    intro funding ts q hts hmode hfresh hq hsource
    rcases openSession_cases rq.store rq.info funding q ts hts hmode hfresh hlog hq with
      ⟨hok, hl, session, hs, hf⟩ | ⟨hok, hun⟩
    · refine .inl ⟨hok, fun line h => by rw [hl]; exact h, session, ?_, hf⟩
      rw [hs]
      exact hsource
    · exact .inr ⟨hok, hun.billing, hun.taken, hun.token, hun.record, hun.log, hun.info⟩
  have hother : ¬0 < rq.info.organizationId → ∀ source, source ≠ .organization →
      rq.info.FundedBy source := fun horg source hne => iff_of_false hne horg
  fun_cases newBillingSession rq quota
  case case1 =>
    exact .inr ⟨nofun, hb, fun _ _ => rfl, fun _ => rfl, rfl,
      ⟨fun _ h => h, fun _ h => .inl h⟩, rfl⟩
  case case2 horg hkey =>
    refine hopen _ _ _ ?_ nofun rfl hquota (iff_of_true rfl horg)
    simp [isTokenSubscriptionRequest, not_not.1 hkey]
  case case3 horg hkey =>
    refine (byPreference_attempt hb ?_ hrec hlog hquota).mono
      fun source hadmits => hother horg source hadmits.ne_organization
    simp [isTokenSubscriptionRequest, hkey]
  case case4 horg _ _ htool =>
    refine hopen _ _ _ ?_ nofun rfl hquota (hother horg _ nofun)
    simp [isTokenSubscriptionRequest, htool]
  case case5 horg _ _ hkey =>
    refine hopen _ _ _ ?_ nofun ⟨rfl, rfl, hrec⟩ (atLeastOne_nonneg _) (hother horg _ nofun)
    simp [isTokenSubscriptionRequest, hkey]
  case case6 horg htool _ hkey =>
    refine hopen _ _ _ ?_ (fun _ => rfl) ⟨rfl, rfl, hrec⟩ (atLeastOne_nonneg _)
      (hother horg _ nofun)
    simp [isTokenSubscriptionRequest, hkey, htool]

end OmniRouters.Billing
