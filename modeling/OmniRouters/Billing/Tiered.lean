import OmniRouters.Billing.RequestLife

/-!
# Reservations before an upstream attempt

Models of `refreshTieredBillingGroup` and `PrepareTieredBillingForSelectedGroup`
(`service/tiered_settle.go`) and of the end of `PrepareImageBillingForRequest`
(`service/image_billing.go`). Each brings the reservation of a request up to the
price of the attempt that follows, and opens a session if there is none yet.

* `Phase.reserveOrOpen`, `Phase.prepareTiered`, `Phase.prepareImage`: they keep a
  request to its phases.
-/

namespace OmniRouters.Billing

/-! ## Models -/

/-- The fields of `billingexpr.BillingSnapshot` that depend on the group. -/
structure BillingSnapshot where
  groupRatio : ℚ
  estimatedQuotaBeforeGroup : ℚ
  estimatedQuotaAfterGroup : ℤ
deriving DecidableEq

/-- `refreshTieredBillingGroup` (tiered_settle.go:168-191) for a
request priced by an expression; `none` is the error of a clamped quota. -/
def refreshTieredBillingGroup (snap : BillingSnapshot) (groupRatio : ℚ) : Option BillingSnapshot :=
  if snap.groupRatio = groupRatio then some snap
  else match quotaRoundStrict (snap.estimatedQuotaBeforeGroup * groupRatio) with
    | none => none
    | some estimatedQuota =>
      some { snap with groupRatio := groupRatio, estimatedQuotaAfterGroup := estimatedQuota }

/-- What the two preparations share: a request without a session opens one, and one
with a session reserves what is missing. Every error of `Reserve` has a code of its own
(billing_session.go:320-399), which both keep: `types.NewError` replaces the code only of an
error without one (relaykit/types/error.go:244-252). -/
def reserveOrOpen (rq : Request) (quota : ℤ) : Option ErrorCode × Request :=
  match rq.billing with
  | none => preConsumeBilling rq quota
  | some session =>
    match (rq.state session).reserve quota false with
    | (some e, st) => (some e, .ofState st)
    | (none, st) =>
      (none, .ofState { st with
        info := { st.info with finalPreConsumedQuota := st.session.preConsumedQuota } })

/-- `PrepareTieredBillingForSelectedGroup` (tiered_settle.go:197-228).
A request that is not priced by an expression has no snapshot. -/
def prepareTieredBillingForSelectedGroup (snap : Option BillingSnapshot) (groupRatio : ℚ)
    (rq : Request) : Option ErrorCode × Option BillingSnapshot × Request :=
  match snap with
  | none => (none, none, rq)
  | some snap =>
    match refreshTieredBillingGroup snap groupRatio with
    | none => (some .modelPriceError, some snap, rq)
    | some snap =>
      if snap.groupRatio = 0 then (none, some snap, rq)
      else
        let (e, rq) := reserveOrOpen rq snap.estimatedQuotaAfterGroup
        (e, some snap, rq)

/-- The end of `PrepareImageBillingForRequest`
(image_billing.go:75-95), once the quota is computed. -/
def prepareImageBilling (rq : Request) (quota : ℤ) : Option ErrorCode × Request :=
  if quota = 0 ∧ rq.billing = none then (none, rq) else reserveOrOpen rq quota

/-! ## Phases -/

variable {r0 : Rows} {rq : Request}

/-- What a session holds depends on few fields of `RelayInfo`. -/
theorem Holding.setInfo {session : BillingSession} (h : Holding r0 rq session) {info : RelayInfo}
    (hmode : info.isTokenSubscriptionRequest = rq.info.isTokenSubscriptionRequest)
    (hsource : info.billingSource = rq.info.billingSource)
    (hid : info.subscriptionId = rq.info.subscriptionId)
    (horg : info.organizationId = rq.info.organizationId) :
    Holding r0 { rq with info := info } session where
  billing := h.billing
  isOpen := h.isOpen.setInfo hid
  spares := h.spares
  tokens := h.tokens
  mode := h.mode.trans hmode.symm
  billingSource := hsource.trans h.billingSource
  subscriptionId f hf := ⟨hid.trans (h.subscriptionId f hf).1, (h.subscriptionId f hf).2⟩
  fundedBy := by
    unfold RelayInfo.FundedBy
    rw [horg]
    exact h.fundedBy

section

variable (h : Phase r0 rq)

include h

/-- `ForcePreConsume` is no part of a request's phase. -/
theorem Phase.setForcePreConsume (b : Bool) :
    Phase r0 { rq with info := { rq.info with forcePreConsume := b } } := by
  rcases h with h | ⟨session, h⟩ | h
  · exact .inl { h with }
  · exact .inr (.inl ⟨session, h.setInfo rfl rfl rfl rfl⟩)
  · exact .inr (.inr h)

theorem Phase.reserveOrOpen (quota : ℤ) :
    Phase r0 (reserveOrOpen rq quota).2 := by
  fun_cases Billing.reserveOrOpen rq quota
  case case1 => exact h.preConsumeBilling quota
  case case2 hb _ _ hres =>
    have hr := h.reserve hb quota false
    rw [hres] at hr
    exact hr
  case case3 hb _ hres =>
    have hr := h.reserve hb quota false
    rw [hres] at hr
    rcases hr with hr | ⟨session', hr⟩ | hr
    · exact absurd hr.billing nofun
    · exact .inr (.inl ⟨session', hr.setInfo rfl rfl rfl rfl⟩)
    · exact .inr (.inr hr)

theorem Phase.prepareTiered (snap : Option BillingSnapshot) (groupRatio : ℚ) :
    Phase r0 (prepareTieredBillingForSelectedGroup snap groupRatio rq).2.2 := by
  unfold prepareTieredBillingForSelectedGroup
  cases snap with
  | none => exact h
  | some snap =>
    simp only
    cases refreshTieredBillingGroup snap groupRatio with
    | none => exact h
    | some snap =>
      simp only
      split
      · exact h
      · exact h.reserveOrOpen _

theorem Phase.prepareImage (quota : ℤ) :
    Phase r0 (prepareImageBilling rq quota).2 := by
  unfold prepareImageBilling
  split
  · exact h
  · exact h.reserveOrOpen quota

end

end OmniRouters.Billing
