import OmniRouters.Billing.Request

/-!
# Direct charges and settlement

What `PostConsumeQuota` and `SettleBilling` take, for a request of a general key
that is not an organization's.

* `postConsumeQuota_ok`: a direct charge takes its amount from the ledger of the
  request's billing source and from the token.
* `settleBilling_ok`: a settlement brings the funding source from the reservation
  to the actual quota, whatever else has been taken from it in between.
* `startBilling_funded`: the two states in which billing leaves a request.
-/

namespace OmniRouters.Billing

/-- A request of a general key that is not an organization's, before billing. -/
structure General (rq : Request) : Prop where
  organizationId : rq.info.organizationId = 0
  subscriptionKey : rq.info.subscriptionKey = none
  billing : rq.billing = none
  billingSource : rq.info.billingSource = none
  finalPreConsumedQuota : rq.info.finalPreConsumedQuota = 0
  record : rq.store.rows.record = none
  log : rq.store.log = []

variable {rq : Request} {q : ℤ}

theorem General.key (h : General rq) :
    rq.info.isTokenSubscriptionRequest = false := by
  simp [RelayInfo.isTokenSubscriptionRequest, h.subscriptionKey]

/-- The ledger that `PostConsumeQuota` charges. -/
def Request.directLedger (rq : Request) : Ledger :=
  if 0 < rq.info.organizationId then .organization
  else if rq.info.billingSource = some .subscription then .subscription rq.info.subscriptionId
  else .wallet

theorem Request.directLedger_ne_token (rq : Request) : rq.directLedger ≠ .token := by
  unfold Request.directLedger
  split_ifs <;> nofun

/-- What a direct charge of `q` that returned no error has done. -/
structure DirectlyCharged (q : ℤ) (rq rq' : Request) : Prop where
  taken : rq'.store.rows.taken rq.directLedger = rq.store.rows.taken rq.directLedger + q
  spares : Spares rq.directLedger rq.store.rows rq'.store.rows
  token : rq'.store.rows.taken .token = rq.store.rows.taken .token + rq.info.tokenShare q
  info : rq'.info = { rq.info with subscriptionPostDelta := rq'.info.subscriptionPostDelta }
  billing : rq'.billing = rq.billing

theorem postConsumeToken_ok (hok : (postConsumeToken rq q).1 = true) :
    (postConsumeToken rq q).2 = { rq with store := (postConsumeToken rq q).2.store } ∧
      (postConsumeToken rq q).2.store.rows.taken .token =
        rq.store.rows.taken .token + rq.info.tokenShare q ∧
      ∀ l, l ≠ .token → (postConsumeToken rq q).2.store.rows.taken l = rq.store.rows.taken l := by
  revert hok
  unfold RelayInfo.tokenShare
  fun_cases postConsumeToken rq q
  case case1 hplayground =>
    rw [if_pos hplayground, add_zero]
    exact fun _ => ⟨rfl, rfl, fun _ _ => rfl⟩
  case case2 hplayground _ _ hres =>
    rintro rfl
    rw [if_neg hplayground]
    split_ifs at hres
    · have h := (decreaseTokenQuota_takes rq.store q).applies
      rw [hres] at h
      exact ⟨rfl, h.moves.taken, fun l hl => h.moves.other l hl⟩
    · have h := (increaseTokenQuota_takes rq.store (-q)).applies
      rw [hres, neg_neg] at h
      exact ⟨rfl, h.moves.taken, fun l hl => h.moves.other l hl⟩

/-- The funding step of a charge. -/
theorem postConsumeFunding_ok (hq : 0 ≤ q) (hok : (postConsumeFunding rq q).1 = true) :
    Moves rq.directLedger q rq.store.rows (postConsumeFunding rq q).2.store.rows ∧
      (postConsumeFunding rq q).2.info = { rq.info with
        subscriptionPostDelta := (postConsumeFunding rq q).2.info.subscriptionPostDelta } ∧
      (postConsumeFunding rq q).2.billing = rq.billing := by
  revert hok
  unfold Request.directLedger
  fun_cases postConsumeFunding rq q
  case case1 horg _ _ hres =>
    have h := (adjustOrganizationQuota_takes rq.store q).applies
    rw [hres] at h
    rintro rfl
    rw [if_pos horg]
    exact ⟨h.moves, rfl, rfl⟩
  case case2 | case3 | case5 => exact nofun
  case case4 h0 =>
    intro _
    rw [h0]
    exact ⟨Moves.refl _ _, rfl, rfl⟩
  case case6 horg _ hs _ _ _ hres =>
    have h := postConsumeUserSubscriptionDelta_applies rq.store rq.info.subscriptionId q (by omega)
    rw [hres] at h
    intro _
    rw [if_neg horg, if_pos hs]
    exact ⟨h.moves, rfl, rfl⟩
  case case7 horg _ hs _ _ hres =>
    rintro rfl
    rw [if_neg horg, if_neg hs]
    split_ifs at hres
    · have h := (decreaseUserQuota_takes rq.store q).applies
      rw [hres] at h
      exact ⟨h.moves, rfl, rfl⟩
    · have h := (increaseUserQuota_takes rq.store (-q)).applies
      rw [hres, neg_neg] at h
      exact ⟨h.moves, rfl, rfl⟩

/-- A direct charge that returns no error takes its amount from the ledger of the
request's billing source and from the token. -/
theorem postConsumeQuota_ok (hq : 0 ≤ q)
    (hok : (postConsumeQuota rq q).1 = true) : DirectlyCharged q rq (postConsumeQuota rq q).2 := by
  have hf := @postConsumeFunding_ok rq q hq
  revert hok
  unfold postConsumeQuota
  generalize postConsumeFunding rq q = res at hf ⊢
  obtain ⟨ok, rq'⟩ := res
  cases ok with
  | false => exact nofun
  | true =>
    intro hok
    obtain ⟨hm, hinfo, hbilling⟩ := hf rfl
    obtain ⟨hrq, htoken, hother⟩ := postConsumeToken_ok hok
    have hL := rq.directLedger_ne_token
    have hshare : rq'.info.tokenShare q = rq.info.tokenShare q := by
      rw [hinfo]
      rfl
    refine ⟨?_, fun l hl ht => ?_, ?_, ?_, ?_⟩
    · rw [hother _ hL, hm.taken]
    · rw [hother l ht, hm.other l hl]
    · rw [htoken, hm.other _ hL.symm, hshare]
    · rw [hrq]
      exact hinfo
    · rw [hrq]
      exact hbilling

/-- The ledger a request is settled against. -/
def Request.fundingLedger (rq : Request) : Ledger :=
  match rq.billing with
  | some session => session.funding.ledger
  | none => rq.directLedger

/-- What the request has reserved so far. -/
def Request.reserved (rq : Request) : ℤ :=
  match rq.billing with
  | some session => session.preConsumedQuota
  | none => rq.info.finalPreConsumedQuota

/-- A request that can be settled: its session, if it has one, is not settled yet,
and without one nothing has been reserved. -/
structure Unsettled (rq : Request) : Prop where
  organizationId : rq.info.organizationId = 0
  subscriptionKey : rq.info.subscriptionKey = none
  session : ∀ session, rq.billing = some session →
    session.settled = false ∧ session.fundingSettled = false
  direct : rq.billing = none →
    rq.info.billingSource = none ∧ rq.info.finalPreConsumedQuota = 0

/-- A settlement that returns no error brings the funding source and the token from
the reservation to the actual quota. -/
theorem settleBilling_ok {actual : ℤ} (h : Unsettled rq) (hactual : 0 ≤ actual)
    (hpos : 0 ≤ rq.store.rows.taken rq.fundingLedger + (actual - rq.reserved) ∨
      rq.fundingLedger = .wallet)
    (hok : (settleBilling rq actual).1 = true) :
    (settleBilling rq actual).2.store.rows.taken rq.fundingLedger =
        rq.store.rows.taken rq.fundingLedger + (actual - rq.reserved) ∧
      (settleBilling rq actual).2.store.rows.taken .token =
        rq.store.rows.taken .token + rq.info.tokenShare (actual - rq.reserved) := by
  revert hok hpos
  have hkey : rq.info.isTokenSubscriptionRequest = false := by
    simp [RelayInfo.isTokenSubscriptionRequest, h.subscriptionKey]
  unfold settleBilling Request.fundingLedger Request.reserved
  cases hb : rq.billing with
  | some session =>
    obtain ⟨hset, hfset⟩ := h.session session hb
    simp only [hkey, Bool.false_eq_true, if_false]
    intro hpos hok
    have hs := @State.settle_ok (rq.state session) actual hset hfset hok
    refine ⟨hs.1.trans ?_, hs.2⟩
    simp only [Request.state]
    cases hf : session.funding with
    | subscription f =>
      rw [hf] at hpos
      rcases hpos with hpos | hpos
      · exact max_eq_right hpos
      · cases hpos
    | wallet f => rfl
    | organization f => rfl
  | none =>
    have hfinal := (h.direct hb).2
    simp only [hfinal, sub_zero]
    split_ifs with h0
    · intro _ _
      rw [h0, add_zero, RelayInfo.tokenShare, ite_self, add_zero]
      exact ⟨rfl, rfl⟩
    · intro _ hok
      have hd := postConsumeQuota_ok hactual hok
      exact ⟨hd.taken, hd.token⟩

/-- `PreConsumeBilling` of a general request without a session. -/
theorem preConsumeBilling_general {quota : ℤ} (h : General rq) (hquota : 0 ≤ quota) :
    preConsumeBilling rq quota = byPreference rq quota := by
  unfold preConsumeBilling newBillingSession
  rw [if_neg (by omega), h.billing]
  rw [if_neg (by rw [h.organizationId]; decide), h.subscriptionKey]

/-- The two states in which the start of billing leaves a general request: free and
without a session, or funded by a source its preference admits. -/
theorem startBilling_funded {freeModel : Bool} {quota : ℤ} (h : General rq)
    (hok : (startBilling rq freeModel quota).1 = none) :
    (startBilling rq freeModel quota).2 = rq ∨
      ∃ session, rq.info.billingPreference.Admits session.funding.source ∧
        Funded rq.store.rows rq.info (startBilling rq freeModel quota).2 session := by
  revert hok
  unfold startBilling
  split
  · exact fun _ => Or.inl rfl
  intro hok
  by_cases hquota : 0 ≤ quota
  · rw [preConsumeBilling_general h hquota] at hok ⊢
    have hempty : Clean rq.store.log := by
      rw [h.log]
      exact ⟨nofun, nofun⟩
    rcases byPreference_attempt h.billing h.key h.record hempty hquota with
      ⟨-, -, session, hk, hf⟩ | ⟨hno, -⟩
    · exact Or.inr ⟨session, hk, hf⟩
    · exact absurd hok hno
  · unfold preConsumeBilling at hok
    rw [if_pos (by omega)] at hok
    cases hok

/-- A request that pays from a wallet of 1000 units with a token of 500. -/
def walletRequest : Request where
  store := {
    rows := {
      userQuota := 1000
      organization := { quota := 0, monthlyQuotaLimit := 0, usedQuota := 0 }
      subscriptions := { list := [], ids_nodup := by decide, ids_pos := by decide }
      record := none
      tokenRemain := 500 }
    faults := []
    log := [] }
  info := {
    organizationId := 0, subscriptionKey := none, isStandaloneTool := false, isPlayground := false
    forcePreConsume := true, imageRequest := false, tokenUnlimited := false, tokenQuota := 500
    trustQuota := 0, estimateTokens := 0, billingPreference := .walletOnly
    usingGroup := "default", userQuota := 1000, finalPreConsumedQuota := 0, billingSource := none
    subscriptionId := 0, subscriptionPostDelta := 0, subscriptionAllowedGroups := []
    allowedGroups := [] }
  billing := none

theorem walletRequest_general : General walletRequest := ⟨rfl, rfl, rfl, rfl, rfl, rfl, rfl⟩

end OmniRouters.Billing
