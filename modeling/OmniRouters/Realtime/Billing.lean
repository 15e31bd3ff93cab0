import OmniRouters.Billing.Settlement

/-!
# Billing of realtime sessions

Models of `calculateAudioQuota`, `PreWssConsumeQuota` and `PostWssConsumeQuota`
(`service/quota.go`) and of `preConsumeUsage`
(`relay/channel/openai/relay_realtime.go`): a websocket session that is charged
for every upstream usage as it comes in and settled for the sum at its end.

For a session that is not an organization's, the charges for the single usages
are taken outside the billing session, so the settlement does not know of them:

* `realtime_net_taken`: such a session takes the quota of the summed usage and,
  on top of it, every charge made on the way.
* `realtime_exact_iff`: it takes exactly the quota of the summed usage if and
  only if no usage was charged for.
* `realtime_charged_twice`: a session of one response that pays double.
-/

namespace OmniRouters.Realtime

open Billing List RelayInfo

/-! ## Prices -/

/-- The price fields of `QuotaInfo` with the ratios its model name stands for.
Decimals are exact, so they are rationals here. -/
structure QuotaInfo where
  usePrice : Bool
  modelPrice : ℚ
  quotaPerUnit : ℚ
  modelRatio : ℚ
  groupRatio : ℚ
  completionRatio : ℚ
  audioRatio : ℚ
  audioCompletionRatio : ℚ

/-- The fields of `dto.RealtimeUsage` that are charged for. -/
structure RealtimeUsage where
  totalTokens : ℤ
  inputText : ℤ
  inputAudio : ℤ
  outputText : ℤ
  outputAudio : ℤ
deriving DecidableEq

/-- The additions of `preConsumeUsage`
(relay_realtime.go:231-238). -/
def RealtimeUsage.add (total u : RealtimeUsage) : RealtimeUsage where
  totalTokens := total.totalTokens + u.totalTokens
  inputText := total.inputText + u.inputText
  inputAudio := total.inputAudio + u.inputAudio
  outputText := total.outputText + u.outputText
  outputAudio := total.outputAudio + u.outputAudio

def RealtimeUsage.zero : RealtimeUsage := ⟨0, 0, 0, 0, 0⟩

/-- `calculateAudioQuota` (quota.go:47-86). -/
def calculateAudioQuota (info : QuotaInfo) (u : RealtimeUsage) : ℤ :=
  if info.usePrice then
    quotaFromDecimal (info.modelPrice * info.quotaPerUnit * info.groupRatio)
  else
    let ratio := info.groupRatio * info.modelRatio
    let quota := (u.inputText + u.outputText * info.completionRatio +
      u.inputAudio * info.audioRatio +
      u.outputAudio * info.audioRatio * info.audioCompletionRatio) * ratio
    -- a priced request costs at least one unit before rounding
    let quota := if ratio ≠ 0 ∧ quota ≤ 0 then 1 else quota
    quotaFromDecimal quota

/-- A price by ratios is never negative. -/
theorem calculateAudioQuota_nonneg {info : QuotaInfo} (h : info.usePrice = false)
    (u : RealtimeUsage) : 0 ≤ calculateAudioQuota info u := by
  unfold calculateAudioQuota
  simp only [h, Bool.false_eq_true, if_false]
  apply quotaFromDecimal_nonneg
  split_ifs with hq
  · exact zero_le_one
  · by_cases hr : info.groupRatio * info.modelRatio = 0
    · rw [hr, mul_zero]
    · exact le_of_lt (not_le.1 fun hle => hq ⟨hr, hle⟩)

/-! ## The session -/

/-- How `PreWssConsumeQuota` ends. -/
inductive WssOutcome
  /-- Charged for. -/
  | consumed (quota : ℤ)
  /-- `user quota is not enough`. -/
  | userQuotaNotEnough
  /-- `token quota is not enough`. -/
  | tokenQuotaNotEnough
  /-- A storage call returned an error. -/
  | storageError
deriving DecidableEq

/-- What an outcome has charged. -/
def WssOutcome.charge : WssOutcome → ℤ
  | consumed quota => quota
  | _ => 0

/-- The balance that `PreWssConsumeQuota` checks (quota.go:92-103):
the user's, or the organization's, whose read overwrites the error of the
first. -/
def readQuota (rq : Request) : Option ℤ × Request :=
  let userDown := rq.store.down
  let rq := { rq with store := rq.store.next }
  if 0 < rq.info.organizationId then
    (if rq.store.down then none else some rq.store.rows.organization.quota,
      { rq with store := rq.store.next })
  else (if userDown then none else some rq.store.rows.userQuota, rq)

/-- The charge for one usage (quota.go:160-168): an organization's
session reserves it in its billing session, any other takes it directly. -/
def chargeUsage (rq : Request) (quota : ℤ) : Bool × Request :=
  match rq.billing with
  | some session =>
    if 0 < rq.info.organizationId then
      match (rq.state session).reserve (session.preConsumedQuota + quota) true with
      | (e, st) => (e.isNone, .ofState st)
    else postConsumeQuota rq quota
  | none => postConsumeQuota rq quota

/-- `PreWssConsumeQuota` (quota.go:88-174). `RelayInfo.UsePrice` is
never set, so its early return is left out. -/
def preWssConsumeQuota (price : QuotaInfo) (rq : Request) (u : RealtimeUsage) :
    WssOutcome × Request :=
  match readQuota rq with
  | (none, rq) => (.storageError, rq)
  | (some userQuota, rq) =>
    -- `GetTokenByKey`
    let down := rq.store.down
    let rq := { rq with store := rq.store.next }
    if down then (.storageError, rq)
    else
      let quota := calculateAudioQuota price u
      if userQuota < quota then (.userQuotaNotEnough, rq)
      else if ¬ rq.info.tokenUnlimited ∧ rq.store.rows.tokenRemain < quota then
        (.tokenQuotaNotEnough, rq)
      else match chargeUsage rq quota with
        | (true, rq) => (.consumed quota, rq)
        | (false, rq) => (.storageError, rq)

/-- The usages of a session, one `preConsumeUsage`
(relay_realtime.go:226-242) after the other: each
is added to the total whether or not it could be charged for. -/
def preConsumeUsages (price : QuotaInfo) (rq : Request) (total : RealtimeUsage) :
    List RealtimeUsage → List WssOutcome × RealtimeUsage × Request
  | [] => ([], total, rq)
  | u :: rest =>
    let (outcome, rq) := preWssConsumeQuota price rq u
    let (outcomes, total, rq) := preConsumeUsages price rq (total.add u) rest
    (outcome :: outcomes, total, rq)

/-- The quota that `PostWssConsumeQuota` settles and logs for a session priced by
ratios (quota.go:202-236). -/
def wssQuota (price : QuotaInfo) (total : RealtimeUsage) : ℤ :=
  if total.totalTokens = 0 then 0 else calculateAudioQuota price total

/-- A realtime session once billing has started: its usages, then
`PostWssConsumeQuota` (quota.go:176-277). The prices of the two
are looked up at different places. -/
structure SessionResult where
  outcomes : List WssOutcome
  quota : ℤ
  settled : Bool
  request : Request

def realtimeSession (pre post : QuotaInfo) (rq : Request) (usages : List RealtimeUsage) :
    SessionResult :=
  let (outcomes, total, rq) := preConsumeUsages pre rq .zero usages
  let quota := wssQuota post total
  let (ok, rq) := settleBilling rq quota
  { outcomes := outcomes, quota := quota, settled := ok, request := rq }

/-- No storage call of the session returned an error. -/
def SessionResult.Stored (res : SessionResult) : Prop :=
  .storageError ∉ res.outcomes ∧ res.settled = true

/-! ## One usage -/

/-- A usage that cannot be charged for: it costs nothing, or more than the user's
wallet or a limited token has. -/
def Harmless (price : QuotaInfo) (rq : Request) (u : RealtimeUsage) : Prop :=
  calculateAudioQuota price u = 0 ∨ rq.store.rows.userQuota < calculateAudioQuota price u ∨
    (rq.info.tokenUnlimited = false ∧ rq.store.rows.tokenRemain < calculateAudioQuota price u)

theorem chargeUsage_direct (rq : Request) (horg : rq.info.organizationId = 0) (quota : ℤ) :
    chargeUsage rq quota = postConsumeQuota rq quota := by
  unfold chargeUsage
  split
  · rw [if_neg (by omega)]
  · rfl

/-- A usage is refused because it cannot be paid for, or charged for directly. -/
theorem preWssConsumeQuota_cases {price : QuotaInfo} {rq : Request} (u : RealtimeUsage)
    (hprice : price.usePrice = false) (horg : rq.info.organizationId = 0)
    (hok : (preWssConsumeQuota price rq u).1 ≠ .storageError) :
    ((preWssConsumeQuota price rq u).1.charge = 0 ∧ Harmless price rq u ∧
        (preWssConsumeQuota price rq u).2.store.rows = rq.store.rows ∧
        (preWssConsumeQuota price rq u).2.info = rq.info ∧
        (preWssConsumeQuota price rq u).2.billing = rq.billing) ∨
      ((preWssConsumeQuota price rq u).1.charge = calculateAudioQuota price u ∧
        calculateAudioQuota price u ≤ rq.store.rows.userQuota ∧
        (rq.info.tokenUnlimited = false →
          calculateAudioQuota price u ≤ rq.store.rows.tokenRemain) ∧
        DirectlyCharged (calculateAudioQuota price u) rq (preWssConsumeQuota price rq u).2) := by
  revert hok
  have hread : readQuota rq = (if rq.store.down then none else some rq.store.rows.userQuota,
      { rq with store := rq.store.next }) := by
    unfold readQuota
    simp only
    rw [if_neg (by omega)]
    rfl
  unfold preWssConsumeQuota
  rw [hread]
  cases rq.store.down with
  | true => exact fun h => absurd rfl h
  | false =>
    simp only [Bool.false_eq_true, if_false]
    split_ifs with hdown huser htoken
    · exact fun h => absurd rfl h
    · exact fun _ => .inl ⟨rfl, .inr (.inl huser), rfl, rfl, rfl⟩
    · exact fun _ =>
        .inl ⟨rfl, .inr (.inr ⟨by simpa using htoken.1, htoken.2⟩), rfl, rfl, rfl⟩
    have hcharge := chargeUsage_direct { rq with store := rq.store.next.next } horg
      (calculateAudioQuota price u)
    have hpost := @postConsumeQuota_ok
      { rq with store := rq.store.next.next } (calculateAudioQuota price u)
      (calculateAudioQuota_nonneg hprice u)
    rw [hcharge]
    generalize postConsumeQuota _ _ = res at hpost ⊢
    obtain ⟨ok, rq'⟩ := res
    cases ok with
    | false => exact fun h => absurd rfl h
    | true =>
      intro _
      have hd := hpost rfl
      refine .inr ⟨rfl, not_lt.1 huser, fun hu => ?_, hd.taken, hd.spares, hd.token, hd.info,
        hd.billing⟩
      by_contra hlt
      exact htoken ⟨by simp [hu], not_le.1 hlt⟩

/-! ## A whole session -/

/-- The parts of a request that its usages do not change: its session, and what the
billing source and the token are looked up from. -/
structure SameSession (rq rq' : Request) : Prop where
  billing : rq'.billing = rq.billing
  info : rq'.info = { rq.info with subscriptionPostDelta := rq'.info.subscriptionPostDelta }

theorem SameSession.refl (rq : Request) : SameSession rq rq := ⟨rfl, rfl⟩

variable {rq rq' : Request} {price : QuotaInfo}

theorem SameSession.trans {rq'' : Request} (h : SameSession rq rq') (h' : SameSession rq' rq'') :
    SameSession rq rq'' := by
  refine ⟨h'.billing.trans h.billing, ?_⟩
  rw [h'.info, h.info]

theorem SameSession.directLedger (h : SameSession rq rq') : rq'.directLedger = rq.directLedger := by
  unfold Request.directLedger
  rw [h.info]

/-- Whether a usage can be charged for depends on the two balances only. -/
theorem harmless_congr (hsame : SameSession rq rq')
    (hwallet : rq'.store.rows.taken .wallet = rq.store.rows.taken .wallet)
    (htoken : rq'.store.rows.taken .token = rq.store.rows.taken .token) (u : RealtimeUsage) :
    Harmless price rq' u ↔ Harmless price rq u := by
  have hu : rq'.store.rows.userQuota = rq.store.rows.userQuota := by
    simpa [Rows.taken] using hwallet
  have ht : rq'.store.rows.tokenRemain = rq.store.rows.tokenRemain := by
    simpa [Rows.taken] using htoken
  unfold Harmless
  rw [hu, ht, hsame.info]

/-- A charge of nothing moves nothing. -/
theorem taken_of_charged_zero (h : DirectlyCharged 0 rq rq') (l : Ledger) :
    rq'.store.rows.taken l = rq.store.rows.taken l := by
  by_cases hl : l = rq.directLedger
  · rw [hl, h.taken, add_zero]
  by_cases ht : l = .token
  · rw [ht, h.token, tokenShare, ite_self, add_zero]
  · exact h.spares l hl ht

section

variable {total : RealtimeUsage} {usages : List RealtimeUsage} (hprice : price.usePrice = false)
  (horg : rq.info.organizationId = 0)
  (hok : .storageError ∉ (preConsumeUsages price rq total usages).1)

include hprice horg hok

/-- The usages of a session take the sum of their charges from the direct ledger and
from the token. -/
theorem preConsumeUsages_taken :
    SameSession rq (preConsumeUsages price rq total usages).2.2 ∧
      (preConsumeUsages price rq total usages).2.2.store.rows.taken rq.directLedger =
        rq.store.rows.taken rq.directLedger +
          ((preConsumeUsages price rq total usages).1.map WssOutcome.charge).sum ∧
      (preConsumeUsages price rq total usages).2.2.store.rows.taken .token =
        rq.store.rows.taken .token + rq.info.tokenShare
          ((preConsumeUsages price rq total usages).1.map WssOutcome.charge).sum := by
  induction usages generalizing rq total with
  | nil =>
    refine ⟨SameSession.refl rq, (add_zero _).symm, ?_⟩
    simp [preConsumeUsages, tokenShare]
  | cons u rest ih =>
    have hcases := @preWssConsumeQuota_cases price rq u hprice horg
    simp only [preConsumeUsages] at hok ⊢
    generalize preWssConsumeQuota price rq u = res at hok hcases ⊢
    obtain ⟨outcome, rq1⟩ := res
    simp only [mem_cons, not_or, map_cons, sum_cons] at hok hcases ⊢
    -- one usage: the charge is taken, and the session stays
    obtain ⟨hsame, htaken, htoken⟩ : SameSession rq rq1 ∧
        rq1.store.rows.taken rq.directLedger =
          rq.store.rows.taken rq.directLedger + outcome.charge ∧
        rq1.store.rows.taken .token =
          rq.store.rows.taken .token + rq.info.tokenShare outcome.charge := by
      rcases hcases (Ne.symm hok.1) with ⟨h0, -, hrows, hinfo, hbilling⟩ | ⟨hc, -, -, hd⟩
      · refine ⟨⟨hbilling, by rw [hinfo]⟩, ?_, ?_⟩
        · rw [hrows, h0, add_zero]
        · rw [hrows, h0, tokenShare, ite_self, add_zero]
      · rw [hc]
        exact ⟨⟨hd.billing, hd.info⟩, hd.taken, hd.token⟩
    have horg1 : rq1.info.organizationId = 0 := by rw [hsame.info]; exact horg
    obtain ⟨hsame', htaken', htoken'⟩ := ih horg1 hok.2
    rw [hsame.directLedger] at htaken'
    refine ⟨hsame.trans hsame', ?_, ?_⟩
    · rw [htaken', htaken, add_assoc]
    have hp : rq1.info.isPlayground = rq.info.isPlayground := by rw [hsame.info]
    rw [htoken', htoken]
    unfold tokenShare
    rw [hp]
    split <;> omega

/-- The charges are never negative, and they add up to nothing exactly when no usage
could be charged for. -/
theorem charges_eq_zero_iff :
    0 ≤ ((preConsumeUsages price rq total usages).1.map WssOutcome.charge).sum ∧
      (((preConsumeUsages price rq total usages).1.map WssOutcome.charge).sum = 0 ↔
        ∀ u ∈ usages, Harmless price rq u) := by
  induction usages generalizing rq total with
  | nil => simp [preConsumeUsages]
  | cons u rest ih =>
    have hcases := @preWssConsumeQuota_cases price rq u hprice horg
    have hnonneg := calculateAudioQuota_nonneg hprice u
    simp only [preConsumeUsages] at hok ⊢
    generalize preWssConsumeQuota price rq u = res at hok hcases ⊢
    obtain ⟨outcome, rq1⟩ := res
    simp only [mem_cons, not_or, map_cons, sum_cons, forall_eq_or_imp]
      at hok hcases ⊢
    rcases hcases (Ne.symm hok.1) with ⟨h0, hharm, hrows, hinfo, hbilling⟩ | ⟨hc, huser, htoken, hd⟩
    · -- refused: the balances stand
      have hsame : SameSession rq rq1 := ⟨hbilling, by rw [hinfo]⟩
      obtain ⟨hn, hiff⟩ := ih (by rw [hinfo]; exact horg) hok.2
      have hcongr : (∀ v ∈ rest, Harmless price rq1 v) ↔ ∀ v ∈ rest, Harmless price rq v :=
        forall₂_congr fun v _ => harmless_congr hsame (by rw [hrows]) (by rw [hrows]) v
      rw [h0, zero_add]
      exact ⟨hn, hiff.trans (hcongr.trans (iff_and_self.2 fun _ => hharm))⟩
    · have hsame : SameSession rq rq1 := ⟨hd.billing, hd.info⟩
      obtain ⟨hn, hiff⟩ := ih (by rw [hsame.info]; exact horg) hok.2
      rw [hc]
      refine ⟨add_nonneg hnonneg hn, ?_⟩
      rcases hnonneg.lt_or_eq with hpos | hzero
      · -- charged for something: neither side holds
        refine iff_of_false (by omega) fun h => ?_
        rcases h.1 with h | h | ⟨hu, h⟩
        · omega
        · omega
        · have := htoken hu
          omega
      · rw [← hzero] at hd ⊢
        have hcongr : (∀ v ∈ rest, Harmless price rq1 v) ↔ ∀ v ∈ rest, Harmless price rq v :=
          forall₂_congr fun v _ => harmless_congr hsame (taken_of_charged_zero hd .wallet)
            (taken_of_charged_zero hd .token) v
        rw [zero_add]
        exact hiff.trans (hcongr.trans (iff_and_self.2 fun _ => .inl hzero.symm))

end

/-- Billing has started and holds the reservation, relative to the rows `r0` before. -/
structure Started (r0 : Rows) (rq : Request) : Prop where
  unsettled : Unsettled rq
  ledger : rq.directLedger = rq.fundingLedger
  taken : rq.store.rows.taken rq.fundingLedger = r0.taken rq.fundingLedger + rq.reserved
  token : rq.store.rows.taken .token = r0.taken .token + rq.info.tokenShare rq.reserved
  floor : 0 ≤ r0.taken rq.fundingLedger ∨ rq.fundingLedger = .wallet

/-- A general request has started billing in this sense, with or without a session. -/
theorem startBilling_started {freeModel : Bool} {quota : ℤ} (h : General rq)
    (hok : (startBilling rq freeModel quota).1 = none)
    (hlog : ∀ q, .rollbackTokenQuota q ∉ (startBilling rq freeModel quota).2.store.log) :
    Started rq.store.rows (startBilling rq freeModel quota).2 := by
  rcases startBilling_funded h hok with hsame | ⟨session, hadmit, hf⟩
  · rw [hsame]
    have hL : rq.fundingLedger = .wallet := by
      unfold Request.fundingLedger Request.directLedger
      rw [h.billing, h.billingSource, if_neg (by rw [h.organizationId]; decide)]
      rfl
    have hR : rq.reserved = 0 := by
      unfold Request.reserved
      rw [h.billing]
      exact h.finalPreConsumedQuota
    refine ⟨⟨h.organizationId, h.subscriptionKey, ?_, fun _ =>
      ⟨h.billingSource, h.finalPreConsumedQuota⟩⟩, ?_, ?_, ?_, .inr hL⟩
    · intro session hs
      rw [h.billing] at hs
      cases hs
    · unfold Request.fundingLedger
      rw [h.billing]
    · rw [hR, add_zero]
    · rw [hR, tokenShare, ite_self, add_zero]
  · generalize (startBilling rq freeModel quota).2 = rq' at hf hlog ⊢
    have horg := organizationId_of_fixed hf.fixed
    have hkey := subscriptionKey_of_fixed hf.fixed
    have hL : rq'.fundingLedger = session.funding.ledger := by
      unfold Request.fundingLedger
      rw [hf.billing]
    have hR : rq'.reserved = session.preConsumedQuota := by
      unfold Request.reserved
      rw [hf.billing]
    refine ⟨⟨horg.trans h.organizationId, hkey.trans h.subscriptionKey, ?_, ?_⟩, ?_, ?_, ?_, ?_⟩
    · intro s hs
      rw [hf.billing] at hs
      cases hs
      exact ⟨hf.isOpen.settled, hf.isOpen.fundingSettled⟩
    · intro hb
      rw [hf.billing] at hb
      cases hb
    · unfold Request.directLedger
      rw [if_neg (by rw [horg, h.organizationId]; decide), hL, hf.billingSource]
      cases hs : session.funding with
      | wallet f => rfl
      | organization f =>
        rw [hs] at hadmit
        exact absurd rfl hadmit.ne_organization
      | subscription f =>
        simp only [FundingSource.source, if_true, FundingSource.ledger, hf.subscriptionId f hs]
    · rw [hL, hR]
      exact hf.isOpen.taken
    · rw [hR, hf.token hlog, tokenShare_of_fixed hf.fixed,
        hf.tokenConsumed_eq h.key]
    · rw [hL]
      cases hs : session.funding with
      | wallet f => exact .inr rfl
      | organization f =>
        rw [hs] at hadmit
        exact absurd rfl hadmit.ne_organization
      | subscription f => exact .inl (Int.natCast_nonneg _)

section

variable (h : SameSession rq rq')

include h

theorem SameSession.fundingLedger :
    rq'.fundingLedger = rq.fundingLedger := by
  have hdirect := h.directLedger
  unfold Request.fundingLedger
  rw [h.billing, hdirect]

theorem SameSession.reserved : rq'.reserved = rq.reserved := by
  unfold Request.reserved
  rw [h.billing, h.info]

theorem SameSession.unsettled (hu : Unsettled rq) : Unsettled rq' := by
  refine ⟨?_, ?_, fun s hs => hu.session s (h.billing ▸ hs), fun hb => ?_⟩
  · rw [h.info]
    exact hu.organizationId
  · rw [h.info]
    exact hu.subscriptionKey
  · rw [h.info]
    exact hu.direct (h.billing ▸ hb)

end

theorem wssQuota_nonneg (h : price.usePrice = false) (total : RealtimeUsage) :
    0 ≤ wssQuota price total := by
  unfold wssQuota
  split
  · exact le_rfl
  · exact calculateAudioQuota_nonneg h total

/-- What the usages of a session were charged on the way. -/
def SessionResult.charges (res : SessionResult) : ℤ := (res.outcomes.map WssOutcome.charge).sum

theorem tokenShare_add (info : RelayInfo) (a b : ℤ) :
    info.tokenShare a + info.tokenShare b = info.tokenShare (a + b) := by
  unfold tokenShare
  split <;> omega

/-- A session takes the quota it logs and, on top of it, every charge on the way. -/
theorem realtime_net_taken {pre post : QuotaInfo} {r0 : Rows} {usages : List RealtimeUsage}
    (hpre : pre.usePrice = false) (hpost : post.usePrice = false) (h : Started r0 rq)
    (hstored : (realtimeSession pre post rq usages).Stored) :
    let res := realtimeSession pre post rq usages
    res.request.store.rows.taken rq.fundingLedger =
        r0.taken rq.fundingLedger + (res.quota + res.charges) ∧
      res.request.store.rows.taken .token =
        r0.taken .token + rq.info.tokenShare (res.quota + res.charges) := by
  have huse := @preConsumeUsages_taken rq pre .zero usages hpre h.unsettled.organizationId
  have hnonneg := @charges_eq_zero_iff rq pre .zero usages hpre h.unsettled.organizationId
  revert hstored
  unfold realtimeSession SessionResult.charges SessionResult.Stored
  generalize preConsumeUsages pre rq .zero usages = out at huse hnonneg ⊢
  obtain ⟨outcomes, total, rq1⟩ := out
  simp only
  rintro ⟨hok, hsettled⟩
  obtain ⟨hsame, htaken, htoken⟩ := huse hok
  have hsum := (hnonneg hok).1
  generalize (outcomes.map WssOutcome.charge).sum = charges at htaken htoken hsum ⊢
  have hq := wssQuota_nonneg hpost total
  rw [h.ledger, h.taken] at htaken
  rw [h.token] at htoken
  have hs := settleBilling_ok (hsame.unsettled h.unsettled) hq
    (by
      rw [hsame.fundingLedger, hsame.reserved, htaken]
      exact h.floor.imp_left fun hf => by omega) hsettled
  have hshare : rq1.info.tokenShare = rq.info.tokenShare := by
    rw [hsame.info]
    rfl
  rw [hsame.fundingLedger, hsame.reserved, htaken, htoken, hshare] at hs
  refine ⟨hs.1.trans (by omega), hs.2.trans ?_⟩
  rw [add_assoc, add_assoc, tokenShare_add, tokenShare_add]
  congr 2
  omega

/-- The session takes exactly the quota it logs, from the funding source and from the
token, if and only if none of its usages could be charged for on the way. -/
theorem realtime_exact_iff (pre post : QuotaInfo) (rq : Request) (freeModel : Bool) (quota : ℤ)
    (usages : List RealtimeUsage) (hpre : pre.usePrice = false) (hpost : post.usePrice = false)
    (hrq : General rq) (hok : (startBilling rq freeModel quota).1 = none)
    (hlog : ∀ q, .rollbackTokenQuota q ∉ (startBilling rq freeModel quota).2.store.log)
    (hstored : (realtimeSession pre post (startBilling rq freeModel quota).2 usages).Stored) :
    let started := (startBilling rq freeModel quota).2
    let res := realtimeSession pre post started usages
    (res.request.store.rows.taken started.fundingLedger =
          rq.store.rows.taken started.fundingLedger + res.quota ∧
        res.request.store.rows.taken .token =
          rq.store.rows.taken .token + started.info.tokenShare res.quota) ↔
      ∀ u ∈ usages, Harmless pre started u := by
  have hstart := startBilling_started hrq hok hlog
  generalize (startBilling rq freeModel quota).2 = started at hstored hstart ⊢
  have hiff : (realtimeSession pre post started usages).charges = 0 ↔
      ∀ u ∈ usages, Harmless pre started u :=
    (charges_eq_zero_iff hpre hstart.unsettled.organizationId hstored.1).2
  have hnet := realtime_net_taken hpre hpost hstart hstored
  simp only at hnet ⊢
  rw [← hiff, hnet.1, hnet.2]
  constructor
  · rintro ⟨h, -⟩
    omega
  · intro h
    rw [h, add_zero]
    exact ⟨rfl, rfl⟩

def textPrice : QuotaInfo where
  usePrice := false
  modelPrice := 0
  quotaPerUnit := 1
  modelRatio := 1
  groupRatio := 1
  completionRatio := 1
  audioRatio := 1
  audioCompletionRatio := 1

/-- A response of `n` text tokens. -/
def textResponse (n : ℤ) : RealtimeUsage := ⟨n, n, 0, 0, 0⟩

/-- A response that is dearer than the wallet is settled for only once. -/
theorem realtime_exact_unaffordable :
    let started := (startBilling walletRequest false 50).2
    let res := realtimeSession textPrice textPrice started [textResponse 2000]
    res.request.store.rows.taken .wallet = walletRequest.store.rows.taken .wallet + 2000 := by
  have h := realtime_exact_iff textPrice textPrice walletRequest false 50 [textResponse 2000]
    rfl rfl walletRequest_general (by decide +kernel)
    (by
      have hlog : (startBilling walletRequest false 50).2.store.log = [] := by decide +kernel
      exact nofun)
    ⟨by decide +kernel, by decide +kernel⟩
  have hharm : ∀ u ∈ [textResponse 2000],
      Harmless textPrice (startBilling walletRequest false 50).2 u := by
    intro u hu
    rw [mem_singleton.1 hu]
    exact .inr (.inl (by decide +kernel))
  exact (h.2 hharm).1.trans (by decide +kernel)

/-- One response of 100 units: the session logs 100 units and takes 200. -/
theorem realtime_charged_twice :
    let started := (startBilling walletRequest false 50).2
    let res := realtimeSession textPrice textPrice started [textResponse 100]
    (startBilling walletRequest false 50).1 = none ∧ res.Stored ∧ res.quota = 100 ∧
      res.request.store.rows.taken .wallet = walletRequest.store.rows.taken .wallet + 200 ∧
      res.request.store.rows.taken .token = walletRequest.store.rows.taken .token + 200 := by
  refine ⟨by decide +kernel, ⟨by decide +kernel, by decide +kernel⟩, by decide +kernel,
    by decide +kernel, by decide +kernel⟩

end OmniRouters.Realtime
