import OmniRouters.Billing.Opening
import OmniRouters.Billing.TextQuota
import OmniRouters.Relay.Loop

/-!
# Text requests

A text request from its first price to its settlement: `ModelPriceHelper` prices it in the
group of its first attempt, the loop tries channels of groups with other prices, and the
attempt that answers settles what its own group charges.

A request with a free first price starts without a session. An expression price opens one
with the first attempt in a paid group; the other prices do not, and what such an attempt
charges is then taken from the wallet whatever the user prefers.

* `Preferred.reserveOrOpen`: reservations keep to the sources of the billing preference.
* `relayLoop_charge`: what the attempt that answers charges.
* `text_charge_preferred_iff`: the sources that pay for a text request.
-/

namespace OmniRouters.Relay

open Billing Option

/-! ## The model -/

/-- How an attempt of a text handler ends. -/
inductive TextWork
  | failed (e : RelayError)
  | answered (report : TextReport)

/-- The quota that `PostTextConsumeQuota` settles (service/text_quota.go:416-502): the
tokens of a request that is counted in tokens, the price of any other. -/
def textQuota {σ : Type} (quotaPerUnit : ℚ) (price : PriceData) (st : LoopState σ)
    (report : TextReport) : ℤ :=
  if st.request.info.isTokenSubscriptionRequest then
    report.usage.promptTokens + report.usage.completionTokens
  else postTextQuota quotaPerUnit price st.groupRatio st.snap
    st.request.info.finalPreConsumedQuota report

/-- The settlement in `PostTextConsumeQuota` (service/text_quota.go:513-522). The tools
of a request that is counted in tokens are charged to the wallet. -/
def settleText (rq : Request) (quota toolQuota : ℤ) : Bool × Request :=
  if rq.info.isTokenSubscriptionRequest then
    match rq.billing with
    | some session =>
      match (rq.state session).settleTokenBilling quota toolQuota with
      | (ok, st) => (ok, .ofState st)
    | none => (false, rq)
  else settleBilling rq quota

/-- The text handlers (`relay/compatible_handler.go` and its siblings) as far as billing
goes: a failed attempt leaves billing to the loop, an answered one settles the request
(`PostTextConsumeQuota`, service/text_quota.go:416-526). The error of a
settlement is only logged. The loop keeps the quota that was settled. -/
def textHandler (quotaPerUnit : ℚ) (price : PriceData) : Handler TextWork (Option ℤ)
  | .failed e, st => (some e, st)
  | .answered report, st =>
    let quota := textQuota quotaPerUnit price st report
    let toolQuota := quotaFromDecimal
      (calculateTextToolCallSurcharge quotaPerUnit st.groupRatio report.usage.tools)
    match settleText st.request quota toolQuota with
    | (true, rq) => (none, { st with request := rq, kept := some quota })
    | (false, rq) =>
      (none, { st with
        request := { rq with store := rq.store.sysLog .settleBilling }
        kept := some quota })

/-- `Relay` of a text request (controller/relay.go:179-292), in a group with the ratio
`groupRatio` at first. An error of the price returns before billing starts. -/
def relayText (policy : RetryPolicy) (setting : QuotaSetting) (model : ModelPricing)
    (tokens : TokenCountMeta) (groupRatio : ℚ) (attempts : List (Attempt TextWork))
    (rq : Request) : Option (LoopEnd × LoopState (Option ℤ)) :=
  match modelPriceHelper setting model tokens groupRatio with
  | none => some (.failed (billingError .modelPriceError), ⟨rq, none, groupRatio, none⟩)
  | some (price, snap) =>
    relay policy (textHandler setting.quotaPerUnit price) price.freeModel price.quotaToPreConsume
      attempts ⟨rq, snap, groupRatio, none⟩

/-! ## Sources of the billing preference -/

/-- A request of a general key, with a reservation from a source of the preference or with
none. -/
structure Preferred (pref : BillingPreference) (r0 : Rows) (rq : Request) : Prop where
  phase : Idle r0 rq ∨ ∃ session, Holding r0 rq session ∧ pref.Admits session.funding.source ∧
    session.Reserves
  answers : rq.store.Answers
  organizationId : rq.info.organizationId = 0
  subscriptionKey : rq.info.subscriptionKey = none
  preference : rq.info.billingPreference = pref

namespace Preferred

variable {pref : BillingPreference} {r0 : Rows} {rq : Request}

theorem key (h : Preferred pref r0 rq) : rq.info.isTokenSubscriptionRequest = false := by
  simp [RelayInfo.isTokenSubscriptionRequest, h.subscriptionKey]

theorem of_general (h : General rq) (hans : rq.store.Answers) :
    Preferred rq.info.billingPreference rq.store.rows rq where
  phase := .inl
    { billing := h.billing
      billingSource := h.billingSource
      finalPreConsumedQuota := h.finalPreConsumedQuota
      record := h.record
      log := by simp [h.log]
      taken := fun _ _ => rfl }
  answers := hans
  organizationId := h.organizationId
  subscriptionKey := h.subscriptionKey
  preference := rfl

section

variable (h : Preferred pref r0 rq)

include h

/-- The fields that are set when the request is admitted decide who may pay. -/
theorem of_fixed {rq' : Request} (hfixed : rq'.info.fixed = rq.info.fixed)
    (hans : rq'.store.Answers)
    (hphase : Idle r0 rq' ∨
      ∃ session, Holding r0 rq' session ∧ pref.Admits session.funding.source ∧ session.Reserves) :
    Preferred pref r0 rq' where
  phase := hphase
  answers := hans
  organizationId := (RelayInfo.organizationId_of_fixed hfixed).trans h.organizationId
  subscriptionKey := (RelayInfo.subscriptionKey_of_fixed hfixed).trans h.subscriptionKey
  preference := by
    have hp := congrArg (fun i : RelayInfo => i.billingPreference) hfixed
    exact hp.trans h.preference

/-- A session is opened for a source of the preference. -/
theorem newBillingSession (hidle : Idle r0 rq) {quota : ℤ} (hquota : 0 ≤ quota) :
    Preferred pref r0 (newBillingSession rq quota).2 ∧
      ((newBillingSession rq quota).1 = none → (newBillingSession rq quota).2.billing ≠ none) ∧
      ((newBillingSession rq quota).1 ≠ none → Idle r0 (newBillingSession rq quota).2) := by
  have hattempt := byPreference_attempt hidle.billing h.key hidle.record hidle.log hquota
  have hopens := byPreference_opens quota hidle.billing h.subscriptionKey
  rw [h.preference] at hattempt
  unfold Billing.newBillingSession
  rw [if_neg (by rw [h.organizationId]; exact lt_irrefl 0), h.subscriptionKey]
  generalize byPreference rq quota = res at hattempt hopens ⊢
  rcases hattempt with ⟨hok, -, session, hadmits, hf⟩ | ⟨hok, hun⟩
  · have hsource : rq.info.FundedBy session.funding.source := by
      refine iff_of_false hadmits.ne_organization ?_
      rw [h.organizationId]
      exact lt_irrefl 0
    refine ⟨h.of_fixed hf.fixed (hopens.later.answers h.answers) (.inr ⟨session,
      hf.holding hidle.taken hsource, hadmits, hopens.reserves session hf.billing⟩), fun _ => ?_,
      fun hne => absurd hok hne⟩
    rw [hf.billing]
    exact nofun
  · exact ⟨h.of_fixed hun.fixed (hopens.later.answers h.answers) (.inl (hun.idle hidle)),
      fun hnone => absurd hnone hok, fun _ => hun.idle hidle⟩

/-- A reservation keeps the source, unless its rollback fails. -/
theorem reserve {session : BillingSession} (hold : Holding r0 rq session)
    (hadmits : pref.Admits session.funding.source) (hres : session.Reserves) (target : ℤ)
    (req : Bool) : Lost (.ofState ((rq.state session).reserve target req).2) ∨
      Preferred pref r0 (.ofState ((rq.state session).reserve target req).2) := by
  have hkeeps := (rq.state session).reserve_keeps target req
  rcases hold.reserve target req with ⟨session', hold'⟩ | hlost
  · refine .inr (h.of_fixed hkeeps.fixed (hkeeps.later.answers h.answers)
      (.inr ⟨session', hold', ?_⟩))
    obtain rfl : ((rq.state session).reserve target req).2.session = session' :=
      some.inj hold'.billing
    have hsource : ((rq.state session).reserve target req).2.session.funding.source =
        session.funding.source := hkeeps.source
    refine ⟨by rwa [hsource], fun hsub => ?_⟩
    exact lt_of_lt_of_le (hres (hsource.symm.trans hsub)) hkeeps.reserved
  · exact .inl hlost

/-- What an attempt reserves comes from a source of the preference. -/
theorem reserveOrOpen (quota : ℤ) : Lost (reserveOrOpen rq quota).2 ∨
      (Preferred pref r0 (reserveOrOpen rq quota).2 ∧
        ((reserveOrOpen rq quota).1 = none → (reserveOrOpen rq quota).2.billing ≠ none)) := by
  have hhold : ∀ session, rq.billing = some session → Holding r0 rq session ∧
      pref.Admits session.funding.source ∧ session.Reserves := by
    intro session hb
    rcases h.phase with hidle | ⟨session', hold, hrest⟩
    · exact absurd (hidle.billing.symm.trans hb) (by simp)
    · obtain rfl := some.inj (hold.billing.symm.trans hb)
      exact ⟨hold, hrest⟩
  fun_cases Billing.reserveOrOpen rq quota
  case case1 hb =>
    have hidle : Idle r0 rq := by
      rcases h.phase with hidle | ⟨session, hold, -⟩
      · exact hidle
      · exact absurd (hold.billing.symm.trans hb) (by simp)
    fun_cases preConsumeBilling rq quota
    case case1 => exact .inr ⟨h, by simp⟩
    case case2 hsome _ _ _ => exact absurd (hb.symm.trans hsome) (by simp)
    case case3 hneg _ =>
      have hnew := h.newBillingSession hidle (not_lt.1 hneg)
      exact .inr ⟨hnew.1, hnew.2.1⟩
  case case2 hb _ _ hres =>
    obtain ⟨hold, hadmits, hreserves⟩ := hhold _ hb
    have hr := h.reserve hold hadmits hreserves quota false
    rw [hres] at hr
    exact hr.imp_right fun hp => ⟨hp, by simp⟩
  case case3 hb _ hres =>
    obtain ⟨hold, hadmits, hreserves⟩ := hhold _ hb
    have hr := h.reserve hold hadmits hreserves quota false
    rw [hres] at hr
    rcases hr with hlost | hp
    · exact .inl hlost
    refine .inr ⟨hp.of_fixed rfl hp.answers (.inr ?_), fun _ => some_ne_none _⟩
    rcases hp.phase with hi | ⟨session', hold', hrest⟩
    · exact absurd hi.billing (some_ne_none _)
    · exact ⟨session', hold'.setInfo rfl rfl rfl rfl, hrest⟩

end

/-- The group of an attempt is no part of who pays. -/
theorem choose {σ : Type} {st : LoopState σ} (h : Preferred pref r0 st.request)
    (choice : Option GroupChoice) : Preferred pref r0 (st.choose choice).request := by
  cases choice with
  | none => exact h
  | some choice =>
    refine { h with phase := ?_ }
    rcases h.phase with h | ⟨session, h, hrest⟩
    · exact .inl { h with }
    · exact .inr ⟨session, h.setInfo rfl rfl rfl rfl, hrest⟩

theorem toPhase (h : Preferred pref r0 rq) : Phase r0 rq := by
  rcases h.phase with hidle | ⟨session, hold, -⟩
  · exact .inl hidle
  · exact .inr (.inl ⟨session, hold⟩)

end Preferred

/-! ## The attempts -/

/-- A request for `model` between its attempts. Without an expression price it has a session
from the start, or never. -/
structure Tried (pref : BillingPreference) (r0 : Rows) (model : ModelPricing) (freeModel : Bool)
    (st : LoopState (Option ℤ)) : Prop where
  preferred : Preferred pref r0 st.request
  mode : st.snap = none ↔ model.expr = none
  snap : ∀ s, st.snap = some s → s.FreeIfZero
  free : st.snap = none → (st.request.billing = none ↔ freeModel = true)

/-- The snapshot of an expression price is that of the attempt's group, and without a session
the group is free. -/
def Ready (st : LoopState (Option ℤ)) : Prop :=
  ∀ s, st.snap = some s → s.groupRatio = st.groupRatio ∧
    (st.request.billing = none → st.groupRatio = 0)

section Attempts

variable {pref : BillingPreference} {r0 : Rows} {model : ModelPricing} {freeModel : Bool}
  {st : LoopState (Option ℤ)}

variable {rq : Request}

theorem lost_reserveOrOpen (h : Lost rq) (quota : ℤ) :
    Lost (reserveOrOpen rq quota).2 := by
  obtain ⟨session, hb⟩ := isSome_iff_exists.1 h.1
  unfold reserveOrOpen
  rw [hb]
  have hr := h.reserve session quota false
  dsimp only
  generalize (rq.state session).reserve quota false = res at hr ⊢
  obtain ⟨e, st⟩ := res
  cases e with
  | some e => exact hr
  | none => exact ⟨rfl, hr.2⟩

theorem lost_prepareTiered (h : Lost rq) (snap : Option BillingSnapshot)
    (groupRatio : ℚ) : Lost (prepareTieredBillingForSelectedGroup snap groupRatio rq).2.2 := by
  unfold prepareTieredBillingForSelectedGroup
  cases snap with
  | none => exact h
  | some snap =>
    dsimp only
    cases refreshTieredBillingGroup snap groupRatio with
    | none => exact h
    | some snap' =>
      dsimp only
      split
      · exact h
      · exact lost_reserveOrOpen h snap'.estimatedQuotaAfterGroup

theorem lost_beforeHandler (h : Lost st.request) (attempt : Attempt TextWork) :
    Lost (beforeHandler attempt st).2.request := by
  have hc : ∀ choice, Lost (st.choose choice).request := by
    intro choice
    cases choice with
    | none | some => exact h
  fun_cases beforeHandler attempt st
  case case1 => exact h
  case case2 choice _ _ _ => exact hc choice
  case case3 choice _ _ _ _ _ _ hprep | case4 choice _ _ _ _ _ hprep =>
    have hp := lost_prepareTiered (hc choice) (st.choose choice).snap (st.choose choice).groupRatio
    rw [hprep] at hp
    exact hp

/-- The preparation of an expression price for the group of an attempt. -/
theorem Tried.prepareTiered (h : Tried pref r0 model freeModel st) {e : Option ErrorCode}
    {snap : Option BillingSnapshot}
    (hres : prepareTieredBillingForSelectedGroup st.snap st.groupRatio st.request = (e, snap, rq)) :
    Lost rq ∨ (Tried pref r0 model freeModel { st with request := rq, snap := snap } ∧
      (e = none → Ready { st with request := rq, snap := snap })) := by
  generalize hsnap : st.snap = old at hres
  have hmode : old = none ↔ model.expr = none := by rw [← hsnap, h.mode]
  revert hres
  fun_cases prepareTieredBillingForSelectedGroup old st.groupRatio st.request <;> rintro ⟨⟩
  case case1 => exact .inr ⟨⟨h.preferred, hmode, nofun, fun _ => h.free hsnap⟩, fun _ => nofun⟩
  case case2 =>
    exact .inr ⟨⟨h.preferred, by simpa using hmode, fun s hs => h.snap s (hsnap.trans hs), nofun⟩,
      nofun⟩
  case case3 old new href hzero =>
    obtain ⟨hratio, hkeeps⟩ := refreshTieredBillingGroup_ok href
    refine .inr ⟨⟨h.preferred, by simpa using hmode, ?_, nofun⟩, ?_⟩
    · rintro s ⟨⟩
      exact hkeeps (h.snap old hsnap)
    · rintro - s ⟨⟩
      exact ⟨hratio, fun _ => hratio.symm.trans hzero⟩
  case case4 old new href _ hreserve =>
    obtain ⟨hratio, hkeeps⟩ := refreshTieredBillingGroup_ok href
    have hp := h.preferred.reserveOrOpen new.estimatedQuotaAfterGroup
    rw [hreserve] at hp
    rcases hp with hlost | ⟨hp, hsome⟩
    · exact .inl hlost
    refine .inr ⟨⟨hp, by simpa using hmode, ?_, nofun⟩, ?_⟩
    · rintro s ⟨⟩
      exact hkeeps (h.snap old hsnap)
    · rintro hnone s ⟨⟩
      exact ⟨hratio, fun hb => absurd hb (hsome hnone)⟩

theorem Tried.beforeHandler (h : Tried pref r0 model freeModel st) (attempt : Attempt TextWork) :
    Lost (beforeHandler attempt st).2.request ∨
      (Tried pref r0 model freeModel (beforeHandler attempt st).2 ∧
        ((beforeHandler attempt st).1 = none → Ready (beforeHandler attempt st).2)) := by
  have hc : ∀ choice, Tried pref r0 model freeModel (st.choose choice) := by
    intro choice
    cases choice with
    | none => exact h
    | some choice => exact ⟨h.preferred.choose (some choice), h.mode, h.snap, h.free⟩
  fun_cases Relay.beforeHandler attempt st
  case case1 => exact .inr ⟨h, by simp⟩
  case case2 choice _ _ _ => exact .inr ⟨hc choice, by simp⟩
  case case3 choice _ _ _ _ _ _ hprep =>
    exact ((hc choice).prepareTiered hprep).imp_right fun ht => ⟨ht.1, by simp⟩
  case case4 choice _ _ _ _ _ hprep =>
    exact ((hc choice).prepareTiered hprep).imp_right fun ht => ⟨ht.1, fun _ => ht.2 rfl⟩

end Attempts

/-! ## Who pays -/

/-- The ledgers of the sources a billing preference admits. -/
def AdmitsLedger (pref : BillingPreference) : Ledger → Prop
  | .wallet => pref.Admits .wallet
  | .subscription _ => pref.Admits .subscription
  | _ => False

/-- The charge `quota` is paid as the preference has it, the token's own count aside: a
positive one by exactly one ledger that the preference admits, and a ledger that it does
not admit never pays. -/
structure PaidAsPreferred (pref : BillingPreference) (r r' : Rows) (quota : ℤ) : Prop where
  charged : 0 < quota → ∃ l, AdmitsLedger pref l ∧ r.Debited r' l ∧
    ∀ l', l' ≠ l → l' ≠ .token → ¬ r.Debited r' l'
  spared : ∀ l, l ≠ .token → ¬ AdmitsLedger pref l → ¬ r.Debited r' l

variable {pref : BillingPreference} {st st' : LoopState (Option ℤ)} {quotaPerUnit : ℚ}
  {price : PriceData} {rq : Request}

theorem admitsLedger_iff {fs : FundingSource} :
    AdmitsLedger pref fs.ledger ↔ pref.Admits fs.source := by
  cases fs with
  | wallet f => rfl
  | subscription f => rfl
  | organization f => cases pref <;> simp [AdmitsLedger, BillingPreference.Admits,
      FundingSource.ledger, FundingSource.source]

/-- Exactly one ledger moves. -/
theorem PaidAsPreferred.of_spares {r r' : Rows} {quota : ℤ} {l : Ledger}
    (hl : AdmitsLedger pref l) (hspares : Spares l r r') (hdebit : 0 < quota → r.Debited r' l) :
    PaidAsPreferred pref r r' quota where
  charged hpos := ⟨l, hl, hdebit hpos, fun _ hne ht => hspares.not_debited hne ht⟩
  spared l' ht hnot := by
    refine hspares.not_debited ?_ ht
    rintro rfl
    exact hnot hl

section Settle

variable {pref : BillingPreference} {r0 : Rows} {model : ModelPricing} {freeModel : Bool}
  {st : LoopState (Option ℤ)}

theorem Tried.paid_of_session (h : Tried pref r0 model freeModel st)
    (hb : st.request.billing ≠ none) (quota : ℤ) :
    PaidAsPreferred pref r0 (settleBilling st.request quota).2.store.rows quota := by
  rcases h.preferred.phase with hidle | ⟨session, hold, hadmits, hres⟩
  · exact absurd hidle.billing hb
  · have hkey := h.preferred.key
    exact .of_spares (admitsLedger_iff.2 hadmits) (hold.settle_spares hkey quota)
      (hold.debited hkey h.preferred.answers hres hadmits.ne_organization)

/-- A request without a session pays a positive charge from the wallet. -/
theorem Tried.paid_iff (h : Tried pref r0 model freeModel st) (hb : st.request.billing = none)
    (quota : ℤ) :
    PaidAsPreferred pref r0 (settleBilling st.request quota).2.store.rows quota ↔
      ¬ (pref = .subscriptionOnly ∧ 0 < quota) := by
  have horg := h.preferred.organizationId
  rcases h.preferred.phase with hidle | ⟨session, hold, -⟩
  · by_cases hpos : 0 < quota
    · obtain ⟨hspares, hdebit⟩ := hidle.settle_debited horg h.preferred.answers hpos
      constructor
      · rintro hpaid ⟨rfl, -⟩
        exact hpaid.spared .wallet nofun (by simp [AdmitsLedger, BillingPreference.Admits]) hdebit
      intro hnot
      refine .of_spares (l := .wallet) ?_ hspares fun _ => hdebit
      have hpref : pref ≠ .subscriptionOnly := fun hp => hnot ⟨hp, hpos⟩
      cases pref with
      | subscriptionOnly => exact absurd rfl hpref
      | walletOnly => rfl
      | walletFirst | subscriptionFirst => exact .inl rfl
    · refine iff_of_true ⟨fun h => absurd h hpos, fun l ht _ => ?_⟩ fun h => hpos h.2
      exact hidle.settle_not_debited horg (not_lt.1 hpos) ht
  · rw [hold.billing] at hb
    cases hb

end Settle

/-! ## Runs -/

/-- What the attempt that answers charges a request without an expression price: the price
of its own group. -/
def chargeOf (quotaPerUnit : ℚ) (price : PriceData) : ℚ → List (Attempt TextWork) → ℤ
  | _, [] => 0
  | groupRatio, attempt :: rest =>
    let groupRatio := match attempt.select with
      | .ok (some choice) => choice.groupRatio
      | _ => groupRatio
    match attempt.work with
    | .failed _ => chargeOf quotaPerUnit price groupRatio rest
    | .answered report => postTextQuota quotaPerUnit price groupRatio none 0 report

theorem beforeHandler_kept (attempt : Attempt TextWork) (hsnap : st.snap = none) :
    (beforeHandler attempt st).2.snap = none ∧
      (beforeHandler attempt st).2.request.info.isTokenSubscriptionRequest =
        st.request.info.isTokenSubscriptionRequest ∧
      ((beforeHandler attempt st).1 = none → (beforeHandler attempt st).2.groupRatio =
        match attempt.select with
        | .ok (some choice) => choice.groupRatio
        | _ => st.groupRatio) := by
  unfold beforeHandler
  cases attempt.select with
  | error e => exact ⟨hsnap, rfl, nofun⟩
  | ok choice =>
    have hc : (st.choose choice).snap = none ∧
        (st.choose choice).request.info.isTokenSubscriptionRequest =
          st.request.info.isTokenSubscriptionRequest ∧
        (st.choose choice).groupRatio =
          match (Except.ok choice : Except RelayError (Option GroupChoice)) with
          | .ok (some choice) => choice.groupRatio
          | _ => st.groupRatio := by
      cases choice with
      | none | some => exact ⟨hsnap, rfl, rfl⟩
    dsimp only
    generalize st.choose choice = st1 at hc ⊢
    obtain ⟨hsnap1, hkey, hratio⟩ := hc
    split
    · exact ⟨hsnap1, hkey, nofun⟩
    · rw [hsnap1]
      exact ⟨rfl, hkey, fun _ => hratio⟩

/-- The settled quota is that of the first attempt that answers. -/
theorem relayLoop_charge {policy : RetryPolicy} {attempts : List (Attempt TextWork)} {retry : ℤ}
    {last : LoopEnd} (hsnap : st.snap = none)
    (hkey : st.request.info.isTokenSubscriptionRequest = false) (hlast : last ≠ .served)
    (h : relayLoop policy (textHandler quotaPerUnit price) attempts retry last st =
      some (.served, st')) :
    st'.kept = some (chargeOf quotaPerUnit price st.groupRatio attempts) := by
  induction attempts generalizing retry last st with
  | nil =>
    simp only [relayLoop] at h
    split at h
    · cases h
    · simp only [some.injEq, Prod.mk.injEq] at h
      exact absurd h.1 hlast
  | cons attempt rest ih =>
    simp only [relayLoop] at h
    split at h
    · simp only [some.injEq, Prod.mk.injEq] at h
      exact absurd h.1 hlast
    obtain ⟨hsnap1, hkey1, hratio⟩ := beforeHandler_kept attempt hsnap
    rw [hkey] at hkey1
    generalize beforeHandler attempt st = res at h hsnap1 hkey1 hratio
    obtain ⟨e1, st1⟩ := res
    cases e1 with
    | some e1 => simp at h
    | none =>
      have hratio1 := hratio rfl
      simp only at h hsnap1 hkey1 hratio1
      simp only [chargeOf, ← hratio1]
      cases hwork : attempt.work with
      | failed e =>
        rw [hwork] at h
        simp only [textHandler] at h
        split at h
        · have hfail : LoopEnd.failed e ≠ .served := fun h => by cases h
          exact ih hsnap1 hkey1 hfail h
        · simp at h
      | answered report =>
        rw [hwork] at h
        simp only [textHandler, textQuota, hkey1, hsnap1] at h
        generalize settleText st1.request _ _ = res at h
        obtain ⟨ok, rq⟩ := res
        cases ok <;>
        · simp only [some.injEq, Prod.mk.injEq, true_and] at h
          rw [← h]
          rfl

/-- The charge of a text request without an expression price. -/
def textCharge (setting : QuotaSetting) (model : ModelPricing) (tokens : TokenCountMeta)
    (groupRatio : ℚ) (attempts : List (Attempt TextWork)) : ℤ :=
  match modelPriceHelper setting model tokens groupRatio with
  | none => 0
  | some (price, _) => chargeOf setting.quotaPerUnit price groupRatio attempts

theorem startBilling_preferred (h : General rq) (hans : rq.store.Answers) (freeModel : Bool)
    (quota : ℤ) :
    Preferred rq.info.billingPreference rq.store.rows (startBilling rq freeModel quota).2 ∧
      ((startBilling rq freeModel quota).1 = none →
        ((startBilling rq freeModel quota).2.billing = none ↔ freeModel = true)) ∧
      ((startBilling rq freeModel quota).1 ≠ none →
        Idle rq.store.rows (startBilling rq freeModel quota).2) := by
  have hp := Preferred.of_general h hans
  have hidle : Idle rq.store.rows rq := by
    rcases hp.phase with hidle | ⟨session, hold, -⟩
    · exact hidle
    · exact absurd (hold.billing.symm.trans h.billing) nofun
  unfold startBilling
  rw [hp.key, Bool.not_false, Bool.and_true]
  cases freeModel with
  | true => exact ⟨hp, fun _ => iff_of_true hidle.billing rfl, fun hne => absurd rfl hne⟩
  | false =>
    simp only [Bool.false_eq_true, if_false]
    unfold preConsumeBilling
    split
    · exact ⟨hp, nofun, fun _ => hidle⟩
    rename_i hneg
    rw [hidle.billing]
    obtain ⟨hp', hsome, hidle'⟩ := hp.newBillingSession hidle (not_lt.1 hneg)
    exact ⟨hp', fun hnone => iff_of_false (hsome hnone) nofun, hidle'⟩

/-- No compensating call has failed. -/
def CleanLog (log : List LogLine) : Prop :=
  (∀ δ, .rollbackFundingReserve δ ∉ log) ∧ .refundBillingSource ∉ log ∧ .refundExtraReserved ∉ log

theorem mem_settleText_log (hb : rq.billing.isSome = true) (quota tools : ℤ) {line : LogLine}
    (h : line ∈ rq.store.log) : line ∈ (settleText rq quota tools).2.store.log := by
  obtain ⟨session, hs⟩ := isSome_iff_exists.1 hb
  unfold settleText
  split
  · rw [hs]
    exact (rq.state session).mem_settleTokenBilling_log quota tools h
  · exact mem_settleBilling_log hb quota h

/-- The attempt that answers, from the state its handler finds. -/
theorem Tried.answered {r0 : Rows} {model : ModelPricing} {freeModel : Bool} {work : TextWork}
    (hst : Lost st.request ∨ Tried pref r0 model freeModel st)
    (hready : Lost st.request ∨ Ready st)
    (h : textHandler quotaPerUnit price work st = (none, st'))
    (hlog : CleanLog st'.request.store.log) :
    ∃ quota, st'.kept = some quota ∧ (PaidAsPreferred pref r0 st'.request.store.rows quota ↔
        ¬ (pref = .subscriptionOnly ∧ model.expr = none ∧ freeModel = true ∧ 0 < quota)) := by
  cases work with
  | failed e => simp [textHandler] at h
  | answered report =>
    generalize hquota : textQuota quotaPerUnit price st report = quota at h
    simp only [textHandler, hquota] at h
    generalize quotaFromDecimal
      (calculateTextToolCallSurcharge quotaPerUnit st.groupRatio report.usage.tools) = tools at h
    have hkept : st'.kept = some quota ∧
        st'.request.store.rows = (settleText st.request quota tools).2.store.rows ∧
        ∀ line, line ∈ (settleText st.request quota tools).2.store.log →
          line ∈ st'.request.store.log := by
      generalize settleText st.request quota tools = res at h ⊢
      obtain ⟨ok, rq⟩ := res
      cases ok with
      | true =>
        cases h
        exact ⟨rfl, rfl, fun _ hl => hl⟩
      | false =>
        cases h
        exact ⟨rfl, rfl, fun _ hl => List.mem_cons_of_mem _ hl⟩
    obtain ⟨hkept, hrows, hmem⟩ := hkept
    have hnot : ¬ Lost st.request := by
      rintro ⟨hb, δ, hδ⟩
      exact hlog.1 δ (hmem _ (mem_settleText_log hb quota tools hδ))
    have ht := hst.resolve_left hnot
    simp only [textQuota, settleText, ht.preferred.key, Bool.false_eq_true, if_false]
      at hquota hrows
    refine ⟨quota, hkept, ?_⟩
    rw [hrows]
    by_cases hb : st.request.billing = none
    · cases hsnap : st.snap with
      | none =>
        rw [ht.paid_iff hb quota]
        simp [ht.mode.1 hsnap, (ht.free hsnap).1 hb]
      | some snap =>
        -- without a session an expression price is that of a free group
        obtain ⟨hratio, hzero⟩ := (hready.resolve_left hnot) snap hsnap
        have hidle : Idle r0 st.request := by
          rcases ht.preferred.phase with hidle | ⟨session, hold, -⟩
          · exact hidle
          · exact absurd (hold.billing.symm.trans hb) nofun
        rw [hsnap, hzero hb, hidle.finalPreConsumedQuota, postTextQuota_eq_zero (ht.snap snap hsnap)
          (hratio.trans (hzero hb))] at hquota
        subst hquota
        refine iff_of_true ?_ (by simp)
        exact (ht.paid_iff hb 0).2 fun h => lt_irrefl 0 h.2
    · refine iff_of_true (ht.paid_of_session hb quota) ?_
      rintro ⟨-, hexpr, hfree, -⟩
      exact hb ((ht.free (ht.mode.2 hexpr)).2 hfree)

section Relay

variable {policy : RetryPolicy} {setting : QuotaSetting} {model : ModelPricing}
  {tokens : TokenCountMeta} {groupRatio : ℚ} {attempts : List (Attempt TextWork)} {rq : Request}
  {end_ : LoopEnd} {st' : LoopState (Option ℤ)}

theorem relayLoop_text {pref : BillingPreference} {r0 : Rows} {price : PriceData}
    {st : LoopState (Option ℤ)} (hst : Tried pref r0 model price.freeModel st)
    (h : relayLoop policy (textHandler setting.quotaPerUnit price) attempts 0 .notTried st =
      some (end_, st')) :
    (end_ ≠ .served ∧ Phase r0 st'.request) ∨
      (end_ = .served ∧ (CleanLog st'.request.store.log → ∃ quota, st'.kept = some quota ∧
        (PaidAsPreferred pref r0 st'.request.store.rows quota ↔
          ¬ (pref = .subscriptionOnly ∧ model.expr = none ∧ price.freeModel = true ∧
            0 < quota)))) := by
  have hbefore : ∀ (attempt : Attempt TextWork) st,
      Lost st.request ∨ Tried pref r0 model price.freeModel st →
      Lost (beforeHandler attempt st).2.request ∨
        Tried pref r0 model price.freeModel (beforeHandler attempt st).2 := by
    rintro attempt st (hlost | ht)
    · exact .inl (lost_beforeHandler hlost attempt)
    · exact (ht.beforeHandler attempt).imp_right And.left
  have hready : ∀ (attempt : Attempt TextWork) st,
      Lost st.request ∨ Tried pref r0 model price.freeModel st →
      (beforeHandler attempt st).1 = none →
      Lost (beforeHandler attempt st).2.request ∨ Ready (beforeHandler attempt st).2 := by
    rintro attempt st (hlost | ht) hnone
    · exact .inl (lost_beforeHandler hlost attempt)
    · exact (ht.beforeHandler attempt).imp_right fun h => h.2 hnone
  have hhandler : ∀ w st, Lost st.request ∨ Tried pref r0 model price.freeModel st →
      (textHandler setting.quotaPerUnit price w st).1 ≠ none →
      Lost (textHandler setting.quotaPerUnit price w st).2.request ∨
        Tried pref r0 model price.freeModel (textHandler setting.quotaPerUnit price w st).2 := by
    intro w st hst hne
    cases w with
    | failed e => exact hst
    | answered report =>
      refine absurd ?_ hne
      simp only [textHandler]
      generalize settleText st.request _ _ = res
      obtain ⟨ok, rq⟩ := res
      cases ok <;> rfl
  have hlast : LoopEnd.notTried ≠ .served := nofun
  rcases relayLoop_ready (Q := fun st => Lost st.request ∨ Ready st) hbefore hhandler
      (.inr hst) hlast h hready with
    ⟨hend, hlost | ht⟩ | ⟨hend, attempt, -, st1, hP, hQ, hs⟩
  · exact .inl ⟨hend, .inr (.inr hlost)⟩
  · exact .inl ⟨hend, ht.preferred.toPhase⟩
  · exact .inr ⟨hend, Tried.answered hP hQ hs⟩

/-- **Who pays for a text request.** Of a user with a general key, with every database call
answered and no compensating call refused: a request that fails has moved nothing, and the
charge of one that is served is paid as the user prefers, unless the preference is
`subscription_only`, the first price is free without being an expression, and the attempt
that answers costs something. -/
theorem text_charge_preferred_iff (hgeneral : General rq) (hans : rq.store.Answers)
    (hrun : relayText policy setting model tokens groupRatio attempts rq = some (end_, st'))
    (hlog : CleanLog st'.request.store.log) :
    (∀ e, end_ = .failed e → ∀ l, l ≠ .token →
        st'.request.store.rows.taken l = rq.store.rows.taken l) ∧
      (end_ = .served → ∃ quota, st'.kept = some quota ∧
        (PaidAsPreferred rq.info.billingPreference rq.store.rows st'.request.store.rows quota ↔
          ¬ (rq.info.billingPreference = .subscriptionOnly ∧ model.expr = none ∧
            model.Free setting groupRatio ∧
            0 < textCharge setting model tokens groupRatio attempts))) := by
  revert hrun
  fun_cases relayText policy setting model tokens groupRatio attempts rq
  case case1 =>
    rintro ⟨⟩
    exact ⟨fun _ _ _ _ => rfl, nofun⟩
  case case2 price snap hprice =>
    obtain ⟨hp, hfree, hidle⟩ :=
      startBilling_preferred hgeneral hans price.freeModel price.quotaToPreConsume
    obtain ⟨hfreeModel, hmode, hsnap⟩ := modelPriceHelper_spec hprice
    fun_cases relay policy (textHandler setting.quotaPerUnit price) price.freeModel
      price.quotaToPreConsume attempts ⟨rq, snap, groupRatio, none⟩ <;> rintro ⟨⟩
    case case1 hbilled =>
      rw [hbilled] at hidle
      exact ⟨fun _ _ l hl => (hidle nofun).taken l hl, nofun⟩
    case case3 hbilled e st1 hloop =>
      rw [hbilled] at hp hfree
      have hend := relayLoop_text ⟨hp, hmode, hsnap, fun _ => hfree rfl⟩ hloop
      refine ⟨fun _ _ l hl => ?_, nofun⟩
      rcases hend with ⟨-, hphase⟩ | ⟨hserved, -⟩
      · exact hphase.refund hlog.2 hlog.1 hl
      · cases hserved
    case case4 hbilled hnot hloop =>
      rw [hbilled] at hp hfree
      have hend := relayLoop_text ⟨hp, hmode, hsnap, fun _ => hfree rfl⟩ hloop
      refine ⟨fun e he => absurd he (hnot e), ?_⟩
      rintro rfl
      rcases hend with ⟨hne, -⟩ | ⟨-, hpaid⟩
      · exact absurd rfl hne
      obtain ⟨quota, hkept, hiff⟩ := hpaid hlog
      refine ⟨quota, hkept, hiff.trans ?_⟩
      rw [hfreeModel]
      refine not_congr (and_congr_right fun _ => and_congr_right fun hexpr => ?_)
      have hlast : LoopEnd.notTried ≠ .served := nofun
      have hcharge := relayLoop_charge (hmode.2 hexpr) hp.key hlast hloop
      rw [hkept] at hcharge
      unfold textCharge
      rw [hprice, some.inj hcharge]

end Relay

/-! ## A free group before a paid one -/

/-- A user with a subscription and a wallet of 1000 units each, in a free group. -/
def freeGroupRequest (pref : BillingPreference) : Request :=
  { walletRequest with
    store := { walletRequest.store with
      rows := { walletRequest.store.rows with
        subscriptions := {
          list := [⟨1, .quota, [], 1000, 0⟩]
          ids_nodup := by decide
          ids_pos := by decide } } }
    info := { walletRequest.info with billingPreference := pref, usingGroup := "free" } }

/-- A model with the ratio 1, free models not pre-consumed, one retry: the channel of the free
group fails, and the one of a group with the ratio 1 answers with ten tokens. -/
def relayFreeThenPaid (pref : BillingPreference) : Option (LoopEnd × LoopState (Option ℤ)) :=
  relayText ⟨1, false, fun _ => false, fun _ => true⟩ ⟨0, 500000, false⟩
    ⟨none, false, 0, true, 1, 1, 1, 1, 1⟩ ⟨10, 0, 0, []⟩ 0
    [⟨.ok none, none, false, none, false, .failed ⟨.handler, 500, false, false⟩⟩,
      ⟨.ok (some ⟨"paid", 1⟩), none, false, none, false,
        .answered { usage := { promptTokens := 10, completionTokens := 0 } }⟩]
    (freeGroupRequest pref)

theorem relayFreeThenPaid_served (pref : BillingPreference) :
    ∃ st', relayFreeThenPaid pref = some (.served, st') ∧ st'.request.store.log = [] ∧
      st'.kept = some 10 ∧ st'.request.store.rows.userQuota = 990 := by
  obtain ⟨⟨_, st'⟩, hout, rfl, hrest⟩ : ∃ out ∈ relayFreeThenPaid pref, out.1 = .served ∧
      out.2.request.store.log = [] ∧ out.2.kept = some 10 ∧
      out.2.request.store.rows.userQuota = 990 := by
    cases pref <;> decide +kernel
  exact ⟨st', hout, hrest⟩

/-- With the wallet as first choice the charge of the paid group is taken as preferred. -/
theorem relayFreeThenPaid_walletFirst :
    ∃ st', relayFreeThenPaid .walletFirst = some (.served, st') ∧ ∃ quota, st'.kept = some quota ∧
        PaidAsPreferred .walletFirst (freeGroupRequest .walletFirst).store.rows
          st'.request.store.rows quota := by
  obtain ⟨st', hrun, hlog, -⟩ := relayFreeThenPaid_served .walletFirst
  have hgeneral : General (freeGroupRequest .walletFirst) := ⟨rfl, rfl, rfl, rfl, rfl, rfl, rfl⟩
  have hclean : CleanLog st'.request.store.log := by
    rw [hlog]
    exact ⟨fun _ => nofun, nofun, nofun⟩
  obtain ⟨quota, hkept, hpaid⟩ := (text_charge_preferred_iff hgeneral rfl hrun hclean).2 rfl
  exact ⟨st', hrun, quota, hkept, hpaid.2 nofun⟩

/-- With `subscription_only` the same run takes the charge from the wallet. -/
theorem subscriptionOnly_charged_to_wallet :
    ∃ st', relayFreeThenPaid .subscriptionOnly = some (.served, st') ∧
      st'.request.store.log = [] ∧ st'.kept = some 10 ∧
      ¬ PaidAsPreferred .subscriptionOnly (freeGroupRequest .subscriptionOnly).store.rows
        st'.request.store.rows 10 := by
  obtain ⟨st', hrun, hlog, hkept, hwallet⟩ := relayFreeThenPaid_served .subscriptionOnly
  refine ⟨st', hrun, hlog, hkept, fun hpaid => ?_⟩
  refine hpaid.spared .wallet nofun (by simp [AdmitsLedger, BillingPreference.Admits]) ?_
  simp only [Rows.Debited, Rows.taken, hwallet]
  decide

end OmniRouters.Relay
