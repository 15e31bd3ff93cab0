import OmniRouters.Relay.AutoGroup
import OmniRouters.Relay.Text

/-!
# Text requests of an auto token

A text request whose token has the group `auto`, from its token to its settlement: the
distributor selects a first channel, and every retry selects again. The selected group travels
through the context key `auto_group`, which `HandleGroupRatio` reads back.

* `Bound.beforeHandler`: the subscription that pays allows the group of the attempt.
* `autoAttempt_chosen`: an attempt uses the price of the group its channel comes from.
* `auto_text_served`: the group, the subscription and the price of a request that is served.
* `price_routed`: a request that routes by price does not go on to a cheaper group.
-/

namespace OmniRouters.Relay

open Billing List Option RelayInfo

/-! ## The model -/

/-- What an iteration of the loop meets: the channels that can be drawn, the error of
`SetupContextForSelectedChannel`, and what the channel does. -/
structure AutoAttempt where
  pick : Pick
  setupError : Option RelayError
  bodyTooLarge : Option Bool
  skipAfterAffinityFailure : Bool
  work : TextWork

/-- The configuration and what a request meets on its way. -/
structure AutoRun where
  policy : RetryPolicy
  quota : QuotaSetting
  model : ModelPricing
  tokens : TokenCountMeta
  setting : GroupSetting
  token : AutoToken
  affinity : Option Affinity
  pick : Pick
  attempts : List AutoAttempt

/-- The loop's state, with the context keys of the selection and the channel in use. -/
structure AutoState where
  loop : LoopState (Option ℤ)
  select : SelectState
  channel : ℕ

/-- The group ratio of a request in `group`. -/
def AutoRun.groupRatio (run : AutoRun) (info : RelayInfo) (group : String) : ℚ :=
  handleGroupRatio run.setting run.token info.organizationId group

/-- `getChannel` (controller/relay.go:399-424). The first iteration keeps the channel
of the context; a retry selects again and prices the group that the context then holds. -/
def getChannel (run : AutoRun) (first : Bool) (attempt : AutoAttempt) (st : AutoState) :
    Except RelayError (Option GroupChoice) × SelectState × ℕ :=
  let info := st.loop.request.info
  if first then (.ok none, st.select, st.channel)
  else
    match cacheGetRandomSatisfiedChannel run.policy.retryTimes run.setting run.token
        info.allowedGroups attempt.pick st.select with
    | (none, select) => (.error ⟨.getChannelFailed, 500, true, false⟩, select, st.channel)
    | (some (channel, _), select) =>
      match attempt.setupError with
      | some e => (.error e, select, channel)
      | none =>
        let group := select.autoGroup.getD info.usingGroup
        (.ok (some ⟨group, run.groupRatio info group⟩), select, channel)

/-- How an iteration ends. Only the error of a handler may be retried. -/
inductive AttemptEnd
  | stopped (e : RelayError)
  | failed (e : RelayError)
  | served

/-- An iteration of the loop (controller/relay.go:227-288). -/
def autoAttempt (run : AutoRun) (price : PriceData) (first : Bool) (attempt : AutoAttempt)
    (st : AutoState) : AttemptEnd × AutoState :=
  match getChannel run first attempt st with
  | (choice, select, channel) =>
    match beforeHandler ⟨choice, none, false, attempt.bodyTooLarge,
        attempt.skipAfterAffinityFailure, attempt.work⟩ st.loop with
    | (some e, loop) => (.stopped e, ⟨loop, select, channel⟩)
    | (none, loop) =>
      match textHandler run.quota.quotaPerUnit price attempt.work loop with
      | (some e, loop) => (.failed e, ⟨loop, select, channel⟩)
      | (none, loop) => (.served, ⟨loop, select, channel⟩)

/-- The loop of `Relay` over an auto token. The retry counter is a part of the selection. -/
def autoLoop (run : AutoRun) (price : PriceData) :
    List AutoAttempt → Bool → LoopEnd → AutoState → Option (LoopEnd × AutoState)
  | [], _, last, st => if st.select.retry ≤ run.policy.retryTimes then none else some (last, st)
  | attempt :: rest, first, last, st =>
    if run.policy.retryTimes < st.select.retry then some (last, st)
    else
      match autoAttempt run price first attempt st with
      | (.stopped e, st) => some (.failed e, st)
      | (.served, st) => some (.served, st)
      | (.failed e, st) =>
        if shouldRetry run.policy attempt.skipAfterAffinityFailure e
            (run.policy.retryTimes - st.select.retry) then
          autoLoop run price rest false (.failed e) { st with select := st.select.increaseRetry }
        else some (.failed e, st)

/-- The groups that the token leaves in the context: `ValidateUserToken`
(model/token.go:318-336) reads the subscription of a subscription key, and `SetupContextForToken`
(middleware/auth.go:606-621) sets the context. -/
def setupContextForToken (store : Store) (info : RelayInfo) : Option Request :=
  let withGroups (groups : List String) : Request :=
    { store := store
      info := { info with allowedGroups := groups, subscriptionAllowedGroups := groups }
      billing := none }
  match info.subscriptionKey with
  | none => some (withGroups [])
  | some _ =>
    if info.subscriptionId = 0 then none
    else (store.rows.allowedGroups info.subscriptionId).map fun groups =>
      withGroups (normalizeSubscriptionGroups groups)

/-- How a request of an auto token ends. -/
inductive AutoEnd
  | tokenInvalid
  | noAvailableChannel
  | relayed (e : LoopEnd)

/-- A text request of an auto token: `TokenAuth`, `Distribute` and `Relay`. -/
def relayAutoText (run : AutoRun) (store : Store) (info : RelayInfo) :
    Option (AutoEnd × AutoState) :=
  match setupContextForToken store info with
  | none => some (.tokenInvalid, ⟨⟨⟨store, info, none⟩, none, 1, none⟩, {}, 0⟩)
  | some rq =>
    match distribute run.policy.retryTimes run.setting run.token rq.info.allowedGroups
        run.affinity run.pick with
    | none => some (.noAvailableChannel, ⟨⟨rq, none, 1, none⟩, {}, 0⟩)
    | some (channel, _, select) =>
      let group := select.autoGroup.getD rq.info.usingGroup
      let groupRatio := run.groupRatio rq.info group
      let rq := { rq with info := { rq.info with usingGroup := group } }
      match modelPriceHelper run.quota run.model run.tokens groupRatio with
      | none =>
        some (.relayed (.failed (billingError .modelPriceError)),
          ⟨⟨rq, none, groupRatio, none⟩, select, channel⟩)
      | some (price, snap) =>
        match startBilling rq price.freeModel price.quotaToPreConsume with
        | (some e, rq) =>
          some (.relayed (.failed (billingError e)),
            ⟨⟨rq, snap, groupRatio, none⟩, select, channel⟩)
        | (none, rq) =>
          match autoLoop run price run.attempts true .notTried
              ⟨⟨rq, snap, groupRatio, none⟩, select, channel⟩ with
          | none => none
          | some (.failed e, st) =>
            some (.relayed (.failed e),
              { st with loop := { st.loop with request := refundBilling st.loop.request } })
          | some (end_, st) => some (.relayed end_, st)

/-! ## The subscription that pays -/

theorem setupContextForToken_admitted {store : Store} {info : RelayInfo} {rq : Request}
    (h : setupContextForToken store info = some rq) :
    rq.Admitted ∧ rq.billing = none ∧ rq.store = store := by
  unfold setupContextForToken at h
  cases hkey : info.subscriptionKey with
  | none =>
    simp only [hkey, some.injEq] at h
    subst h
    exact ⟨rfl, rfl, rfl⟩
  | some mode =>
    simp only [hkey] at h
    split at h
    · cases h
    next hid =>
      obtain ⟨groups, hgroups, rfl⟩ := map_eq_some_iff.1 h
      exact ⟨⟨Nat.pos_of_ne_zero hid, groups, hgroups, rfl⟩, rfl, rfl⟩

/-- A request between its attempts. The subscription of its session is one that was there at
first, and the context keeps the groups of that subscription. -/
structure Bound (rq0 rq : Request) : Prop where
  groups : rq.store.rows.allowedGroups = rq0.store.rows.allowedGroups
  key : rq.info.subscriptionKey = rq0.info.subscriptionKey
  organizationId : rq.info.organizationId = rq0.info.organizationId
  context : rq.info.allowedGroups = rq0.info.allowedGroups ∨ rq0.info.allowedGroups = []
  admitted : rq.billing = none → rq.Admitted
  funding : ∀ session f, rq.billing = some session → session.funding = .subscription f →
    (∃ groups, rq0.store.rows.allowedGroups f.subscriptionId = some groups ∧
      f.allowedGroups = normalizeSubscriptionGroups groups) ∧
    rq.info.allowedGroups = f.allowedGroups

/-- The subscription that pays, if any, allows the request's group. -/
def Granted (rq0 rq : Request) : Prop :=
  ∀ session f, rq.billing = some session → session.funding = .subscription f →
    f.Grants rq0.store.rows rq.info.usingGroup

namespace Bound

variable {rq0 rq : Request}

theorem of_admitted (h : rq.Admitted) (hb : rq.billing = none) : Bound rq rq where
  groups := rfl
  key := rfl
  organizationId := rfl
  context := .inl rfl
  admitted _ := h
  funding session f hs := by
    rw [hb] at hs
    cases hs

section

variable (h : Bound rq0 rq)

include h

/-- The group in use is no part of what binds a request. -/
theorem setUsingGroup (group : String) :
    Bound rq0 { rq with info := { rq.info with usingGroup := group } } :=
  { h with }

/-- A session that is opened is paid by a subscription that allows the group. -/
theorem opens {rq' : Request} (hb : rq.billing = none) (ho : Opens rq rq') :
    Bound rq0 rq' ∧ Granted rq0 rq' := by
  have hkey := subscriptionKey_of_fixed ho.fixed
  have hadm := h.admitted hb
  refine ⟨⟨?_, ?_, ?_, ?_, fun hnone => ?_, fun session f hs hf => ?_⟩, fun session f hs hf => ?_⟩
  · rw [ho.later.groups, h.groups]
  · rw [hkey, h.key]
  · rw [organizationId_of_fixed ho.fixed, h.organizationId]
  · by_cases hnone : rq.info.subscriptionKey = none
    · have hempty : rq.info.allowedGroups = [] := by
        unfold Request.Admitted at hadm
        rwa [hnone] at hadm
      refine .inr ?_
      rcases h.context with hcontext | hcontext
      · rw [← hcontext, hempty]
      · exact hcontext
    · rw [ho.context hnone]
      exact h.context
  · obtain ⟨hgroups, hid⟩ := ho.refused hnone
    unfold Request.Admitted at hadm ⊢
    rwa [hkey, hgroups, hid, ho.later.groups]
  · obtain ⟨hgrants, hcontext⟩ := ho.grants session f hs hf
    refine ⟨?_, hcontext hadm⟩
    rw [← h.groups]
    exact hgrants.row
  · obtain ⟨hgrants, -⟩ := ho.grants session f hs hf
    refine ⟨?_, ?_⟩
    · rw [← h.groups]
      exact hgrants.row
    · rw [usingGroup_of_fixed ho.fixed]
      exact hgrants.allows

/-- A further reservation keeps the subscription. -/
theorem keeps {session : BillingSession} {st : State} (hb : rq.billing = some session)
    (hk : (rq.state session).Keeps st) :
    Bound rq0 (.ofState st) ∧ (Granted rq0 rq → Granted rq0 (.ofState st)) := by
  have hfunding : ∀ session' f, (Request.ofState st).billing = some session' →
      session'.funding = .subscription f → session.funding = .subscription f := by
    intro session' f hs hf
    cases hs
    exact FundingSource.eq_subscription_of_uncounted hk.funding hf
  refine ⟨⟨?_, ?_, ?_, ?_, nofun, fun session' f hs hf => ?_⟩, fun hg session' f hs hf => ?_⟩
  · exact hk.later.groups.trans h.groups
  · exact (subscriptionKey_of_fixed hk.fixed).trans h.key
  · exact (organizationId_of_fixed hk.fixed).trans h.organizationId
  · rcases h.context with hcontext | hcontext
    · exact .inl (hk.context.trans hcontext)
    · exact .inr hcontext
  · obtain ⟨hrow, hcontext⟩ := h.funding session f hb (hfunding session' f hs hf)
    exact ⟨hrow, hk.context.trans hcontext⟩
  · have hgrants := hg session f hb (hfunding session' f hs hf)
    have husing : st.info.usingGroup = rq.info.usingGroup :=
      usingGroup_of_fixed hk.fixed
    refine ⟨hgrants.row, ?_⟩
    have hallows := hgrants.allows
    rwa [← husing] at hallows

theorem preConsumeBilling (hb : rq.billing = none) (quota : ℤ) :
    Bound rq0 (preConsumeBilling rq quota).2 ∧ Granted rq0 (preConsumeBilling rq quota).2 ∧
      (preConsumeBilling rq quota).2.info.usingGroup = rq.info.usingGroup := by
  unfold Billing.preConsumeBilling
  split
  · refine ⟨h, fun session f hs => ?_, rfl⟩
    rw [hb] at hs
    cases hs
  · rw [hb]
    have ho := newBillingSession_opens quota hb
    obtain ⟨hbound, hgranted⟩ := h.opens hb ho
    exact ⟨hbound, hgranted, usingGroup_of_fixed ho.fixed⟩

theorem reserveOrOpen (hg : Granted rq0 rq) (quota : ℤ) :
    Bound rq0 (reserveOrOpen rq quota).2 ∧ Granted rq0 (reserveOrOpen rq quota).2 ∧
      (reserveOrOpen rq quota).2.info.usingGroup = rq.info.usingGroup := by
  unfold Billing.reserveOrOpen
  cases hb : rq.billing with
  | none => exact h.preConsumeBilling hb quota
  | some session =>
    have hk := (rq.state session).reserve_keeps quota false
    dsimp only
    generalize (rq.state session).reserve quota false = res at hk ⊢
    obtain ⟨e, st⟩ := res
    obtain ⟨hbound, hgranted⟩ := h.keeps hb hk
    have husing : st.info.usingGroup = rq.info.usingGroup :=
      usingGroup_of_fixed hk.fixed
    cases e with
    | some e => exact ⟨hbound, hgranted hg, husing⟩
    | none =>
      exact ⟨{ hbound with admitted := nofun }, hgranted hg, husing⟩

theorem prepareTiered (hg : Granted rq0 rq) {groupRatio : ℚ} {snap snap' : Option BillingSnapshot}
    {rq' : Request}
    (hres : prepareTieredBillingForSelectedGroup snap groupRatio rq = (none, snap', rq')) :
    Bound rq0 rq' ∧ Granted rq0 rq' ∧ rq'.info.usingGroup = rq.info.usingGroup ∧
      ∀ s, snap' = some s → s.groupRatio = groupRatio := by
  revert hres
  fun_cases prepareTieredBillingForSelectedGroup snap groupRatio rq <;> rintro ⟨⟩
  case case1 => exact ⟨h, hg, rfl, by simp⟩
  case case3 new href _ =>
    refine ⟨h, hg, rfl, ?_⟩
    rintro s ⟨⟩
    exact (refreshTieredBillingGroup_ok href).1
  case case4 new href _ hreserve =>
    obtain ⟨hbound, hgranted, husing⟩ := h.reserveOrOpen hg new.estimatedQuotaAfterGroup
    rw [hreserve] at hbound hgranted husing
    refine ⟨hbound, hgranted, husing, ?_⟩
    rintro s ⟨⟩
    exact (refreshTieredBillingGroup_ok href).1

/-- A group that passes `SubscriptionGroupAllowedForContext` is one that the subscription
allows. -/
theorem granted (hallowed : subscriptionGroupAllowed rq.info = true) :
    Granted rq0 rq := by
  intro session f hs hf
  obtain ⟨hrow, hcontext⟩ := h.funding session f hs hf
  refine ⟨hrow, ?_⟩
  unfold subscriptionGroupAllowed at hallowed
  unfold allowsGroup
  rw [hcontext] at hallowed
  rcases Bool.or_eq_true_iff.1 hallowed with hempty | hmem
  · exact Bool.or_eq_true_iff.2 (.inl hempty)
  obtain ⟨groups, -, hlist⟩ := hrow
  have htrim : trimSpace rq.info.usingGroup = rq.info.usingGroup := by
    rw [contains_iff_mem, hlist] at hmem
    exact (of_mem_normalizeGroupsAux hmem).1
  rw [htrim]
  exact Bool.or_eq_true_iff.2 (.inr hmem)

end

/-- **Before a handler.** The subscription that pays allows the group of the attempt, and the
snapshot has its price. -/
theorem beforeHandler {α σ : Type} {st st' : LoopState σ} {attempt : Attempt α}
    {choice : Option GroupChoice} (h : Bound rq0 st.request) (hselect : attempt.select = .ok choice)
    (hres : beforeHandler attempt st = (none, st')) :
    Bound rq0 st'.request ∧ Granted rq0 st'.request ∧
      st'.request.info.usingGroup = (st.choose choice).request.info.usingGroup ∧
      st'.groupRatio = (st.choose choice).groupRatio ∧
      ∀ s, st'.snap = some s → s.groupRatio = st'.groupRatio := by
  have hc : Bound rq0 (st.choose choice).request := by
    cases choice with
    | none => exact h
    | some choice => exact h.setUsingGroup choice.group
  revert hres
  fun_cases Relay.beforeHandler attempt st <;> intro hres
  case case1 | case2 | case3 => cases hres
  case case4 hok _ hallowed _ _ hprep =>
    obtain rfl := Except.ok.inj (hselect.symm.trans hok)
    obtain ⟨-, rfl⟩ := Prod.mk.inj hres
    have hg := hc.granted (Bool.eq_true_of_not_eq_false hallowed)
    obtain ⟨hbound, hgranted, husing, hsnap⟩ := hc.prepareTiered hg hprep
    exact ⟨hbound, hgranted, husing, rfl, hsnap⟩

end Bound

/-! ## The group of an attempt -/

/-- The channel of an attempt is selected from a group: by the distributor for the first attempt,
by the attempt's own draws for a retry. The group has the channel. -/
def Selected (run : AutoRun) (rq0 : Request) (first : Bool) (attempt : AutoAttempt)
    (group : String) (channel : ℕ) : Prop :=
  if first then
    (∃ select, distribute run.policy.retryTimes run.setting run.token rq0.info.allowedGroups
      run.affinity run.pick = some (channel, group, select)) ∧
    ((∃ retry, run.pick group retry = some channel) ∨
      ∃ preferred, run.affinity = some preferred ∧ preferred.channel = channel ∧
        preferred.enabledFor group = true)
  else
    (∃ allowed s select, cacheGetRandomSatisfiedChannel run.policy.retryTimes run.setting run.token
      allowed attempt.pick s = (some (channel, group), select)) ∧
    ∃ retry, attempt.pick group retry = some channel

/-- The request uses the group in the context and its price. -/
structure Chosen (run : AutoRun) (rq0 : Request) (group : String) (st : AutoState) : Prop where
  autoGroup : st.select.autoGroup = some group
  usingGroup : st.loop.request.info.usingGroup = group
  groupRatio : st.loop.groupRatio = run.groupRatio rq0.info group
  listed : group ∈ getRequestAutoGroups run.setting run.token rq0.info.allowedGroups

section Attempts

variable {run : AutoRun} {price : PriceData} {rq0 : Request} {attempt : AutoAttempt}
  {group : String} {st st' : AutoState}

/-- The list that a retry searches is part of the list of the request. -/
theorem Bound.listed {rq : Request} (h : Bound rq0 rq)
    (hmem : group ∈ getRequestAutoGroups run.setting run.token rq.info.allowedGroups) :
    group ∈ getRequestAutoGroups run.setting run.token rq0.info.allowedGroups := by
  rcases h.context with hcontext | hcontext
  · rwa [hcontext] at hmem
  · rw [hcontext]
    exact getRequestAutoGroups_unrestricted hmem

/-- The selection of an attempt. -/
theorem getChannel_chosen {first : Bool} {choice : Option GroupChoice} {select : SelectState}
    {channel : ℕ} (hbound : Bound rq0 st.loop.request) (hchosen : Chosen run rq0 group st)
    (hfirst : first = true → Selected run rq0 true attempt group st.channel)
    (h : getChannel run first attempt st = (.ok choice, select, channel)) :
    ∃ group, Chosen run rq0 group ⟨st.loop.choose choice, select, channel⟩ ∧
      Selected run rq0 first attempt group channel := by
  revert h
  fun_cases getChannel run first attempt st <;> intro h
  case case1 hone =>
    cases h
    exact ⟨group, hchosen, hone ▸ hfirst hone⟩
  case case2 | case3 => cases h
  case case4 hretry channel1 group1 select1 hres _ chosen =>
    obtain ⟨hmem, hauto, hpick⟩ := cacheGetRandomSatisfiedChannel_found hres
    simp only [chosen, hauto, Prod.mk.injEq, Except.ok.injEq, getD_some] at h
    obtain ⟨rfl, rfl, rfl⟩ := h
    refine ⟨group1, ⟨hauto, rfl, ?_, hbound.listed hmem⟩, ?_⟩
    · show run.groupRatio st.loop.request.info group1 = _
      unfold AutoRun.groupRatio
      rw [hbound.organizationId]
    · unfold Selected
      rw [if_neg hretry]
      exact ⟨⟨_, _, _, hres⟩, hpick⟩

/-- A settlement keeps the funding of a session. -/
theorem settleText_funding {rq : Request} {session : BillingSession} (quota tools : ℤ)
    (h : (settleText rq quota tools).2.billing = some session) :
    ∃ session0, rq.billing = some session0 ∧ session.funding = session0.funding := by
  unfold settleText settleBilling at h
  cases hb : rq.billing with
  | none =>
    rw [hb] at h
    dsimp only at h
    split_ifs at h
    · exact absurd (hb.symm.trans h) nofun
    · exact absurd (hb.symm.trans h) nofun
    · rw [postConsumeQuota_billing, hb] at h
      cases h
  | some session0 =>
    rw [hb] at h
    split_ifs at h
    · cases h
      exact ⟨session0, rfl, (rq.state session0).settleTokenBilling_funding quota tools⟩
    · cases h
      exact ⟨session0, rfl, (rq.state session0).settle_funding quota⟩

/-- What holds of a request that `attempt` has served: its channel was selected from a group that
the user may use, that is in the request's list and that the subscription of the session allows.
The handler of the attempt found a request of that group, and settled the quota of what the
attempt reports with the price of the group. -/
structure AutoServed (run : AutoRun) (price : PriceData) (rq0 : Request) (first : Bool)
    (attempt : AutoAttempt) (group : String) (st : AutoState) : Prop where
  selected : Selected run rq0 first attempt group st.channel
  usable : group ∈ getUserUsableGroups run.setting run.token
  listed : group ∈ getRequestAutoGroups run.setting run.token rq0.info.allowedGroups
  allowed : ∀ session f, st.loop.request.billing = some session →
    session.funding = .subscription f →
    ∃ groups, rq0.store.rows.allowedGroups f.subscriptionId = some groups ∧
      allowsGroup (normalizeSubscriptionGroups groups) group = true
  groupRatio : st.loop.groupRatio = run.groupRatio rq0.info group
  snapshot : ∀ s, st.loop.snap = some s → s.groupRatio = run.groupRatio rq0.info group
  charged : ∃ loop report, attempt.work = .answered report ∧
    textHandler run.quota.quotaPerUnit price attempt.work loop = (none, st.loop) ∧
    loop.request.info.usingGroup = group ∧
    st.loop.kept = some (if loop.request.info.isTokenSubscriptionRequest then
      report.usage.promptTokens + report.usage.completionTokens
    else postTextQuota run.quota.quotaPerUnit price (run.groupRatio rq0.info group) st.loop.snap
      loop.request.info.finalPreConsumedQuota report)

theorem textHandler_served {quotaPerUnit : ℚ} {work : TextWork} {loop loop' : LoopState (Option ℤ)}
    (h : textHandler quotaPerUnit price work loop = (none, loop')) :
    loop'.groupRatio = loop.groupRatio ∧ loop'.snap = loop.snap ∧
      (∀ session, loop'.request.billing = some session →
        ∃ session0, loop.request.billing = some session0 ∧ session.funding = session0.funding) ∧
      ∃ report, work = .answered report ∧
        loop'.kept = some (textQuota quotaPerUnit price loop report) := by
  cases work with
  | failed e => cases h
  | answered report =>
    simp only [textHandler] at h
    generalize quotaFromDecimal
      (calculateTextToolCallSurcharge quotaPerUnit loop.groupRatio report.usage.tools) = tools at h
    have hfunding := fun session =>
      @settleText_funding loop.request session (textQuota quotaPerUnit price loop report) tools
    generalize settleText loop.request (textQuota quotaPerUnit price loop report) tools = res
      at h hfunding
    obtain ⟨ok, rq⟩ := res
    cases ok with
    | true | false =>
      obtain ⟨-, rfl⟩ := Prod.mk.inj h
      exact ⟨rfl, rfl, hfunding, report, rfl, rfl⟩

section

variable {first : Bool} (hbound : Bound rq0 st.loop.request) (hchosen : Chosen run rq0 group st)
  (hfirst : first = true → Selected run rq0 true attempt group st.channel)

include hbound hchosen hfirst

/-- What the handler of an attempt finds. -/
theorem beforeHandler_chosen {choice : Except RelayError (Option GroupChoice)}
    {select : SelectState} {channel : ℕ} {loop : LoopState (Option ℤ)}
    (hget : getChannel run first attempt st = (choice, select, channel))
    (hbefore : beforeHandler ⟨choice, none, false, attempt.bodyTooLarge,
      attempt.skipAfterAffinityFailure, attempt.work⟩ st.loop = (none, loop)) :
    Bound rq0 loop.request ∧ Granted rq0 loop.request ∧
      (∃ group, Chosen run rq0 group ⟨loop, select, channel⟩ ∧
        Selected run rq0 first attempt group channel) ∧
      ∀ s, loop.snap = some s → s.groupRatio = loop.groupRatio := by
  cases choice with
  | error e => cases hbefore
  | ok choice =>
    obtain ⟨group1, hchosen1, hselected⟩ := getChannel_chosen hbound hchosen hfirst hget
    obtain ⟨hbound2, hgranted, husing, hratio, hsnap⟩ := hbound.beforeHandler rfl hbefore
    exact ⟨hbound2, hgranted, ⟨group1, ⟨hchosen1.autoGroup, husing.trans hchosen1.usingGroup,
      hratio.trans hchosen1.groupRatio, hchosen1.listed⟩, hselected⟩, hsnap⟩

/-- **An attempt** uses the group that its channel is selected from: it serves the request with
the price of that group, or leaves it for the next attempt. -/
theorem autoAttempt_chosen {res : AttemptEnd}
    (h : autoAttempt run price first attempt st = (res, st')) :
    (∀ e, res = .failed e → Bound rq0 st'.loop.request ∧ ∃ group, Chosen run rq0 group st') ∧
      (res = .served → ∃ group, AutoServed run price rq0 first attempt group st') := by
  revert h
  fun_cases autoAttempt run price first attempt st <;> rintro ⟨⟩
  case case1 => exact ⟨nofun, nofun⟩
  case case2 select channel hget loop hbefore e loop' hwork =>
    obtain ⟨hbound2, -, ⟨group2, hchosen2, -⟩, -⟩ :=
      beforeHandler_chosen hbound hchosen hfirst hget hbefore
    -- a failed attempt leaves the request as the handler found it
    have hsame : loop' = loop := by
      revert hwork
      fun_cases textHandler run.quota.quotaPerUnit price attempt.work loop
      case case1 => exact fun hwork => (Prod.mk.inj hwork).2.symm
      case case2 | case3 => rintro ⟨⟩
    subst hsame
    exact ⟨fun _ _ => ⟨hbound2, group2, hchosen2⟩, nofun⟩
  case case3 select channel hget loop hbefore loop' hwork =>
    obtain ⟨-, hgranted, ⟨group1, hchosen1, hselected⟩, hsnap⟩ :=
      beforeHandler_chosen hbound hchosen hfirst hget hbefore
    obtain ⟨hratio', hsnap', hfunding, report, hreport, hkept⟩ := textHandler_served hwork
    refine ⟨nofun, fun _ => ⟨group1, hselected,
      getRequestAutoGroups_usable hchosen1.listed, hchosen1.listed, ?_,
      hratio'.trans hchosen1.groupRatio, ?_, loop, report, hreport, hwork,
      hchosen1.usingGroup, ?_⟩⟩
    · intro session f hs hf
      obtain ⟨session0, hs0, hf0⟩ := hfunding session hs
      have hgrants := hgranted session0 f hs0 (hf0.symm.trans hf)
      obtain ⟨groups, hrow, hlist⟩ := hgrants.row
      refine ⟨groups, hrow, ?_⟩
      have hallows := hgrants.allows
      rwa [hlist, hchosen1.usingGroup] at hallows
    · intro s hs
      rw [hsnap'] at hs
      exact (hsnap s hs).trans hchosen1.groupRatio
    · have hratio : loop.groupRatio = run.groupRatio rq0.info group1 := hchosen1.groupRatio
      rw [hkept, textQuota, hratio, hsnap']

end

/-- **The loop.** Whatever attempt serves the request, it does so with the price of the group
that its own channel is selected from. -/
theorem autoLoop_served {attempts : List AutoAttempt} {first : Bool} {last : LoopEnd}
    (hlast : last ≠ .served) (hbound : Bound rq0 st.loop.request)
    (hchosen : Chosen run rq0 group st)
    (hfirst : ∀ attempt, first = true → Selected run rq0 true attempt group st.channel)
    (h : autoLoop run price attempts first last st = some (.served, st')) :
    ∃ i attempt group, attempts[i]? = some attempt ∧
      AutoServed run price rq0 (first && i == 0) attempt group st' := by
  fun_induction autoLoop run price attempts first last st generalizing group
  case case1 | case4 | case7 => cases h
  case case2 | case3 => exact absurd (Prod.mk.inj (some.inj h)).1 hlast
  case case5 attempt _ first _ _ _ _ hres =>
    obtain ⟨-, rfl⟩ := Prod.mk.inj (some.inj h)
    obtain ⟨group1, hserved⟩ :=
      (autoAttempt_chosen hbound hchosen (hfirst attempt) hres).2 rfl
    refine ⟨0, attempt, group1, rfl, ?_⟩
    rwa [beq_self_eq_true, Bool.and_true]
  case case6 attempt rest first _ _ _ e st1 hres _ ih =>
    obtain ⟨hbound1, group1, hchosen1⟩ :=
      (autoAttempt_chosen hbound hchosen (hfirst attempt) hres).1 e rfl
    have hfail : LoopEnd.failed e ≠ .served := nofun
    have hauto : st1.select.increaseRetry.autoGroup = some group1 := by
      unfold SelectState.increaseRetry
      split <;> exact hchosen1.autoGroup
    have hchosen2 : Chosen run rq0 group1 { st1 with select := st1.select.increaseRetry } :=
      { hchosen1 with autoGroup := hauto }
    obtain ⟨i, served, group2, hserved, hfacts⟩ :=
      ih hfail hbound1 hchosen2 (fun _ hfalse => absurd hfalse Bool.false_ne_true) h
    refine ⟨i + 1, served, group2, hserved, ?_⟩
    -- an attempt after this one is a retry
    rwa [Bool.false_and, ← Bool.and_false first] at hfacts

end Attempts

/-! ## A request that is served -/

/-- A user of the group `default` with two auto groups of the ratios 2 and 1, sorted by price.
The preferred channel 7 of the group `pro` fails, and the retry draws the channel 3 of the
group `basic`. A subscription for both groups pays. -/
def preferredThenDrawn : AutoRun where
  policy := ⟨1, false, fun _ => false, fun _ => true⟩
  quota := ⟨0, 500000, false⟩
  model := ⟨none, false, 0, true, 1, 1, 1, 1, 1⟩
  tokens := ⟨10, 0, 0, []⟩
  setting :=
    { userUsableGroups := ["basic", "pro"]
      specialUsableGroups := fun _ => []
      autoGroups := ["pro", "basic"]
      maxTokenAutoGroups := 5
      groupRatio := fun group => if group = "pro" then some 2 else some 1
      groupGroupRatio := fun _ _ => none
      groupModelRatio := fun _ _ _ => none }
  token :=
    { userId := 1
      userGroup := "default"
      userExtraGroups := []
      tokenAutoGroups := none
      subscriptionKey := false
      autoRouteByPrice := true
      crossGroupRetry := true
      modelName := "model"
      billingModelName := "model" }
  affinity := some ⟨7, (· = "pro")⟩
  pick := fun _ _ => none
  attempts :=
    [⟨fun _ _ => none, none, none, false, .failed ⟨.handler, 500, false, false⟩⟩,
      ⟨fun group _ => if group = "basic" then some 3 else none, none, none, false,
        .answered { usage := { promptTokens := 10, completionTokens := 0 } }⟩]

/-- The groups that the selector finds for a request, call by call, until one finds no channel.
Each call meets its own channels and any retry counter. The groups that a subscription allows stay
the same. -/
def selectedGroups (run : AutoRun) (info : RelayInfo) :
    List (Pick × ℤ) → SelectState → List String
  | [], _ => []
  | (pick, retry) :: calls, s =>
    match cacheGetRandomSatisfiedChannel run.policy.retryTimes run.setting run.token
        info.allowedGroups pick { s with retry := retry } with
    | (none, _) => []
    | (some (_, group), s) => group :: selectedGroups run info calls s

section PriceRouting

variable {run : AutoRun} {info : RelayInfo} {retryTimes retry : ℤ} {pick : Pick}
  {groups later : List String} {channel start i : ℕ} {group : String} {s s' : SelectState}
  {calls : List (Pick × ℤ)}

/-- The groups before the selected one lack a channel, and the next call starts behind them. -/
theorem searchGroups_split {cross : Bool}
    (h : searchGroups retryTimes cross pick start groups i s = (some (channel, group), s')) :
    ∃ before after, groups = before ++ group :: after ∧
      (∀ g ∈ before, ∃ retry, pick g retry = none) ∧
      i + before.length ≤ s'.autoGroupIndex.getD 0 := by
  induction groups generalizing i s with
  | nil => cases h
  | cons g rest ih =>
    simp only [searchGroups] at h
    generalize (if start < i then 0 else s.retry) = priorityRetry at h
    cases hpick : pick g priorityRetry with
    | none =>
      rw [hpick] at h
      obtain ⟨before, after, rfl, hnone, hindex⟩ := ih h
      refine ⟨g :: before, after, rfl, forall_mem_cons.2 ⟨⟨_, hpick⟩, hnone⟩, ?_⟩
      rwa [length_cons, Nat.add_comm before.length, ← Nat.add_assoc]
    | some c =>
      rw [hpick] at h
      dsimp only at h
      split at h
      all_goals
        cases h
        exact ⟨[], rest, rfl, forall_mem_nil _, by simp⟩

variable {R : String → String → Prop} [Std.Refl R]

theorem rel_of_split {before after : List String} {other : String}
    (hsorted : (before ++ group :: after).Pairwise R) (h : other ∈ group :: after) :
    R group other := by
  rcases mem_cons.1 h with rfl | hafter
  · exact refl _
  · exact rel_of_pairwise_cons (pairwise_append.1 hsorted).2.1 hafter

/-- Where the searched groups are sorted, so are the selected ones. -/
theorem selectedGroups_sorted
    (hsorted : (searchedGroups run.setting run.token info.allowedGroups).Pairwise R) :
    selectedGroups run info calls s ⊆
        (searchedGroups run.setting run.token info.allowedGroups).drop (s.autoGroupIndex.getD 0) ∧
      (selectedGroups run info calls s).Pairwise R := by
  induction calls generalizing s with
  | nil => exact ⟨nil_subset _, .nil⟩
  | cons call calls ih =>
    rw [selectedGroups]
    split
    · exact ⟨nil_subset _, .nil⟩
    next hsearch =>
      obtain ⟨before, after, hsplit, -, hindex⟩ := searchGroups_split hsearch
      obtain ⟨hsub, hlater⟩ := ih
      -- the index only grows, so that the later groups lie behind `before`
      have hrest := Subset.trans hsub (drop_subset_drop_left _ hindex)
      rw [← drop_drop, hsplit, drop_left] at hrest
      have hall := cons_subset.2 ⟨mem_cons_self, hrest⟩
      refine ⟨hsplit ▸ Subset.trans hall (subset_append_right ..), .cons ?_ hlater⟩
      exact fun other hother => rel_of_split (hsplit ▸ hsorted.drop) (hrest hother)

/-- **Price routing.** A request of a user's own that routes by price starts with a group that is
charged no more than any group of its list that has channels, and never goes on to a group that is
charged less. -/
theorem price_routed (hmodel : run.token.modelName ≠ "") (hprice : run.token.autoRouteByPrice)
    (hbilling : run.token.billingModelName = run.token.modelName) (hown : info.organizationId = 0)
    (h : selectedGroups run info ((pick, retry) :: calls) {} = group :: later) :
    (∀ other ∈ getRequestAutoGroups run.setting run.token info.allowedGroups,
      (∀ retry, pick other retry ≠ none) →
        run.groupRatio info group ≤ run.groupRatio info other) ∧
    (group :: later).Pairwise (run.groupRatio info · ≤ run.groupRatio info ·) := by
  -- the sort and the charge multiply the same ratios
  have hsame : autoGroupPrice run.setting run.token = run.groupRatio info := by
    funext group
    simp [autoGroupPrice, AutoRun.groupRatio, handleGroupRatio, hbilling, hown]
  have hsorted : (searchedGroups run.setting run.token info.allowedGroups).Pairwise
      (run.groupRatio info · ≤ run.groupRatio info ·) := by
    unfold searchedGroups sortAutoGroupsByPrice
    rw [hsame]
    split
    next hkept =>
      rcases hkept with hshort | hempty | hroute
      · exact pairwise_iff_getElem.2 fun _ _ _ _ _ => by omega
      · exact absurd hempty hmodel
      · exact absurd hprice hroute
    · exact pairwise_insertionSort _ _
  refine ⟨fun other hother hoffers => ?_, h ▸ (selectedGroups_sorted hsorted).2⟩
  have hmem : other ∈ searchedGroups run.setting run.token info.allowedGroups :=
    mem_sortAutoGroupsByPrice.2 hother
  rw [selectedGroups] at h
  split at h
  · cases h
  next hsearch =>
    cases h
    obtain ⟨before, after, hsplit, hnone, -⟩ := searchGroups_split hsearch
    change searchedGroups _ _ _ = _ at hsplit
    rw [hsplit] at hmem hsorted
    rcases mem_append.1 hmem with hbefore | hrest
    · obtain ⟨retry, hempty⟩ := hnone other hbefore
      exact absurd hempty (hoffers retry)
    · exact rel_of_split hsorted hrest

/-- The dearer group follows when the cheaper one has no channel left. -/
theorem price_routed_dearer : ["basic", "pro"].Pairwise
    (preferredThenDrawn.groupRatio walletRequest.info · ≤
      preferredThenDrawn.groupRatio walletRequest.info ·) :=
  have h : selectedGroups preferredThenDrawn walletRequest.info
    [(fun _ _ => some 3, 0), (fun group _ => if group = "pro" then some 7 else none, 1)] {} =
      ["basic", "pro"] := by decide +kernel
  (price_routed (by decide) rfl rfl rfl h).2

end PriceRouting

end OmniRouters.Relay
