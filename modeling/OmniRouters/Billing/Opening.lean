import Mathlib.Data.List.DropRight
import OmniRouters.Billing.Answers

/-!
# The session that a request is given

What `NewBillingSession` leaves, for every kind of key. A subscription that pays is a row of
the table that allows the request's group, and the context keeps its groups for the groups
that are tried later.

* `trimSpace_idem`, `normalizeSubscriptionGroups_idem`: group names are normalized once.
* `newBillingSession_opens`: the opening of a session.
-/

namespace OmniRouters.Billing

open List

/-! ## Group names -/

theorem dropWhile_rdropWhile_dropWhile {α : Type} (p : α → Bool) (l : List α) :
    ((l.dropWhile p).rdropWhile p).dropWhile p = (l.dropWhile p).rdropWhile p := by
  rw [dropWhile_eq_self_iff]
  intro hlen hp
  have hpre : (l.dropWhile p).rdropWhile p <+: l.dropWhile p := rdropWhile_prefix p _
  have hlen' : 0 < (l.dropWhile p).length := lt_of_lt_of_le hlen hpre.length_le
  have hhead := dropWhile_get_zero_not p l hlen'
  apply hhead
  rwa [get_eq_getElem, ← hpre.getElem hlen]

/-- Trimming twice is trimming once. -/
theorem trimSpace_idem (s : String) : trimSpace (trimSpace s) = trimSpace s := by
  have htrim : ∀ l : List Char, (l.reverse.dropWhile isSpace).reverse = l.rdropWhile isSpace :=
    fun _ => rfl
  unfold trimSpace
  simp only [htrim, String.toList_ofList, dropWhile_rdropWhile_dropWhile, rdropWhile_idempotent]

variable {g : String} {groups : List String} {rq : Request}

theorem of_mem_normalizeGroupsAux {seen : List String} (h : g ∈ normalizeGroupsAux seen groups) :
    trimSpace g = g ∧ g ≠ "" ∧ g ≠ "auto" ∧ g ∉ seen := by
  induction groups generalizing seen with
  | nil => cases h
  | cons group rest ih =>
    simp only [normalizeGroupsAux] at h
    split_ifs at h with hskip
    · exact ih h
    rcases mem_cons.1 h with rfl | hrest
    · simp only [not_or] at hskip
      exact ⟨trimSpace_idem group, hskip⟩
    · obtain ⟨htrim, hne, hauto, hseen⟩ := ih hrest
      exact ⟨htrim, hne, hauto, fun hmem => hseen (mem_cons_of_mem _ hmem)⟩

theorem mem_normalizeGroupsAux {seen : List String} (hmem : g ∈ groups) (htrim : trimSpace g = g)
    (hne : g ≠ "") (hauto : g ≠ "auto") (hseen : g ∉ seen) :
    g ∈ normalizeGroupsAux seen groups := by
  induction groups generalizing seen with
  | nil => cases hmem
  | cons group rest ih =>
    simp only [normalizeGroupsAux]
    rcases mem_cons.1 hmem with rfl | hrest
    · rw [htrim, if_neg (by simp [hne, hauto, hseen])]
      exact mem_cons_self
    split_ifs
    · exact ih hrest hseen
    by_cases hg : g = trimSpace group
    · rw [hg]
      exact mem_cons_self
    · refine mem_cons_of_mem _ (ih hrest ?_)
      simp [hg, hseen]

/-- Normalizing twice is normalizing once. -/
theorem normalizeSubscriptionGroups_idem (groups : List String) :
    normalizeSubscriptionGroups (normalizeSubscriptionGroups groups) =
      normalizeSubscriptionGroups groups := by
  have haux : ∀ seen, normalizeGroupsAux seen (normalizeGroupsAux seen groups) =
      normalizeGroupsAux seen groups := by
    induction groups with
    | nil => exact fun _ => rfl
    | cons group rest ih =>
      intro seen
      simp only [normalizeGroupsAux]
      split_ifs with hskip
      · exact ih seen
      · simp only [normalizeGroupsAux, trimSpace_idem, if_neg hskip]
        rw [ih]
  exact haux []

/-- The normalized list allows what the list itself allows. -/
theorem allowsGroup_normalize {group : String} (h : allowsGroup groups group = true)
    (hne : trimSpace group ≠ "") (hauto : trimSpace group ≠ "auto") :
    allowsGroup (normalizeSubscriptionGroups groups) group = true := by
  rcases Bool.or_eq_true_iff.1 h with hempty | hmem
  · obtain rfl := List.isEmpty_iff.1 hempty
    rfl
  · refine Bool.or_eq_true_iff.2 (Or.inr ?_)
    rw [contains_iff_mem] at hmem ⊢
    exact mem_normalizeGroupsAux hmem (trimSpace_idem group) hne hauto (by simp)

/-! ## A subscription that pays -/

/-- The subscription `f` of a session is a row of the table, restricted to the groups that
the session keeps, and `group` is one of them. -/
structure SubscriptionFunding.Grants (f : SubscriptionFunding) (r : Rows) (group : String) :
    Prop where
  row : ∃ groups, r.allowedGroups f.subscriptionId = some groups ∧
    f.allowedGroups = normalizeSubscriptionGroups groups
  allows : allowsGroup f.allowedGroups group = true

theorem preConsumeTx_grants {r r' : Rows} {group : String} {amount : ℤ} {mode : BillingMode}
    {hint : ℕ} {res : PreConsumeResult}
    (h : preConsumeTx r group amount mode hint = .ok (res, r')) :
    (∃ groups, r.allowedGroups res.userSubscriptionId = some groups ∧
        res.allowedGroups = normalizeSubscriptionGroups groups ∧
        allowsGroup groups group = true) ∧
      (0 < hint → res.userSubscriptionId = hint) := by
  revert h
  fun_cases preConsumeTx r group amount mode hint <;> rintro ⟨⟩
  case case6 hhint sub hsub _ hallow =>
    have hid := SubscriptionTable.get?_id hsub
    refine ⟨⟨sub.allowedGroups, ?_, rfl, by simpa using hallow⟩, fun hpos => ?_⟩
    · simp [Rows.allowedGroups, hid, hsub]
    · rw [hid]
      by_contra hne
      exact hhint ⟨hpos, hne⟩
  case case9 sub _ hpick =>
    obtain ⟨hmem, -, hallow⟩ := pickSubscription_ok hpick
    obtain ⟨hlist, hid⟩ := mem_filter.1 hmem
    refine ⟨⟨sub.allowedGroups, ?_, rfl, hallow⟩, fun hpos => ?_⟩
    · simp [Rows.allowedGroups, SubscriptionTable.get?_of_mem hlist]
    · show sub.id = hint
      simp only [decide_eq_true_eq] at hid
      omega

/-- A subscription that has been pre-consumed grants the group it was asked for. -/
theorem FundingSource.preConsume_grants {f f' : SubscriptionFunding} {amount : ℤ} {s s' : Store}
    (h : (FundingSource.subscription f).preConsume amount s = (none, .subscription f', s')) :
    f'.Grants s.rows f.usingGroup ∧
      (0 < f.subscriptionId → f'.subscriptionId = f.subscriptionId) := by
  simp only [FundingSource.preConsume, preConsumeUserSubscription] at h
  split_ifs at h with hamount hgroup hdown
  · simp at h
  · simp at h
  · simp at h
  simp only [not_or] at hgroup
  cases htx : preConsumeTx s.rows (trimSpace f.usingGroup) f.amount f.billingMode
      f.subscriptionId with
  | error e => simp [htx] at h
  | ok out =>
    obtain ⟨res, rows⟩ := out
    simp only [htx, Prod.mk.injEq, true_and, FundingSource.subscription.injEq] at h
    obtain ⟨rfl, -⟩ := h
    obtain ⟨⟨groups, hrow, hres, hallow⟩, hhint⟩ := preConsumeTx_grants htx
    have hallow' : allowsGroup groups f.usingGroup = true := by
      unfold allowsGroup at hallow ⊢
      rwa [trimSpace_idem] at hallow
    refine ⟨⟨⟨groups, hrow, ?_⟩, ?_⟩, hhint⟩
    · simp only [hres, normalizeSubscriptionGroups_idem]
    · simp only [hres, normalizeSubscriptionGroups_idem]
      exact allowsGroup_normalize hallow' hgroup.1 hgroup.2

/-! ## Pre-consuming -/

/-- What `preConsume` leaves: a refused request keeps its `RelayInfo`, a session has reserved
`quota`, and its subscription grants the group. -/
structure PreConsumed (st : State) (quota : ℤ) (res : Option ErrorCode × State) : Prop where
  later : st.store.Later res.2.store
  fixed : res.2.info.fixed = st.info.fixed
  context : res.2.info.allowedGroups = st.info.allowedGroups
  refused : res.1 ≠ none → res.2.info = st.info
  source : res.2.session.funding.source = st.session.funding.source
  reserved : res.1 = none → st.session.funding.source = .subscription →
    res.2.session.preConsumedQuota = quota
  grants : res.1 = none → ∀ f', res.2.session.funding = .subscription f' →
    res.2.info.subscriptionAllowedGroups = f'.allowedGroups ∧
      ∃ f, st.session.funding = .subscription f ∧ f'.Grants st.store.rows f.usingGroup ∧
        (0 < f.subscriptionId → f'.subscriptionId = f.subscriptionId)

namespace State

theorem syncRelayInfo_subscriptionAllowedGroups {st : State} {f : SubscriptionFunding}
    (hf : st.session.funding = .subscription f) :
    st.syncRelayInfo.info.subscriptionAllowedGroups = f.allowedGroups := by
  unfold syncRelayInfo
  simp only [hf]

theorem preConsume_preConsumed {st : State} (htok : st.session.tokenConsumed = 0) (quota : ℤ) :
    PreConsumed st quota (st.preConsume quota) := by
  generalize hres : st.preConsume quota = res
  have hcases := hres ▸ preConsume_preConsumes htok quota
  cases hcases with
  | token trusted ht => exact ⟨ht.leaves.toLater, rfl, rfl, fun _ => rfl, rfl, nofun, nofun⟩
  | funding n trusted hp hpre =>
    obtain ⟨hsource, hleaves⟩ := FundingSource.preConsume_frame hpre
    obtain ⟨ok, s, n', heq, hr⟩ := rollbackToken_takes _
    rw [heq]
    have hlater := ((hp.takes.leaves.trans hleaves).trans hr.leaves).toLater
    exact ⟨hlater.logFailure _ ok, rfl, rfl, fun _ => rfl, hsource, nofun, nofun⟩
  | charged n trusted hp hpre =>
    obtain ⟨hsource, hleaves⟩ := FundingSource.preConsume_frame hpre
    have hlater := (hp.takes.leaves.trans hleaves).toLater
    refine ⟨?_, ?_, ?_, fun h => absurd rfl h, ?_, fun _ hsub => ?_, fun _ f' hf' => ?_⟩
    · simpa using hlater
    · exact syncRelayInfo_fixed _
    · exact syncRelayInfo_allowedGroups _
    · simpa using hsource
    · rcases hp.effective with rfl | ⟨-, hne⟩
      · simp
      · exact absurd hsub hne
    · simp only [syncRelayInfo_session] at hf'
      refine ⟨syncRelayInfo_subscriptionAllowedGroups hf', ?_⟩
      subst hf'
      cases hfs : st.session.funding with
      | wallet | organization => rw [hfs] at hsource; cases hsource
      | subscription f =>
        rw [hfs] at hpre
        obtain ⟨⟨⟨groups, hrow, hlist⟩, hallows⟩, hid⟩ := FundingSource.preConsume_grants hpre
        -- the token step has not changed the groups
        rw [hp.takes.leaves.groups] at hrow
        exact ⟨f, rfl, ⟨⟨groups, hrow, hlist⟩, hallows⟩, hid⟩

end State

/-! ## `NewBillingSession` -/

/-- The context's groups as the token leaves them (`ValidateUserToken`,
model/token.go:318-336, and `SetupContextForToken`, middleware/auth.go:606-621): those of the
subscription that a key is bound to, none for a general key. -/
def Request.Admitted (rq : Request) : Prop :=
  match rq.info.subscriptionKey with
  | none => rq.info.allowedGroups = []
  | some _ => 0 < rq.info.subscriptionId ∧
    ∃ groups, rq.store.rows.allowedGroups rq.info.subscriptionId = some groups ∧
      rq.info.allowedGroups = normalizeSubscriptionGroups groups

/-- What opening a session leaves. A request that is refused keeps its context; a subscription
that pays grants the request's group, and its groups are the context's. -/
structure Opens (rq rq' : Request) : Prop where
  later : rq.store.Later rq'.store
  fixed : rq'.info.fixed = rq.info.fixed
  context : rq.info.subscriptionKey ≠ none → rq'.info.allowedGroups = rq.info.allowedGroups
  refused : rq'.billing = none → rq'.info.allowedGroups = rq.info.allowedGroups ∧
    rq'.info.subscriptionId = rq.info.subscriptionId
  reserves : ∀ session, rq'.billing = some session → session.Reserves
  grants : ∀ session f, rq'.billing = some session → session.funding = .subscription f →
    f.Grants rq.store.rows rq.info.usingGroup ∧
      (rq.Admitted → rq'.info.allowedGroups = f.allowedGroups)

/-- The result of `openSession`, before the context is set. -/
structure SessionOpened (store : Store) (info : RelayInfo) (funding : FundingSource)
    (res : Option ErrorCode × Request) : Prop where
  later : store.Later res.2.store
  fixed : res.2.info.fixed = info.fixed
  context : res.2.info.allowedGroups = info.allowedGroups
  refused : res.1 ≠ none → res.2.billing = none ∧ res.2.info = info
  opened : res.1 = none → res.2.billing ≠ none
  reserves : ∀ session, res.2.billing = some session → session.Reserves
  grants : ∀ session f', res.2.billing = some session → session.funding = .subscription f' →
    res.2.info.subscriptionAllowedGroups = f'.allowedGroups ∧
      ∃ f, funding = .subscription f ∧ f'.Grants store.rows f.usingGroup ∧
        (0 < f.subscriptionId → f'.subscriptionId = f.subscriptionId)

theorem openSession_opened (store : Store) (info : RelayInfo) (funding : FundingSource)
    (tokenSubscription : Bool) (quota : ℤ)
    (hquota : funding.source = .subscription → 0 < quota) :
    SessionOpened store info funding
      (openSession store info funding tokenSubscription quota) := by
  generalize hst : ({ store := store, info := info, session := .new funding tokenSubscription } :
    State) = st0
  have h := @State.preConsume_preConsumed st0 (by rw [← hst]; rfl) quota
  unfold openSession
  simp only [hst]
  generalize st0.preConsume quota = res at h ⊢
  obtain ⟨e, st⟩ := res
  subst hst
  cases e with
  | some e =>
    refine ⟨h.later, h.fixed, h.context, fun hne => ⟨rfl, h.refused hne⟩, ?_, ?_, ?_⟩
    · intro hok
      cases hok
    · intro session hs
      cases hs
    · intro session f' hs
      cases hs
  | none =>
    refine ⟨h.later, h.fixed, h.context, fun hne => absurd rfl hne, fun _ => Option.some_ne_none _,
      ?_, ?_⟩
    · intro session hs hsub
      cases hs
      have hsub' : funding.source = .subscription := h.source.symm.trans hsub
      have hreserved : st.session.preConsumedQuota = quota := h.reserved rfl hsub'
      rw [hreserved]
      exact hquota hsub'
    · intro session f' hs hf'
      cases hs
      exact h.grants rfl f' hf'

/-- A session that no subscription pays. -/
theorem SessionOpened.opens {funding : FundingSource} {store : Store} {info : RelayInfo}
    {res : Option ErrorCode × Request} (h : SessionOpened store info funding res)
    (hstore : rq.store.Later store) (hinfo : info.fixed = rq.info.fixed)
    (hgroups : info.allowedGroups = rq.info.allowedGroups)
    (hid : info.subscriptionId = rq.info.subscriptionId)
    (hsource : funding.source ≠ .subscription) : Opens rq res.2 where
  later := hstore.trans h.later
  fixed := h.fixed.trans hinfo
  context _ := h.context.trans hgroups
  refused hnone := by
    by_cases hok : res.1 = none
    · exact absurd hnone (h.opened hok)
    · rw [(h.refused hok).2]
      exact ⟨hgroups, hid⟩
  reserves := h.reserves
  grants session f hs hf := by
    obtain ⟨-, f', hfunding, -⟩ := h.grants session f hs hf
    rw [hfunding] at hsource
    exact absurd rfl hsource

variable (quota : ℤ)

theorem atLeastOne_pos : 0 < atLeastOne quota := by
  unfold atLeastOne
  split <;> omega

theorem Opens.read (hb : rq.billing = none) : Opens rq { rq with store := rq.store.next } := by
  refine ⟨rq.store.next_later, rfl, fun _ => rfl, fun _ => ⟨rfl, rfl⟩, ?_, ?_⟩
  · simp [hb]
  · simp [hb]

theorem tryWallet_opens (hb : rq.billing = none) : Opens rq (tryWallet rq quota).2 := by
  have hread := Opens.read hb
  unfold tryWallet
  dsimp only
  split_ifs
  · exact hread
  · exact hread
  · exact hread
  · exact (openSession_opened rq.store.next
      { rq.info with userQuota := rq.store.next.rows.userQuota } (.wallet ⟨0⟩) false quota
      nofun).opens rq.store.next_later rfl rfl rfl nofun

theorem trySubscription_opens {rq : Request} (quota : ℤ)
    (hkey : rq.info.subscriptionKey = none) :
    Opens rq (trySubscription rq quota).2 ∧
      ((trySubscription rq quota).1 ≠ none → (trySubscription rq quota).2.billing = none) := by
  have ho := openSession_opened rq.store rq.info
    (.subscription ⟨rq.info.usingGroup, atLeastOne quota, .quota, 0, 0, []⟩) false
    (atLeastOne quota) fun _ => atLeastOne_pos quota
  unfold trySubscription
  dsimp only
  generalize openSession rq.store rq.info _ false (atLeastOne quota) = res at ho ⊢
  obtain ⟨e, rq'⟩ := res
  cases e with
  | some e =>
    obtain ⟨hb, hinfo⟩ := ho.refused nofun
    refine ⟨⟨ho.later, ho.fixed, fun hne => absurd hkey hne, fun _ => ?_, ho.reserves, ?_⟩,
      fun _ => hb⟩
    · exact ⟨by rw [hinfo], by rw [hinfo]⟩
    · intro session f hs
      exact absurd (hs.symm.trans hb) nofun
  | none =>
    have hsome := ho.opened rfl
    dsimp only at hsome ⊢
    have hgrants : ∀ session f, rq'.billing = some session → session.funding = .subscription f →
        f.Grants rq.store.rows rq.info.usingGroup ∧
          rq'.info.subscriptionAllowedGroups = f.allowedGroups := by
      intro session f hs hf
      obtain ⟨hsync, f', hfunding, hg, -⟩ := ho.grants session f hs hf
      cases hfunding
      exact ⟨hg, hsync⟩
    split
    · refine ⟨⟨ho.later, ho.fixed, fun hne => absurd hkey hne, fun hb => absurd hb hsome,
        ho.reserves, ?_⟩, fun h => absurd rfl h⟩
      intro session f hs hf
      exact ⟨(hgrants session f hs hf).1, fun _ => (hgrants session f hs hf).2⟩
    next hempty =>
      refine ⟨⟨ho.later, ho.fixed, fun hne => absurd hkey hne, fun hb => absurd hb hsome,
        ho.reserves, ?_⟩, fun h => absurd rfl h⟩
      intro session f hs hf
      refine ⟨(hgrants session f hs hf).1, fun hadm => ?_⟩
      unfold Request.Admitted at hadm
      rw [hkey] at hadm
      rw [← (hgrants session f hs hf).2, not_not.1 hempty, ← hadm]
      exact ho.context

/-- A second attempt after one that was refused. -/
theorem Opens.after {rq' rq'' : Request} (h : Opens rq rq') (hb : rq'.billing = none)
    (h' : Opens rq' rq'') : Opens rq rq'' := by
  obtain ⟨hgroups, hid⟩ := h.refused hb
  have husing := RelayInfo.usingGroup_of_fixed h.fixed
  have hadm : rq.Admitted → rq'.Admitted := by
    unfold Request.Admitted
    rw [RelayInfo.subscriptionKey_of_fixed h.fixed, hgroups, hid, h.later.groups]
    exact id
  refine ⟨h.later.trans h'.later, h'.fixed.trans h.fixed, fun hne => ?_, fun hnone => ?_,
    h'.reserves, ?_⟩
  · refine (h'.context ?_).trans hgroups
    rwa [RelayInfo.subscriptionKey_of_fixed h.fixed]
  · obtain ⟨hgroups', hid'⟩ := h'.refused hnone
    exact ⟨hgroups'.trans hgroups, hid'.trans hid⟩
  intro session f hs hf
  obtain ⟨hg, hcontext⟩ := h'.grants session f hs hf
  refine ⟨⟨?_, ?_⟩, fun ha => hcontext (hadm ha)⟩
  · have hrow := hg.row
    rwa [h.later.groups] at hrow
  · have hallows := hg.allows
    rwa [husing] at hallows

section

variable (hb : rq.billing = none)

include hb

theorem tryWallet_billing (h : (tryWallet rq quota).1 ≠ none) :
    (tryWallet rq quota).2.billing = none := by
  revert h
  unfold tryWallet
  dsimp only
  split_ifs
  · exact fun _ => hb
  · exact fun _ => hb
  · exact fun _ => hb
  · exact fun h => ((openSession_opened _ _ (.wallet ⟨0⟩) false quota nofun).refused h).1

theorem byPreference_opens
    (hkey : rq.info.subscriptionKey = none) : Opens rq (byPreference rq quota).2 := by
  unfold byPreference
  cases rq.info.billingPreference with
  | subscriptionOnly => exact (trySubscription_opens quota hkey).1
  | walletOnly => exact tryWallet_opens quota hb
  | walletFirst =>
    have hw := tryWallet_opens quota hb
    have hnone := tryWallet_billing quota hb
    generalize tryWallet rq quota = res at hw hnone ⊢
    obtain ⟨e, rq'⟩ := res
    cases e with
    | none => exact hw
    | some e =>
      dsimp only
      split
      · have hkey' := (RelayInfo.subscriptionKey_of_fixed hw.fixed).trans hkey
        exact hw.after (hnone nofun) (trySubscription_opens quota hkey').1
      · exact hw
  | subscriptionFirst =>
    have hread := Opens.read hb
    dsimp only
    split_ifs
    · exact hread
    · exact hread.after hb (tryWallet_opens quota hb)
    have hs := @trySubscription_opens { rq with store := rq.store.next } quota hkey
    generalize trySubscription { rq with store := rq.store.next } quota = res at hs ⊢
    obtain ⟨e, rq'⟩ := res
    cases e with
    | none => exact hread.after hb hs.1
    | some e =>
      dsimp only
      split
      · have hb' := hs.2 nofun
        exact hread.after hb (hs.1.after hb' (tryWallet_opens quota hb'))
      · exact hread.after hb hs.1

/-- **The opening of a session**, for every kind of key. -/
theorem newBillingSession_opens :
    Opens rq (newBillingSession rq quota).2 := by
  have hsame : Opens rq rq :=
    ⟨.refl _, rfl, fun _ => rfl, fun _ => ⟨rfl, rfl⟩, by simp [hb], by simp [hb]⟩
  have hbound : ∀ (mode : BillingMode) (tokenSubscription : Bool) (reservation : ℤ),
      0 < reservation → rq.info.subscriptionKey = some mode →
      Opens rq (openSession rq.store rq.info (.subscription
        ⟨rq.info.usingGroup, reservation, mode, rq.info.subscriptionId, 0, []⟩)
        tokenSubscription reservation).2 := by
    intro mode tokenSubscription reservation hpos hkey
    have ho := openSession_opened rq.store rq.info (.subscription
      ⟨rq.info.usingGroup, reservation, mode, rq.info.subscriptionId, 0, []⟩) tokenSubscription
      reservation fun _ => hpos
    generalize openSession rq.store rq.info _ tokenSubscription reservation = res at ho ⊢
    refine ⟨ho.later, ho.fixed, fun _ => ho.context, fun hnone => ?_, ho.reserves, ?_⟩
    · by_cases hok : res.1 = none
      · exact absurd hnone (ho.opened hok)
      · rw [(ho.refused hok).2]
        exact ⟨rfl, rfl⟩
    · intro session f hs hf
      obtain ⟨-, f', hfunding, hg, hid⟩ := ho.grants session f hs hf
      cases hfunding
      refine ⟨hg, fun hadm => ?_⟩
      unfold Request.Admitted at hadm
      rw [hkey] at hadm
      obtain ⟨hpos, groups, hrow, hlist⟩ := hadm
      obtain ⟨groups', hrow', hlist'⟩ := hg.row
      rw [hid hpos, hrow] at hrow'
      rw [ho.context, hlist, hlist', Option.some.inj hrow']
  unfold newBillingSession
  split
  · split
    · exact hsame
    · exact (openSession_opened rq.store rq.info (.organization ⟨0⟩) false quota nofun).opens
        (.refl _) rfl rfl rfl nofun
  · cases hkey : rq.info.subscriptionKey with
    | none => exact byPreference_opens quota hb hkey
    | some mode =>
      dsimp only
      split
      · exact (openSession_opened rq.store rq.info (.wallet ⟨0⟩) false quota nofun).opens
          (.refl _) rfl rfl rfl nofun
      · cases mode with
        | quota => exact hbound .quota false _ (atLeastOne_pos _) hkey
        | token => exact hbound .token true _ (atLeastOne_pos _) hkey

end

end OmniRouters.Billing
