import OmniRouters.Billing.Session

/-!
# What the operations of a session do

One lemma for each method of the funding sources and of the session, saying
everything it can do to the session and to the ledger it is funded from.

* `FundingSource.preConsume_takes`, `FundingSource.settle_settles`,
  `refundWithRetry_cases`: the funding sources.
* `State.preConsumeTokenQuota_takes`, `State.finishSettle_takes`: the token.
* `State.reserveFunding_takes`, `State.rollbackFundingReserve_takes`: a further
  reservation and its rollback.
-/

namespace OmniRouters.Billing

/-! ## Funding sources -/

namespace FundingSource

/-- The source after `δ` more has been counted as pre-consumed. A subscription
counts further reservations in the session, not here. -/
def charge (fs : FundingSource) (δ : ℤ) : FundingSource :=
  match fs with
  | wallet f => wallet { f with consumed := f.consumed + δ }
  | organization f => organization { f with consumed := f.consumed + δ }
  | subscription f => subscription f

/-- A subscription's used amount is floored at zero, a wallet may go either
way. -/
def floor (fs : FundingSource) (x : ℤ) : ℤ :=
  match fs with
  | subscription _ => max 0 x
  | _ => x

variable (fs : FundingSource)

@[simp] theorem charge_ledger (δ : ℤ) : (fs.charge δ).ledger = fs.ledger := by
  cases fs <;> rfl

@[simp] theorem charge_source (δ : ℤ) : (fs.charge δ).source = fs.source := by
  cases fs <;> rfl

theorem ledger_ne_token : fs.ledger ≠ .token := by
  cases fs <;> nofun

theorem charge_zero : fs.charge 0 = fs := by
  cases fs <;> simp [charge]

/-- The pre-consume of a wallet or an organization: the amount is taken and counted, or nothing
happens. -/
theorem preConsume_takes (hfs : fs.source ≠ .subscription) (δ : ℤ)
    (s : Store) :
    ∃ e s', fs.preConsume δ s = (e, if e.isNone then fs.charge (max 0 δ) else fs, s') ∧
      Takes fs.ledger (max 0 δ) s e.isNone s' := by
  by_cases hδ : δ ≤ 0
  · rw [max_eq_left hδ, charge_zero]
    refine ⟨none, s, ?_, .nothing⟩
    cases fs with
    | wallet | organization => simp [preConsume, hδ]
    | subscription => exact absurd rfl hfs
  · rw [max_eq_right (not_le.1 hδ).le]
    cases fs with
    | wallet f =>
      have h := tryReserveUserQuota_takes s δ
      simp only [preConsume, if_neg hδ]
      generalize tryReserveUserQuota s δ = res at h ⊢
      obtain ⟨outcome, s'⟩ := res
      cases outcome <;> exact ⟨_, s', rfl, h⟩
    | organization f =>
      have h := tryReserveOrganizationQuota_takes s δ
      simp only [preConsume, if_neg hδ]
      generalize tryReserveOrganizationQuota s δ = res at h ⊢
      obtain ⟨outcome, s'⟩ := res
      cases outcome <;> exact ⟨_, s', rfl, h⟩
    | subscription => exact absurd rfl hfs

theorem preConsume_frame {fs fs' : FundingSource} {δ : ℤ} {s s' : Store}
    {e : Option FundingError} (h : fs.preConsume δ s = (e, fs', s')) :
    fs'.source = fs.source ∧ s.Leaves s' := by
  by_cases hfs : fs.source = .subscription
  · cases fs with
    | wallet | organization => cases hfs
    | subscription f =>
      have hleaves := preConsumeUserSubscription_leaves s f.usingGroup f.amount f.billingMode
        f.subscriptionId
      simp only [preConsume] at h
      generalize preConsumeUserSubscription s _ _ _ _ = res at h hleaves
      obtain ⟨outcome, s''⟩ := res
      cases outcome <;> cases h <;> exact ⟨rfl, hleaves⟩
  · obtain ⟨e', s'', heq, htakes⟩ := preConsume_takes fs hfs δ s
    cases heq.symm.trans h
    refine ⟨?_, htakes.leaves⟩
    split
    · exact charge_source fs _
    · rfl

/-- The outcome of `Settle`: the ledger moves by `δ`, floored, or stays. -/
structure Settles (fs : FundingSource) (δ : ℤ) (s : Store) (ok : Bool) (s' : Store) : Prop where
  log : s'.log = s.log
  other : ∀ l, l ≠ fs.ledger → s'.rows.taken l = s.rows.taken l
  made : ok = true → s'.rows.taken fs.ledger = fs.floor (s.rows.taken fs.ledger + δ)
  missed : ok = false → s'.rows = s.rows

theorem floor_taken (r : Rows) :
    fs.floor (r.taken fs.ledger) = r.taken fs.ledger := by
  cases fs with
  | subscription f => exact max_eq_right (Int.natCast_nonneg _)
  | _ => rfl

theorem Settles.of_takes {fs : FundingSource} {δ : ℤ} {s s' : Store} {ok : Bool}
    (h : Takes fs.ledger δ s ok s') : fs.Settles δ s ok s' where
  log := h.leaves.log
  other _ hl := h.applies.other hl
  made hok := by
    subst hok
    rw [← h.applies.moves.taken, floor_taken]
  missed hok := by
    subst hok
    exact h.applies.eq

theorem settle_settles (δ : ℤ) (s : Store) :
    fs.Settles δ s (fs.settle δ s).1 (fs.settle δ s).2 := by
  cases fs with
  | wallet f =>
    simp only [settle]
    split_ifs with h0 hpos
    · subst h0
      exact .of_takes .nothing
    · exact .of_takes (decreaseUserQuota_takes s δ)
    · have h := increaseUserQuota_takes s (-δ)
      rw [neg_neg] at h
      exact .of_takes h
  | organization f => exact .of_takes (adjustOrganizationQuota_takes s δ)
  | subscription f =>
    simp only [settle]
    split_ifs with h0
    · subst h0
      exact .of_takes .nothing
    have hcases := postConsumeUserSubscriptionDelta_cases s f.subscriptionId δ
    refine ⟨postConsumeUserSubscriptionDelta_log s _ δ,
      fun l hl => postConsumeUserSubscriptionDelta_other s _ δ hl, fun hok => ?_, fun hok => ?_⟩
    · rcases hcases with ⟨-, ⟨h, -⟩ | ⟨hsome, hr⟩⟩ | ⟨hno, -⟩
      · exact absurd h h0
      · rw [hr]
        simp only [floor, ledger, Rows.taken, SubscriptionTable.used_setUsed hsome]
        omega
      · exact absurd (hno.symm.trans hok) Bool.false_ne_true
    · rcases hcases with ⟨hyes, -⟩ | ⟨-, hr⟩
      · exact absurd (hok.symm.trans hyes) Bool.false_ne_true
      · exact hr

/-- What a refund gives back: the pre-consumed amount that the source counts. -/
def counter : FundingSource → ℤ
  | wallet f => f.consumed
  | organization f => f.consumed
  | subscription f => f.preConsumed

end FundingSource

/-- Every failing attempt leaves the rows alone, so the outcome of the retries
is that of their last attempt. -/
theorem refundWithRetry_cases {s : Store} {id : ℕ} {amount : ℤ}
    (hrec : s.rows.record = some ⟨id, amount, false⟩) (ha : 0 < amount)
    (hused : amount ≤ s.rows.subscriptions.used id) (attempts : ℕ) :
    ((refundWithRetry refundSubscriptionPreConsume attempts s).1 = true ∧
        ∃ r, Moves (.subscription id) (-amount) s.rows r ∧
          (refundWithRetry refundSubscriptionPreConsume attempts s).2.rows =
            { r with record := some ⟨id, amount, true⟩ }) ∨
      ((refundWithRetry refundSubscriptionPreConsume attempts s).1 = false ∧
        (refundWithRetry refundSubscriptionPreConsume attempts s).2.rows = s.rows) := by
  induction attempts generalizing s with
  | zero => exact Or.inr ⟨rfl, rfl⟩
  | succ n ih =>
    have h := refundSubscriptionPreConsume_cases hrec ha hused
    unfold refundWithRetry
    generalize refundSubscriptionPreConsume s = res at h ⊢
    obtain ⟨ok, s'⟩ := res
    rcases h with ⟨rfl, r, hm, hr⟩ | ⟨rfl, hr⟩
    · exact Or.inl ⟨rfl, r, hm, hr⟩
    · rw [← hr] at hrec hused ⊢
      exact ih hrec hused

@[simp] theorem refundWithRetry_log (attempts : ℕ) (s : Store) :
    (refundWithRetry refundSubscriptionPreConsume attempts s).2.log = s.log := by
  induction attempts generalizing s with
  | zero => rfl
  | succ n ih =>
    have h := refundSubscriptionPreConsume_log s
    unfold refundWithRetry
    generalize refundSubscriptionPreConsume s = res at h ⊢
    obtain ⟨ok, s'⟩ := res
    cases ok with
    | true => exact h
    | false => exact (ih s').trans h

@[simp] theorem FundingSource.refund_log (fs : FundingSource) (s : Store) :
    (fs.refund s).2.log = s.log := by
  cases fs <;> simp only [FundingSource.refund] <;> split_ifs <;> simp

/-- The refund of a wallet or an organization gives back what it counted. -/
theorem FundingSource.refund_takes {fs : FundingSource} (hfs : fs.source ≠ .subscription)
    (hnonneg : 0 ≤ fs.counter) (s : Store) :
    Takes fs.ledger (-fs.counter) s (fs.refund s).1 (fs.refund s).2 := by
  cases fs with
  | subscription => exact absurd rfl hfs
  | wallet f =>
    simp only [refund, counter, ledger] at hnonneg ⊢
    split_ifs with h0
    · rw [le_antisymm h0 hnonneg]
      exact .nothing
    · exact increaseUserQuota_takes s _
  | organization f =>
    simp only [refund, counter, ledger] at hnonneg ⊢
    split_ifs with h0
    · rw [le_antisymm h0 hnonneg]
      exact .nothing
    · exact adjustOrganizationQuota_takes s _

/-! ## Steps that only touch the token -/

/-- Between `s` and `s'` only the token moved and nothing was logged. -/
structure TokenOnly (s s' : Store) : Prop where
  taken : ∀ l, l ≠ .token → s'.rows.taken l = s.rows.taken l
  record : s'.rows.record = s.rows.record
  log : s'.log = s.log

theorem Takes.tokenOnly {δ : ℤ} {s s' : Store} {ok : Bool} (h : Takes .token δ s ok s') :
    TokenOnly s s' :=
  ⟨fun _ hl => h.applies.other hl, h.applies.record, h.leaves.log⟩

/-- A step that touches only the token spares every other ledger. -/
theorem TokenOnly.spares {s s' : Store} (h : TokenOnly s s') (L : Ledger) :
    Spares L s.rows s'.rows := fun l _ ht => h.taken l ht

/-- What the token pays for `q`: nothing in the playground. -/
def RelayInfo.tokenShare (info : RelayInfo) (q : ℤ) : ℤ := if info.isPlayground then 0 else q

namespace State

@[simp] theorem logFailure_rows (line : LogLine) (res : Bool × Store) :
    (logFailure line res).rows = res.2.rows := by
  obtain ⟨ok, s⟩ := res
  cases ok <;> rfl

theorem mem_logFailure (line line' : LogLine) (res : Bool × Store) :
    line ∈ (logFailure line' res).log ↔ (line = line' ∧ res.1 = false) ∨ line ∈ res.2.log := by
  obtain ⟨ok, s⟩ := res
  cases ok <;> simp [logFailure]

variable (st : State)

theorem preConsumeTokenQuota_takes (q : ℤ) :
    ∃ ok s, st.preConsumeTokenQuota q = (ok, { st with store := s }) ∧
      Takes .token (st.info.tokenShare q) st.store ok s := by
  unfold preConsumeTokenQuota RelayInfo.tokenShare
  split_ifs
  · exact ⟨false, _, rfl, .refused⟩
  · exact ⟨false, _, rfl, .refused⟩
  · exact ⟨true, _, rfl, .nothing⟩
  have h := tryReserveTokenQuota_takes st.store q st.info.tokenUnlimited
  generalize tryReserveTokenQuota st.store q st.info.tokenUnlimited = res at h ⊢
  obtain ⟨outcome, s⟩ := res
  cases outcome <;> exact ⟨_, s, rfl, h⟩

theorem reserveToken_takes (δ : ℤ) :
    ∃ ok s q, st.reserveToken δ = (ok, { st with store := s }) ∧ Takes .token q st.store ok s := by
  unfold reserveToken
  split
  · exact ⟨true, _, 0, rfl, .nothing⟩
  · obtain ⟨ok, s, heq, h⟩ := st.preConsumeTokenQuota_takes δ
    exact ⟨ok, s, _, heq, h⟩

/-- The token rollback gives back what the session took from the token, or logs that it could
not. -/
theorem rollbackToken_takes :
    ∃ ok s n, st.rollbackToken = { st with
        store := logFailure (.rollbackTokenQuota st.session.tokenConsumed) (ok, s)
        session := { st.session with tokenConsumed := n } } ∧
      Takes .token (-st.info.tokenShare (max 0 st.session.tokenConsumed)) st.store ok s := by
  unfold rollbackToken RelayInfo.tokenShare
  by_cases hroll : 0 < st.session.tokenConsumed ∧ ¬ st.info.isPlayground
  · have h := increaseTokenQuota_takes st.store st.session.tokenConsumed
    rw [if_pos hroll, if_neg hroll.2, max_eq_right hroll.1.le]
    generalize increaseTokenQuota st.store st.session.tokenConsumed = res at h ⊢
    obtain ⟨ok, s⟩ := res
    cases ok <;> exact ⟨_, s, 0, rfl, h⟩
  · have hzero : -(if st.info.isPlayground then 0 else max 0 st.session.tokenConsumed) = 0 := by
      split_ifs with hplay
      · rfl
      · have hle : ¬ 0 < st.session.tokenConsumed := fun h => hroll ⟨h, hplay⟩
        omega
    rw [if_neg hroll, hzero]
    exact ⟨true, st.store, _, rfl, .nothing⟩

/-- The token step of a settlement charges the token, or logs that it could not. -/
theorem finishSettle_takes (δ : ℤ) :
    ∃ ok s post, st.finishSettle δ = (ok, { st with
        store := logFailure (.adjustTokenQuota δ) (ok, s)
        info := { st.info with subscriptionPostDelta := post }
        session := { st.session with settled := true } }) ∧
      Takes .token (st.info.tokenShare δ) st.store ok s := by
  unfold finishSettle settleToken RelayInfo.tokenShare
  by_cases hplay : st.info.isPlayground = true
  · rw [if_pos hplay, if_pos hplay]
    exact ⟨true, st.store, _, rfl, .nothing⟩
  have h : Takes .token δ st.store
      (if 0 < δ then decreaseTokenQuota st.store δ else increaseTokenQuota st.store (-δ)).1
      (if 0 < δ then decreaseTokenQuota st.store δ else increaseTokenQuota st.store (-δ)).2 := by
    split
    · exact decreaseTokenQuota_takes st.store δ
    · have h := increaseTokenQuota_takes st.store (-δ)
      rwa [neg_neg] at h
  rw [if_neg hplay, if_neg hplay]
  generalize (if 0 < δ then _ else _) = res at h ⊢
  obtain ⟨ok, s⟩ := res
  cases ok <;> exact ⟨_, s, _, rfl, h⟩

/-! ## Reserving and rolling back -/

variable {st}

theorem postConsumeUserSubscriptionDelta_id {s : Store} {id : ℕ} {δ : ℤ}
    (h : (postConsumeUserSubscriptionDelta s id δ).1 = true) : 0 < id := by
  by_contra hid
  have h0 : id = 0 := by omega
  simp [postConsumeUserSubscriptionDelta, h0] at h

/-- `reserveFunding` takes `δ` from the funding source and counts it, or does
nothing. -/
theorem reserveFunding_takes (st : State) {δ : ℤ} (hδ : 0 < δ) (req : Bool) :
    ∃ e s, st.reserveFunding δ req = (e, { st with
        store := s
        session := { st.session with
          funding := if e.isNone then st.session.funding.charge δ else st.session.funding } }) ∧
      Takes st.session.funding.ledger δ st.store e.isNone s ∧
      (e = none → ∀ f, st.session.funding = .subscription f → 0 < f.subscriptionId) := by
  obtain ⟨store, info, session⟩ := st
  obtain ⟨funding, tokenSubscription, pre, tok, extra, trusted, fset, set, ref⟩ := session
  cases funding with
  | wallet f =>
    cases req with
    | true =>
      obtain ⟨e, s, heq, h⟩ := FundingSource.preConsume_takes (.wallet f) nofun δ store
      rw [max_eq_right hδ.le] at heq h
      simp only [reserveFunding, heq]
      cases e <;> exact ⟨_, s, rfl, h, nofun⟩
    | false =>
      have h := decreaseUserQuota_takes store δ
      simp only [reserveFunding]
      generalize decreaseUserQuota store δ = res at h ⊢
      obtain ⟨ok, s⟩ := res
      cases ok <;> exact ⟨_, s, rfl, h, nofun⟩
  | organization f =>
    obtain ⟨e, s, heq, h⟩ := FundingSource.preConsume_takes (.organization f) nofun δ store
    rw [max_eq_right hδ.le] at heq h
    simp only [reserveFunding, heq]
    cases e <;> exact ⟨_, s, rfl, h, nofun⟩
  | subscription f =>
    have h := postConsumeUserSubscriptionDelta_takes store f.subscriptionId δ
      (add_nonneg (Int.natCast_nonneg _) hδ.le)
    have hid := @postConsumeUserSubscriptionDelta_id store f.subscriptionId δ
    simp only [reserveFunding]
    generalize postConsumeUserSubscriptionDelta store f.subscriptionId δ = res at h hid ⊢
    obtain ⟨ok, s⟩ := res
    cases ok with
    | true =>
      refine ⟨none, s, rfl, h, fun _ g hg => ?_⟩
      obtain rfl := FundingSource.subscription.inj hg
      exact hid rfl
    | false => exact ⟨_, s, rfl, h, nofun⟩

/-- A rollback that is not logged as failed undoes the reservation. -/
theorem rollbackFundingReserve_takes (st : State) (δ : ℤ)
    (hback : ∀ f, st.session.funding = .subscription f →
      δ ≤ st.store.rows.subscriptions.used f.subscriptionId) :
    ∃ ok s, st.rollbackFundingReserve δ = { st with
        store := logFailure (.rollbackFundingReserve δ) (ok, s)
        session := { st.session with
          funding := if ok then st.session.funding.charge (-δ) else st.session.funding } } ∧
      Takes st.session.funding.ledger (-δ) st.store ok s := by
  obtain ⟨store, info, session⟩ := st
  obtain ⟨funding, tokenSubscription, pre, tok, extra, trusted, fset, set, ref⟩ := session
  cases funding with
  | wallet f =>
    have h := increaseUserQuota_takes store δ
    simp only [rollbackFundingReserve]
    generalize increaseUserQuota store δ = res at h ⊢
    obtain ⟨ok, s⟩ := res
    cases ok <;> exact ⟨_, s, rfl, h⟩
  | organization f =>
    have h := adjustOrganizationQuota_takes store (-δ)
    simp only [rollbackFundingReserve]
    generalize adjustOrganizationQuota store (-δ) = res at h ⊢
    obtain ⟨ok, s⟩ := res
    cases ok <;> exact ⟨_, s, rfl, h⟩
  | subscription f =>
    have hused := hback f rfl
    have h := postConsumeUserSubscriptionDelta_takes store f.subscriptionId (-δ) (by
      simp only at hused; omega)
    simp only [rollbackFundingReserve]
    generalize postConsumeUserSubscriptionDelta store f.subscriptionId (-δ) = res at h ⊢
    obtain ⟨ok, s⟩ := res
    cases ok <;> exact ⟨_, s, rfl, h⟩

end State

/-! ## Pre-consuming -/

@[simp] theorem State.syncRelayInfo_store (st : State) : st.syncRelayInfo.store = st.store := by
  unfold State.syncRelayInfo
  split <;> rfl

@[simp] theorem State.syncRelayInfo_session (st : State) :
    st.syncRelayInfo.session = st.session := by
  unfold State.syncRelayInfo
  split <;> rfl

variable {st : State}

/-- Only a wallet is trusted, so a subscription is charged in full. -/
theorem State.source_of_shouldTrust (h : st.shouldTrust = true) :
    st.session.funding.source ≠ .subscription := by
  intro hfs
  unfold State.shouldTrust at h
  cases hf : st.session.funding with
  | wallet | organization => rw [hf] at hfs; cases hfs
  | subscription f => simp [hf] at h

/-- A new session whose token has paid `n` for the effective quota `δ`, and whose funding source
has not been charged. -/
structure TokenPaid (st : State) (quota δ n : ℤ) (s : Store) : Prop where
  effective : δ = quota ∨ δ = 0 ∧ st.session.funding.source ≠ .subscription
  share : n = if st.session.tokenSubscription then 0 else max 0 δ
  takes : Takes .token (st.info.tokenShare n) st.store true s

theorem TokenPaid.quota {quota δ n : ℤ} {s : Store} (h : TokenPaid st quota δ n s)
    (hnonneg : 0 ≤ quota) : 0 ≤ δ ∧ (st.session.funding.source = .subscription → δ = quota) := by
  rcases h.effective with rfl | ⟨rfl, hne⟩
  · exact ⟨hnonneg, fun _ => rfl⟩
  · exact ⟨le_rfl, fun hfs => absurd hfs hne⟩

theorem TokenPaid.nonneg {quota δ n : ℤ} {s : Store} (h : TokenPaid st quota δ n s) :
    0 ≤ n := by
  rw [h.share]
  split
  · exact le_rfl
  · exact le_max_left 0 δ

/-- Everything the pre-consume of a new session can do: the token refuses, the funding source
refuses and the token is rolled back, or both are charged. -/
inductive PreConsumes (st : State) (quota : ℤ) : Option ErrorCode × State → Prop
  | token (trusted : Bool) {s : Store} {q : ℤ} : Takes .token q st.store false s →
    PreConsumes st quota (some .preConsumeTokenQuotaFailed,
      { st with store := s, session := { st.session with trusted := trusted } })
  | funding (n : ℤ) (trusted : Bool) {s s' : Store} {δ : ℤ} {e : FundingError}
      {fs : FundingSource} :
    TokenPaid st quota δ n s → st.session.funding.preConsume δ s = (some e, fs, s') →
    PreConsumes st quota (some (State.preConsumeErrorCode e), State.rollbackToken { st with
      store := s'
      session := { st.session with funding := fs, tokenConsumed := n, trusted := trusted } })
  | charged (n : ℤ) (trusted : Bool) {s s' : Store} {δ : ℤ} {fs : FundingSource} :
    TokenPaid st quota δ n s → st.session.funding.preConsume δ s = (none, fs, s') →
    PreConsumes st quota (none, State.syncRelayInfo { st with
      store := s'
      session := { st.session with
        funding := fs, preConsumedQuota := δ, tokenConsumed := n, trusted := trusted } })

theorem State.preConsume_preConsumes (htok : st.session.tokenConsumed = 0)
    (quota : ℤ) : PreConsumes st quota (st.preConsume quota) := by
  -- after the token
  have hfund {s : Store} {δ n : ℤ} {trusted : Bool} (h : TokenPaid st quota δ n s) :
      PreConsumes st quota (State.preConsumeFunding { st with
        store := s
        session := { st.session with tokenConsumed := n, trusted := trusted } } δ) := by
    unfold State.preConsumeFunding
    generalize hres : st.session.funding.preConsume δ s = res
    obtain ⟨e, fs, s'⟩ := res
    cases e with
    | none => exact .charged n trusted h hres
    | some e => exact .funding n trusted h hres
  have heff {δ : ℤ} {trusted : Bool}
      (h : δ = quota ∨ δ = 0 ∧ st.session.funding.source ≠ .subscription) :
      PreConsumes st quota (State.preConsumeEffective
        { st with session := { st.session with trusted := trusted } } δ) := by
    unfold State.preConsumeEffective
    by_cases hpays : 0 < δ ∧ ¬ st.session.tokenSubscription
    · obtain ⟨ok, s, heq, ht⟩ := State.preConsumeTokenQuota_takes
        { st with session := { st.session with trusted := trusted } } δ
      rw [if_pos hpays, heq]
      cases ok with
      | false => exact .token trusted ht
      | true => exact hfund ⟨h, by rw [if_neg hpays.2, max_eq_right hpays.1.le], ht⟩
    · rw [if_neg hpays]
      refine hfund ⟨h, ?_, ?_⟩
      · rw [htok]
        split_ifs with hts
        · rfl
        · have hle : ¬ 0 < δ := fun hpos => hpays ⟨hpos, hts⟩
          omega
      · rw [htok, RelayInfo.tokenShare, ite_self]
        exact .nothing
  unfold State.preConsume
  split
  next htrust =>
    exact heff (.inr ⟨rfl, State.source_of_shouldTrust htrust⟩)
  · exact heff (.inl rfl)

theorem PreConsumes.session {quota : ℤ} {res : Option ErrorCode × State}
    (h : PreConsumes st quota res) :
    res.2.session.funding.source = st.session.funding.source ∧
      res.2.session.tokenSubscription = st.session.tokenSubscription := by
  cases h with
  | token => exact ⟨rfl, rfl⟩
  | funding n trusted hpaid hpre =>
    obtain ⟨ok, s, n, heq, -⟩ := State.rollbackToken_takes _
    rw [heq]
    exact ⟨(FundingSource.preConsume_frame hpre).1, rfl⟩
  | charged n trusted hpaid hpre => simpa using (FundingSource.preConsume_frame hpre).1

end OmniRouters.Billing
