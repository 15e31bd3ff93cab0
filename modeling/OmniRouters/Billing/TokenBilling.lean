import OmniRouters.Billing.Answers

/-!
# Settlement of a token-mode session

`SettleTokenBilling` (`service/billing_session.go`) commits to two ledgers: the tokens to the
subscription, then the tool charge to the wallet. A failed call may be made again.

* `retried_charged`: the charges of any number of calls, if the tokens are those that were
  pre-consumed, if there is no tool charge, or if the database answers.
* `retried_twice`: a call that fails at the wallet and is made again charges the subscription
  twice: unlike `Settle`, it does not look at `fundingSettled`.
-/

namespace OmniRouters.Billing

/-- What has been taken from a subscription and from the wallet since `r0`. -/
abbrev Charged (r0 : Rows) (l : Ledger) (tokens tools : ℤ) (r : Rows) : Prop :=
  r.taken l = r0.taken l + tokens ∧ r.taken .wallet = r0.taken .wallet + tools

/-- A session of which `SettleTokenBilling` may have been called: it is settled, or holds what was
pre-consumed. -/
structure Settling (r0 : Rows) (f : SubscriptionFunding) (tokens tools : ℕ) (st : State) :
    Prop where
  funding : st.session.funding = .subscription f
  mode : st.session.tokenSubscription = true
  charged : if st.session.settled then
      Charged r0 (.subscription f.subscriptionId) tokens tools st.store.rows
    else Charged r0 (.subscription f.subscriptionId) f.preConsumed 0 st.store.rows
  partly : st.session.settled = false → st.session.fundingSettled = true → tokens = f.preConsumed

/-- The calls are about what was pre-consumed, have no tool charge, or cannot fail. -/
def Harmless (f : SubscriptionFunding) (tokens tools : ℕ) (s : Store) : Prop :=
  tokens = f.preConsumed ∨ tools = 0 ∨ s.Answers

variable {r0 : Rows} {f : SubscriptionFunding} {tokens tools : ℕ} {st : State}

theorem Charged.settle {s : Store}
    (h : Charged r0 (.subscription f.subscriptionId) f.preConsumed 0 s.rows) (tokens : ℕ) :
    Applies (.subscription f.subscriptionId) (tokens - f.preConsumed) s.rows
        (FundingSource.settle (.subscription f) (tokens - f.preConsumed) s).1
        (FundingSource.settle (.subscription f) (tokens - f.preConsumed) s).2.rows ∧
      s.Leaves (FundingSource.settle (.subscription f) (tokens - f.preConsumed) s).2 := by
  unfold FundingSource.settle
  by_cases hdelta : (tokens : ℤ) - f.preConsumed = 0
  · simp only [hdelta, if_true]
    exact ⟨.done (.refl _ _), .refl _⟩
  simp only [if_neg hdelta]
  refine ⟨postConsumeUserSubscriptionDelta_applies _ _ _ ?_,
    postConsumeUserSubscriptionDelta_leaves _ _ _⟩
  have htaken : (s.rows.subscriptions.used f.subscriptionId : ℤ) =
    r0.subscriptions.used f.subscriptionId + f.preConsumed := h.1
  omega

/-- The tool charge fails only if there is one and the database does not answer. -/
theorem toolCharge_takes {s s' : Store} {tools : ℕ} {ok : Bool}
    (h : (if 0 < (tools : ℤ) then decreaseUserQuota s tools else (true, s)) = (ok, s')) :
    Takes .wallet tools s ok s' ∧ (ok = false → tools ≠ 0 ∧ ¬ s.Answers) := by
  split_ifs at h with htools
  · have htakes := decreaseUserQuota_takes s tools
    rw [h] at htakes
    refine ⟨htakes, fun hno => ⟨by omega, fun hans => ?_⟩⟩
    subst hno
    rw [decreaseUserQuota, if_neg (by omega), Store.exec, if_neg (by simp [hans.down])] at h
    cases h
  · cases h
    obtain rfl : tools = 0 := by omega
    exact ⟨.nothing, fun h => absurd h.symm Bool.false_ne_true⟩

/-- One call. -/
theorem Settling.step (h : Settling r0 f tokens tools st)
    (hfine : Harmless f tokens tools st.store) :
    Settling r0 f tokens tools (st.settleTokenBilling tokens tools).2 ∧
      Harmless f tokens tools (st.settleTokenBilling tokens tools).2.store ∧
      (st.settleTokenBilling tokens tools).2.session.settled =
        (st.settleTokenBilling tokens tools).1 := by
  cases hsettled : st.session.settled with
  | true =>
    have hsame : st.settleTokenBilling tokens tools = (true, st) := if_pos hsettled
    rw [hsame]
    exact ⟨h, hfine, hsettled⟩
  | false =>
    have hcharged := h.charged
    rw [hsettled, if_neg Bool.false_ne_true] at hcharged
    obtain ⟨happlies, hleaves⟩ := hcharged.settle tokens
    obtain ⟨made, s, hmade, hcall⟩ :=
      State.settleTokenBilling_cases hsettled h.mode h.funding tokens tools
    rw [hmade] at happlies hleaves
    have hstill : Harmless f tokens tools s := hfine.imp_right (Or.imp_right hleaves.answers)
    rcases hcall with ⟨rfl, heq⟩ | ⟨rfl, ok, s', hpaid, heq⟩
    · rw [heq]
      refine ⟨⟨h.funding, h.mode, ?_, h.partly⟩, hstill, hsettled⟩
      rw [hsettled, if_neg Bool.false_ne_true, happlies.eq]
      exact hcharged
    · rw [heq]
      have hmoves := happlies.moves
      obtain ⟨htakes, hfailed⟩ := toolCharge_takes hpaid
      have hlater : Harmless f tokens tools s' :=
        hstill.imp_right (Or.imp_right htakes.leaves.answers)
      have hsub : s.rows.taken (.subscription f.subscriptionId) =
          r0.taken (.subscription f.subscriptionId) + tokens := by
        rw [hmoves.taken, hcharged.1]
        omega
      have hwallet : s.rows.taken .wallet = r0.taken .wallet + 0 :=
        (hmoves.other _ (by simp)).trans hcharged.2
      cases ok with
      | false =>
        -- the wallet step fails: only a call about the pre-consumed tokens gets here
        obtain ⟨htools, hanswers⟩ := hfailed rfl
        have htokens : (tokens : ℤ) = f.preConsumed :=
          hstill.resolve_right fun hno => hno.elim htools hanswers
        refine ⟨⟨h.funding, h.mode, ?_, fun _ _ => htokens⟩, hlater, rfl⟩
        rw [if_neg Bool.false_ne_true, htakes.applies.eq, ← htokens]
        exact ⟨hsub, hwallet⟩
      | true =>
        refine ⟨⟨h.funding, h.mode, ?_, fun hno => absurd hno.symm Bool.false_ne_true⟩, hlater, rfl⟩
        have hcharge := htakes.applies.moves
        refine ⟨(hcharge.other _ (by simp)).trans hsub, ?_⟩
        rw [hcharge.taken, hwallet, add_zero]

/-- The state after a number of calls. -/
def State.retried (st : State) (tokens tools : ℤ) (calls : ℕ) : State :=
  (fun st => (st.settleTokenBilling tokens tools).2)^[calls] st

theorem Settling.retried (h : Settling r0 f tokens tools st)
    (hfine : Harmless f tokens tools st.store) (calls : ℕ) :
    Settling r0 f tokens tools (st.retried tokens tools calls) ∧
      Harmless f tokens tools (st.retried tokens tools calls).store := by
  induction calls with
  | zero => exact ⟨h, hfine⟩
  | succ n ih =>
    unfold State.retried at ih ⊢
    rw [Function.iterate_succ_apply']
    obtain ⟨hnext, hstill, -⟩ := ih.1.step ih.2
    exact ⟨hnext, hstill⟩

/-- A token-mode session after its pre-consume. -/
theorem preConsume_settling {store : Store} {info : RelayInfo} {quota : ℤ}
    (hrecord : store.rows.record = none)
    (hopen : State.preConsume ⟨store, info, .new (.subscription f) true⟩ quota = (none, st))
    (tokens tools : ℕ) : ∃ f', f'.preConsumed = f.amount ∧
      Settling store.rows f' tokens tools st := by
  have htrust : State.shouldTrust ⟨store, info, .new (.subscription f) true⟩ = false := by
    unfold State.shouldTrust
    dsimp only [BillingSession.new]
    split_ifs <;> rfl
  have hcases := preConsumeUserSubscription_cases store f.usingGroup f.amount f.billingMode
    f.subscriptionId hrecord
  rw [State.preConsume, if_neg (by simp [htrust]), State.preConsumeEffective,
    if_neg (by simp [BillingSession.new]), State.preConsumeFunding] at hopen
  dsimp only [BillingSession.new, FundingSource.preConsume] at hopen
  generalize preConsumeUserSubscription store f.usingGroup f.amount f.billingMode f.subscriptionId =
    res at hcases hopen
  obtain ⟨res, s⟩ := res
  rcases hcases with ⟨e, rfl, -⟩ | ⟨-, sub, -, -, rfl, -, hmoves⟩
  · cases hopen
  · obtain rfl := (Prod.mk.inj hopen).2
    refine ⟨_, rfl, rfl, rfl, ?_, fun _ hno => absurd hno Bool.false_ne_true⟩
    exact ⟨hmoves.taken, (hmoves.other .wallet (by simp)).trans (add_zero _).symm⟩

/-- The charges of a token-mode session after any number of calls of `SettleTokenBilling`, of which
any may fail: all of it once a call has succeeded, the subscription never twice, and nothing
that is committed is returned. -/
theorem retried_charged (store : Store) (info : RelayInfo) (f : SubscriptionFunding) (quota : ℤ)
    (st : State) (tokens tools : ℕ) (hrecord : store.rows.record = none)
    (hopen : State.preConsume ⟨store, info, .new (.subscription f) true⟩ quota = (none, st))
    (hfine : tokens = f.amount ∨ tools = 0 ∨ st.store.Answers) (calls : ℕ) :
    let st' := st.retried tokens tools calls
    ((st'.settleTokenBilling tokens tools).1 = true →
        Charged store.rows st.session.funding.ledger tokens tools
          (st'.settleTokenBilling tokens tools).2.store.rows) ∧
      (Charged store.rows st.session.funding.ledger f.amount 0 st'.store.rows ∨
        Charged store.rows st.session.funding.ledger tokens tools st'.store.rows) ∧
      (st'.session.fundingSettled = true → st'.refund = st') := by
  intro st'
  obtain ⟨f', hamount, hinit⟩ := preConsume_settling hrecord hopen tokens tools
  rw [← hamount] at hfine ⊢
  have hledger : st.session.funding.ledger = .subscription f'.subscriptionId := by
    rw [hinit.funding]
    rfl
  rw [hledger]
  obtain ⟨hsettling, hstill⟩ := hinit.retried hfine calls
  refine ⟨fun hok => ?_, ?_, fun hfunding => ?_⟩
  · obtain ⟨hnext, -, hflag⟩ := hsettling.step hstill
    have hcharged := hnext.charged
    rwa [hflag, hok, if_pos rfl] at hcharged
  · have hcharged := hsettling.charged
    cases hsettled : (st.retried tokens tools calls).session.settled with
    | false => exact .inl (by rwa [hsettled, if_neg Bool.false_ne_true] at hcharged)
    | true => exact .inr (by rwa [hsettled, if_pos rfl] at hcharged)
  · have hneeds : st'.needsRefund = false := if_pos (.inr (.inr hfunding))
    exact if_pos (.inr (.inr (by simp [hneeds])))

/-- A session with 10 tokens of a subscription of 100, over a database that fails the given calls
after the pre-consume. -/
def tokenState (faults : List Bool) : State where
  store :=
    { rows :=
        { userQuota := 50, organization := ⟨0, 0, 0⟩
          subscriptions := ⟨[⟨1, .token, [], 100, 0⟩], by decide, by decide⟩
          record := none, tokenRemain := 0 }
      faults := false :: faults, log := [] }
  info := (sampleState []).info
  session := .new (.subscription ⟨"default", 10, .token, 0, 0, []⟩) true

/-- The wallet fails the first call, and the second succeeds. -/
theorem retried_charged_preConsumed :
    let st := (State.preConsume (tokenState [true]) 10).2
    (st.retried 10 5 1).session.settled = false ∧
      Charged (tokenState []).store.rows (.subscription 1) 10 5
        ((st.retried 10 5 1).settleTokenBilling 10 5).2.store.rows := by
  intro st
  have h := retried_charged (tokenState [true]).store (tokenState [true]).info
    ⟨"default", 10, .token, 0, 0, []⟩ 10 st 10 5 rfl (by decide +kernel) (.inl rfl) 1
  exact ⟨by decide +kernel, h.1 (by decide +kernel)⟩

/-- 15 tokens and a tool charge of 5: the wallet fails the first call, and the second one charges
the subscription another 5 tokens. -/
theorem retried_twice :
    let st := (State.preConsume (tokenState [false, true]) 10).2
    ((st.retried 15 5 1).settleTokenBilling 15 5).1 = true ∧
      Charged (tokenState []).store.rows (.subscription 1) 20 5
        ((st.retried 15 5 1).settleTokenBilling 15 5).2.store.rows := by
  decide +kernel

end OmniRouters.Billing
