import OmniRouters.Billing.SessionPhases

/-!
# The life of a billing session

What a session has taken from its funding source, over every sequence of
reservations, settles and refunds and every pattern of failing storage calls.

* `SessionInv.step`, `SessionInv.run`: every call, and every run, keeps a
  session to its three phases.
* `step_of_settled`, `step_of_refunded`: a closed session moves nothing.
* `session_net_taken`: what a session has taken after any run.
* `refund_keeps_extra_reserved`: a refund with a failing call does not give
  everything back.
-/

namespace OmniRouters.Billing

/-! ## Runs -/

/-- The calls made on a session after its pre-consume. `Settle` is always called
with the same actual quota. -/
inductive Op
  | reserve (target : ℤ)
  | reserveBeforeSubmit (target : ℤ)
  | settle
  | refund
deriving DecidableEq

/-- One call on the session. -/
def step (actual : ℤ) (st : State) : Op → State
  | .reserve target => (st.reserve target false).2
  | .reserveBeforeSubmit target => (st.reserve target true).2
  | .settle => (st.settle actual).2
  | .refund => st.refund

def run (actual : ℤ) (st : State) (ops : List Op) : State := ops.foldl (step actual) st

/-- A rollback of a reservation has failed. -/
def RollbackFailed (st : State) : Prop := ∃ δ, .rollbackFundingReserve δ ∈ st.store.log

variable {line : LogLine} {st : State} {op : Op} {r0 : Rows} {actual : ℤ}

/-- What has been logged stays logged. -/
theorem RollbackFailed.step (h : RollbackFailed st) (actual : ℤ) (op : Op) :
    RollbackFailed (step actual st op) := by
  have hreserve : ∀ target req, RollbackFailed (st.reserve target req).2 := by
    intro target req
    rcases st.reserve_cases target req with
      ⟨s, hst, hleaves, -⟩ | ⟨s, δ, _, -, hleaves, -, -, -, -, -, hst⟩ | ⟨s, δ, -, hst⟩
    · rw [hst]
      obtain ⟨δ, hδ⟩ := h
      exact ⟨δ, by simpa only [hleaves.log] using hδ⟩
    · rw [hst]
      obtain ⟨δ', hδ'⟩ := h
      exact ⟨δ', by simpa only [State.syncRelayInfo_store, hleaves.log] using hδ'⟩
    · rw [hst]
      exact ⟨δ, List.mem_cons_self⟩
  obtain ⟨δ, hδ⟩ := h
  cases op with
  | reserve target => exact hreserve target false
  | reserveBeforeSubmit target => exact hreserve target true
  | settle =>
    obtain ⟨s, _, _, _, heq, -, hlog⟩ := st.settle_frame actual
    refine ⟨δ, ?_⟩
    rw [Billing.step, heq]
    exact hlog _ hδ
  | refund =>
    simp only [Billing.step, State.refund]
    split
    · exact ⟨δ, hδ⟩
    refine ⟨δ, ?_⟩
    simp only [State.refundClosure]
    rw [State.mem_refundToken_log _ _ (.rollbackFundingReserve δ) nofun,
      State.mem_refundExtraReserved_log _ _ (.rollbackFundingReserve δ) nofun,
      State.mem_logFailure, FundingSource.refund_log]
    exact .inr hδ

theorem RollbackFailed.run (h : RollbackFailed st) (actual : ℤ) (ops : List Op) :
    RollbackFailed (run actual st ops) := by
  induction ops generalizing st with
  | nil => exact h
  | cons op ops ih => exact ih (h.step actual op)

/-! ## Closed sessions -/

theorem step_of_closed (h : st.session.settled = true ∨ st.session.refunded = true) (actual : ℤ)
    (hop : op = .settle → st.session.settled = true) : step actual st op = st := by
  have hreserve : ∀ target req, (st.reserve target req).2 = st := by
    intro target req
    unfold State.reserve
    simp only [← or_assoc, h, true_or, if_true]
    split <;> rfl
  cases op with
  | reserve target => exact hreserve target false
  | reserveBeforeSubmit target => exact hreserve target true
  | settle => simp only [step, State.settle, hop rfl, if_true]
  | refund => simp only [step, State.refund, ← or_assoc, h, true_or, if_true]

/-- After a committed settle no operation does anything. -/
theorem step_of_settled (h : st.session.settled = true) (actual : ℤ) (op : Op) :
    step actual st op = st :=
  step_of_closed (.inl h) actual fun _ => h

/-- After a refund no operation but a settle does anything. -/
theorem step_of_refunded (h : st.session.refunded = true) (actual : ℤ) (hop : op ≠ .settle) :
    step actual st op = st :=
  step_of_closed (.inr h) actual fun heq => absurd heq hop

/-- Every operation keeps to the three phases, as long as no rollback fails and
no settle follows a refund. -/
theorem SessionInv.step (h : SessionInv r0 actual st)
    (hroll : ¬ RollbackFailed (step actual st op))
    (horder : st.session.refunded = true → op ≠ .settle) :
    SessionInv r0 actual (step actual st op) := by
  rcases h with h | h | h
  · have hreserve : ∀ target req, ¬ RollbackFailed (st.reserve target req).2 →
        SessionInv r0 actual (st.reserve target req).2 := fun target req hno =>
      .inl (h.reserve target req fun δ hδ => hno ⟨δ, hδ⟩)
    cases op with
    | reserve target => exact hreserve target false hroll
    | reserveBeforeSubmit target => exact hreserve target true hroll
    | settle =>
      rcases h.settle actual with h' | h'
      · exact .inl h'
      · exact .inr (.inl h')
    | refund =>
      simp only [Billing.step, State.refund]
      split
      · exact .inl h
      · have hheld : Held r0 { st with session := { st.session with refunded := true } } :=
          { h.toHeld with counted := h.counted.setRefunded }
        exact .inr (.inr ⟨h.settled, rfl, hheld.refundClosure_taken⟩)
  · rw [step_of_settled h.settled]
    exact .inr (.inl h)
  · rw [step_of_refunded h.refunded actual (horder h.refunded)]
    exact .inr (.inr h)

theorem refunded_of_step (hop : op ≠ .refund) (h : (step actual st op).session.refunded = true) :
    st.session.refunded = true := by
  have hreserve : ∀ target req, (st.reserve target req).2.session.refunded = true →
      st.session.refunded = true := by
    intro target req href
    rcases st.reserve_cases target req with
      ⟨s, hst, -⟩ | ⟨s, δ, _, -, -, -, -, -, -, -, hst⟩ | ⟨s, δ, -, hst⟩
    · rwa [hst] at href
    · rw [hst] at href
      simpa using href
    · rwa [hst] at href
  cases op with
  | reserve target => exact hreserve target false h
  | reserveBeforeSubmit target => exact hreserve target true h
  | settle =>
    obtain ⟨s, _, _, _, heq, -⟩ := st.settle_frame actual
    rwa [step, heq] at h
  | refund => exact absurd rfl hop

/-- The phases are kept along every run in which all refunds come after the last
settle. -/
theorem SessionInv.run (h : SessionInv r0 actual st) {ops : List Op}
    (hroll : ¬ RollbackFailed (run actual st ops))
    (horder : ops.Pairwise fun a b => a = .refund → b ≠ .settle)
    (hrefunded : st.session.refunded = true → .settle ∉ ops) :
    SessionInv r0 actual (run actual st ops) := by
  induction ops generalizing st with
  | nil => exact h
  | cons op ops ih =>
    have hno : ¬ RollbackFailed (Billing.step actual st op) := fun hf => hroll (hf.run actual ops)
    have hstep : SessionInv r0 actual (Billing.step actual st op) :=
      h.step hno fun href hop => hrefunded href (by simp [hop])
    refine ih hstep hroll horder.of_cons fun href hmem => ?_
    by_cases hop : op = .refund
    · exact List.rel_of_pairwise_cons horder hmem hop rfl
    · exact hrefunded (refunded_of_step hop href) (List.mem_cons_of_mem _ hmem)

/-! ## What a session has taken -/

/-- What has been taken from the session's funding source since the rows `r0`. -/
def netTaken (r0 : Rows) (st : State) : ℤ :=
  st.store.rows.taken st.session.funding.ledger - r0.taken st.session.funding.ledger

/-- What a committed settle has taken in all: the actual quota, except that a
subscription gives back no more than was used before. -/
def settledNet (r0 : Rows) (fs : FundingSource) (actual : ℤ) : ℤ :=
  match fs with
  | .subscription f => max actual (-(r0.subscriptions.used f.subscriptionId : ℤ))
  | _ => actual

theorem Settled.netTaken (h : Settled r0 actual st) :
    netTaken r0 st = settledNet r0 st.session.funding actual := by
  have htaken := h.taken
  unfold Billing.netTaken settledNet
  rw [htaken]
  cases st.session.funding with
  | subscription f =>
    simp only [FundingSource.floor, FundingSource.ledger, Rows.taken]
    omega
  | wallet | organization => simp only [FundingSource.floor]; omega

/-- **The life of a session.** After the pre-consume and any calls in which the
refunds come after the last settle, and if no rollback has failed: an open
session has taken its `preConsumedQuota`, a settled one the actual quota, and
a refunded one what the failing calls of its refund kept back. Once settled or
refunded, further calls move nothing. -/
theorem session_net_taken (quota actual : ℤ) (st : State) (ops : List Op) (hfresh : Fresh quota st)
    (horder : ops.Pairwise fun a b => a = .refund → b ≠ .settle)
    (hroll : ¬ RollbackFailed (run actual (st.preConsume quota).2 ops)) :
    let st' := run actual (st.preConsume quota).2 ops
    (st'.session.settled = false → st'.session.refunded = false →
        st'.session.fundingSettled = false ∧
          netTaken st.store.rows st' = st'.session.preConsumedQuota) ∧
      (st'.session.settled = true →
        netTaken st.store.rows st' = settledNet st.store.rows st'.session.funding actual ∧
          ∀ op, step actual st' op = st') ∧
      (st'.session.refunded = true → netTaken st.store.rows st' = keptBack st' ∧
          ∀ op, op ≠ .settle → step actual st' op = st') := by
  intro st'
  have hopen := hfresh.unused.preConsume (by rw [hfresh.session]; rfl) hfresh.nonneg
  have hinv : SessionInv st.store.rows actual st' :=
    SessionInv.run (.inl hopen) hroll horder (by simp [hopen.refunded])
  refine ⟨fun hset href => ?_, fun hset => ⟨?_, step_of_settled hset actual⟩, fun href =>
    ⟨?_, fun op hop => step_of_refunded href actual hop⟩⟩
  · rcases hinv with h | h | h
    · refine ⟨h.fundingSettled, ?_⟩
      unfold netTaken
      rw [h.taken]
      omega
    · exact absurd (h.settled.symm.trans hset) nofun
    · exact absurd (h.refunded.symm.trans href) nofun
  · rcases hinv with h | h | h
    · exact absurd (h.settled.symm.trans hset) nofun
    · exact h.netTaken
    · exact absurd (h.settled.symm.trans hset) nofun
  · rcases hinv with h | h | h
    · exact absurd (h.refunded.symm.trans href) nofun
    · exact absurd (h.refunded.symm.trans href) nofun
    · unfold netTaken
      rw [h.taken]
      omega

/-- A request of a general key in group `default`, with one subscription of 100
units of which 20 are used. -/
def sampleState (faults : List Bool) : State where
  store := {
    rows := {
      userQuota := 1000
      organization := { quota := 0, monthlyQuotaLimit := 0, usedQuota := 0 }
      subscriptions := {
        list := [{
          id := 7, billingMode := .quota, allowedGroups := [], amountTotal := 100,
          amountUsed := 20 }]
        ids_nodup := by decide
        ids_pos := by decide }
      record := none
      tokenRemain := 500 }
    faults := faults
    log := [] }
  info := {
    organizationId := 0, subscriptionKey := none, isStandaloneTool := false, isPlayground := false
    forcePreConsume := true, imageRequest := false, tokenUnlimited := false, tokenQuota := 500
    trustQuota := 0, estimateTokens := 0, billingPreference := .subscriptionOnly
    usingGroup := "default", userQuota := 1000, finalPreConsumedQuota := 0, billingSource := none
    subscriptionId := 0, subscriptionPostDelta := 0, subscriptionAllowedGroups := []
    allowedGroups := [] }
  session := .new (.subscription {
    usingGroup := "default", amount := 10, billingMode := .quota, subscriptionId := 0
    preConsumed := 0, allowedGroups := [] }) false

/-- A session that is settled for 12 after a reservation of 15. -/
theorem session_net_taken_settled :
    netTaken (sampleState []).store.rows
      (run 12 ((sampleState []).preConsume 10).2 [.reserve 15, .settle, .refund]) = 12 := by
  have hfresh : Fresh 10 (sampleState []) := ⟨rfl, ⟨rfl, rfl, rfl⟩, ⟨nofun, nofun⟩, by decide⟩
  have hlog : (run 12 ((sampleState []).preConsume 10).2
      [.reserve 15, .settle, .refund]).store.log = [] := by decide +kernel
  have h := session_net_taken 10 12 (sampleState []) [.reserve 15, .settle, .refund] hfresh
    (by decide) (by rintro ⟨δ, hδ⟩; rw [hlog] at hδ; cases hδ)
  exact (h.2.1 (by decide +kernel)).1.trans (by decide +kernel)

/-- The database fails the seventh call: the return of the extra reservation. -/
def extraFault : List Bool := [false, false, false, false, false, false, true]

/-- A refund does not always leave the funding source as it was: of the 15 units
that this session reserved, the failing call keeps 5 back. -/
theorem refund_keeps_extra_reserved :
    Fresh 10 (sampleState extraFault) ∧
      (run 0 ((sampleState extraFault).preConsume 10).2 [.reserve 15]).needsRefund = true ∧
      (run 0 ((sampleState extraFault).preConsume 10).2 [.reserve 15, .refund]).session.refunded =
        true ∧
      ¬ RollbackFailed (run 0 ((sampleState extraFault).preConsume 10).2 [.reserve 15, .refund]) ∧
      netTaken (sampleState extraFault).store.rows
        (run 0 ((sampleState extraFault).preConsume 10).2 [.reserve 15, .refund]) = 5 := by
  have hlog : (run 0 ((sampleState extraFault).preConsume 10).2
      [.reserve 15, .refund]).store.log = [.refundExtraReserved] := by decide +kernel
  refine ⟨⟨rfl, ⟨rfl, rfl, rfl⟩, ⟨nofun, nofun⟩, by decide⟩, by decide +kernel,
    by decide +kernel, ?_,
    by decide +kernel⟩
  rintro ⟨δ, hδ⟩
  rw [hlog] at hδ
  simp at hδ

end OmniRouters.Billing
