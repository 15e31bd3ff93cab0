import OmniRouters.Billing.Adjust
import OmniRouters.Task.Submission

/-!
# The charge of a stored task

A model of the adjustments that `service/task_billing.go` makes for a stored task, after one
of the three handlers has submitted it.

* `TaskLife.Balanced.steps`: recalculations and refunds keep what was taken for a task equal
  to the quota in its row, whichever of their calls fail.
* `stored_quota_iff`: the two agree over the whole life of a task if and only if the final
  settlement could make its adjustment.
* `settle_failure_keeps_quota`: a settlement that fails, and the refund that then returns
  more than was taken.
-/

namespace OmniRouters.Task

open OmniRouters.Billing

/-! ## Adjustments of a stored task -/

/-- `taskIsOrganization` (lines 116-118). -/
def TaskRow.isOrganization (task : TaskRow) : Bool :=
  0 < task.organizationId || task.billingSource == some .organization

/-- `taskIsSubscription` (lines 112-114). -/
def TaskRow.isSubscription (task : TaskRow) : Bool :=
  task.billingSource == some .subscription && 0 < task.subscriptionId

/-- `taskAdjustFunding` (lines 121-136). -/
def taskAdjustFunding (s : Store) (task : TaskRow) (delta : ℤ) : Bool × Store :=
  if task.isOrganization then
    if task.organizationId = 0 then (false, s) else adjustOrganizationQuota s delta
  else if task.isSubscription then
    postConsumeUserSubscriptionDelta s task.subscriptionId delta
  else if 0 < delta then decreaseUserQuota s delta
  else increaseUserQuota s (-delta)

/-- `taskAdjustTokenQuota` (lines 140-158): the key of the token is
read first, and no error is returned. -/
def taskAdjustTokenQuota (s : Store) (task : TaskRow) (delta : ℤ) : Store :=
  if task.tokenId = 0 ∨ delta = 0 then s
  else if s.down then s.next
  else if 0 < delta then (decreaseTokenQuota s.next delta).2
  else (increaseTokenQuota s.next (-delta)).2

/-- The database and the row of one task. -/
structure TaskLife where
  store : Store
  task : TaskRow

/-- `RefundTaskQuota` (lines 237-287), whose write of the quota
column succeeds. -/
def refundTaskQuota (life : TaskLife) : TaskLife :=
  if life.task.quota = 0 then life
  else
    match taskAdjustFunding life.store life.task (-life.task.quota) with
    | (false, s) => { life with store := s }
    | (true, s) =>
      { store := taskAdjustTokenQuota s life.task (-life.task.quota)
        task := { life.task with quota := 0 } }

/-- `RecalculateTaskQuota` (lines 293-357), whose write of the
quota column succeeds. -/
def recalculateTaskQuota (life : TaskLife) (actualQuota : ℤ) : TaskLife :=
  if actualQuota < 0 then life
  else
    let quotaDelta := actualQuota - life.task.quota
    if quotaDelta = 0 then life
    else
      match taskAdjustFunding life.store life.task quotaDelta with
      | (false, s) => { life with store := s }
      | (true, s) =>
        { store := taskAdjustTokenQuota s life.task quotaDelta
          task := { life.task with quota := actualQuota } }

/-- What can happen to a stored task. -/
inductive CompletionStep
  | recalculate (actualQuota : ℤ)
  | refund
deriving DecidableEq

def TaskLife.step (life : TaskLife) : CompletionStep → TaskLife
  | .recalculate actualQuota => recalculateTaskQuota life actualQuota
  | .refund => refundTaskQuota life

def TaskLife.steps (life : TaskLife) (steps : List CompletionStep) : TaskLife :=
  steps.foldl TaskLife.step life

/-! ## The balance of a task -/

/-- The ledger `taskAdjustFunding` changes. -/
def TaskRow.ledger (task : TaskRow) : Ledger :=
  if task.isOrganization then .organization
  else if task.isSubscription then .subscription task.subscriptionId
  else .wallet

theorem TaskRow.ledger_ne_token (task : TaskRow) : task.ledger ≠ .token := by
  unfold TaskRow.ledger
  split_ifs <;> nofun

theorem taskAdjustFunding_eq (s : Store) {task : TaskRow} (delta : ℤ)
    (horg : task.isOrganization = true → 0 < task.organizationId) :
    taskAdjustFunding s task delta = adjustLedger s task.ledger delta := by
  unfold taskAdjustFunding TaskRow.ledger
  split
  next h =>
    rw [if_neg (by have := horg h; omega)]
    rfl
  · split <;> rfl

theorem taskAdjustTokenQuota_taken (s : Store) (task : TaskRow) (delta : ℤ) {l : Ledger}
    (hl : l ≠ .token) : (taskAdjustTokenQuota s task delta).rows.taken l = s.rows.taken l := by
  unfold taskAdjustTokenQuota
  split_ifs
  · rfl
  · rfl
  · exact (decreaseTokenQuota_takes _ _).applies.other hl
  · exact (increaseTokenQuota_takes _ _).applies.other hl

/-- What has been taken for the task since the rows `r0` is the quota of its row, from the
task's own funding source and no other. -/
structure TaskLife.Balanced (r0 : Rows) (life : TaskLife) : Prop where
  taken : life.store.rows.taken life.task.ledger = r0.taken life.task.ledger + life.task.quota
  spares : Spares life.task.ledger r0 life.store.rows
  nonneg : 0 ≤ life.task.quota

section Steps

variable {r0 : Rows} {life : TaskLife}

/-- One adjustment of a balanced task to the quota `actual`. -/
theorem TaskLife.Balanced.adjust (h : life.Balanced r0)
    (horg : life.task.isOrganization = true → 0 < life.task.organizationId) {actual : ℤ}
    (hactual : 0 ≤ actual) :
    TaskLife.Balanced r0
      (match taskAdjustFunding life.store life.task (actual - life.task.quota) with
        | (false, s) => { life with store := s }
        | (true, s) =>
          { store := taskAdjustTokenQuota s life.task (actual - life.task.quota)
            task := { life.task with quota := actual } }) := by
  have hL := life.task.ledger_ne_token
  have happ := adjustLedger_applies life.store (actual - life.task.quota) hL fun id hid => by
    have htaken := h.taken
    rw [hid] at htaken ⊢
    have hused : 0 ≤ r0.taken (.subscription id) := Int.natCast_nonneg _
    omega
  rw [taskAdjustFunding_eq _ _ horg]
  generalize adjustLedger life.store life.task.ledger (actual - life.task.quota) = res at happ ⊢
  obtain ⟨ok, s⟩ := res
  cases ok with
  | false =>
    have hrows : s.rows = life.store.rows := happ.eq
    refine ⟨?_, ?_, h.nonneg⟩
    · rw [hrows]
      exact h.taken
    · rw [hrows]
      exact h.spares
  | true =>
    have hmove := happ.moves.taken
    have htoken := fun (l : Ledger) (hl : l ≠ .token) =>
      taskAdjustTokenQuota_taken s life.task (actual - life.task.quota) hl
    refine ⟨?_, fun l hl ht => ?_, hactual⟩
    · show (taskAdjustTokenQuota s life.task (actual - life.task.quota)).rows.taken
        life.task.ledger = r0.taken life.task.ledger + actual
      rw [htoken _ hL, hmove, h.taken]
      omega
    · rw [htoken l ht]
      exact (happ.other hl).trans (h.spares l hl ht)

theorem TaskLife.step_organization (life : TaskLife) (step : CompletionStep) :
    (life.step step).task.isOrganization = life.task.isOrganization ∧
      (life.step step).task.organizationId = life.task.organizationId := by
  cases step with
  | recalculate actualQuota =>
    simp only [TaskLife.step, recalculateTaskQuota]
    split_ifs
    · exact ⟨rfl, rfl⟩
    · exact ⟨rfl, rfl⟩
    · split <;> exact ⟨rfl, rfl⟩
  | refund =>
    simp only [TaskLife.step, refundTaskQuota]
    split_ifs
    · exact ⟨rfl, rfl⟩
    · split <;> exact ⟨rfl, rfl⟩

section

variable (h : life.Balanced r0)
  (horg : life.task.isOrganization = true → 0 < life.task.organizationId)

include h horg

theorem TaskLife.Balanced.step (step : CompletionStep) : (life.step step).Balanced r0 := by
  cases step with
  | recalculate actualQuota =>
    simp only [TaskLife.step, recalculateTaskQuota]
    split_ifs with hneg hzero
    · exact h
    · exact h
    · exact h.adjust horg (not_lt.1 hneg)
  | refund =>
    simp only [TaskLife.step, refundTaskQuota]
    split_ifs with hzero
    · exact h
    · have hrefund := h.adjust horg le_rfl
      rwa [zero_sub] at hrefund

/-- Whatever happens to a balanced task and whichever calls fail, it stays balanced. -/
theorem TaskLife.Balanced.steps (steps : List CompletionStep) : (life.steps steps).Balanced r0 := by
  induction steps generalizing life with
  | nil => exact h
  | cons step rest ih =>
    obtain ⟨hsame, hid⟩ := life.step_organization step
    refine ih (h.step horg step) ?_
    rw [hsame, hid]
    exact horg

end

end Steps

/-! ## The row a handler stores -/

theorem initTask_ledger {r0 : Rows} {rq : Request} {info : RelayInfo} (h : Phase r0 rq)
    (hlog : ∀ δ, .rollbackFundingReserve δ ∉ rq.store.log) (hinfo : rq.info.SameFunding info)
    (tokenId : ℕ) (result : TaskSubmitResult) :
    (initTask info tokenId result).ledger = rq.fundingLedger ∧
      ((initTask info tokenId result).isOrganization = true →
        0 < (initTask info tokenId result).organizationId) := by
  obtain ⟨horg, hsource, hid⟩ := hinfo
  unfold TaskRow.ledger TaskRow.isOrganization TaskRow.isSubscription Request.fundingLedger
  simp only [initTask, horg, hsource, hid]
  rcases h with h | ⟨session, h⟩ | ⟨-, δ, hδ⟩
  · rw [h.billing, h.billingSource]
    unfold Request.directLedger
    rw [h.billingSource]
    by_cases hpos : 0 < rq.info.organizationId <;> simp [hpos]
  · have hfunded := h.fundedBy
    rw [h.billing, h.billingSource]
    cases hfs : session.funding with
    | wallet f =>
      rw [hfs] at hfunded
      have hnot : ¬ 0 < rq.info.organizationId := fun hp => by cases hfunded.2 hp
      simp [FundingSource.source, FundingSource.ledger, hfs, hnot]
    | organization f =>
      rw [hfs] at hfunded
      have hpos : 0 < rq.info.organizationId := hfunded.1 rfl
      simp [FundingSource.ledger, hfs, hpos]
    | subscription f =>
      rw [hfs] at hfunded
      obtain ⟨hsub, hpos⟩ := h.subscriptionId f hfs
      have hnot : ¬ 0 < rq.info.organizationId := fun hp => by cases hfunded.2 hp
      simp [FundingSource.source, FundingSource.ledger, hfs, hsub, hpos, hnot]
  · exact absurd hδ (hlog δ)

theorem settleTask_frame (rq : Request) (quota : ℤ) :
    (settleTask rq quota).store.rows = (settleBilling rq quota).2.store.rows ∧
      (settleTask rq quota).info = (settleBilling rq quota).2.info := by
  unfold settleTask
  generalize settleBilling rq quota = res
  obtain ⟨ok, rq'⟩ := res
  cases ok <;> exact ⟨rfl, rfl⟩

/-- The life of a task that a handler has stored. -/
def Outcome.life (out : Outcome) : Option TaskLife :=
  out.task.map fun task => ⟨out.request.store, task⟩

theorem TaskHandler.finish_life (handler : TaskHandler) (tokenId : ℕ) {sub : Submitted}
    {result : TaskSubmitResult} (herr : sub.taskErr = none) (hres : sub.result = some result) :
    ∃ info stored, (info = sub.request.info ∨
        info = (settleTask sub.request result.quota).info) ∧ stored.quota = result.quota ∧
      (handler.finish tokenId false sub).life =
        some ⟨(settleTask sub.request result.quota).store, initTask info tokenId stored⟩ := by
  cases handler with
  | executeTaskSubmission =>
    refine ⟨_, result, .inl rfl, rfl, ?_⟩
    simp [TaskHandler.finish, finishTaskSubmission, herr, hres, Outcome.life]
  | relayTask =>
    refine ⟨_, { result with immediate := none }, .inr rfl, rfl, ?_⟩
    simp [TaskHandler.finish, finishRelayTask, herr, hres, Outcome.life]
  | imageTaskSubmit =>
    refine ⟨_, { result with immediate := none }, .inr rfl, rfl, ?_⟩
    simp [TaskHandler.finish, finishImageTask, finishRelayTask, herr, hres, Outcome.life]

/-- **The charge of a stored task.** Over every history of recalculations and refunds, what
was taken for a stored task is the quota in its row, if and only if the final settlement
of its submission could make its adjustment of the funding source: nothing was left to
adjust, or the call reached the database and the source admitted it. -/
theorem stored_quota_iff (handler : TaskHandler) (rq : Request) (sub : Submitted) (tokenId : ℕ)
    (result : TaskSubmitResult) (life : TaskLife) (hrq : Fresh rq)
    (hreach : handler.Reaches rq sub)
    (hlog : ∀ δ, .rollbackFundingReserve δ ∉ sub.request.store.log)
    (herr : sub.taskErr = none) (hres : sub.result = some result)
    (hlife : (handler.finish tokenId false sub).life = some life) :
    (∀ steps, (life.steps steps).Balanced rq.store.rows) ↔
      sub.request.store.Adjusts sub.request.fundingLedger
        (result.quota - sub.request.reserved) := by
  have hphase := (hreach.phase (Or.inl hrq.idle)).1
  have hout := hphase.settle_outcome hlog result.quota_nonneg
  obtain ⟨hrows, hsettled⟩ := settleTask_frame sub.request result.quota
  obtain ⟨info, stored, hinfo, hquota, hfinish⟩ := handler.finish_life tokenId herr hres
  have hsame : sub.request.info.SameFunding info := by
    rcases hinfo with rfl | rfl
    · exact ⟨rfl, rfl, rfl⟩
    · rw [hsettled]
      exact hout.info
  obtain ⟨hledger, horg⟩ := initTask_ledger hphase hlog hsame tokenId stored
  obtain rfl : _ = life := Option.some.inj (hfinish.symm.trans hlife)
  constructor
  · intro hall
    by_contra hmissed
    have hbalance := (hall []).taken
    simp only [TaskLife.steps, List.foldl_nil, hledger, hrows] at hbalance
    rw [hout.missed hmissed] at hbalance
    -- the row says what the settlement would have taken
    have hreserved : sub.request.reserved = result.quota := by
      have hrow : (initTask info tokenId stored).quota = result.quota := hquota
      omega
    exact hmissed (.inl (by omega))
  · intro hmade
    have hbalanced : TaskLife.Balanced rq.store.rows
        ⟨(settleTask sub.request result.quota).store, initTask info tokenId stored⟩ := by
      refine ⟨?_, ?_, ?_⟩
      · simp only [hledger, hrows, hout.made hmade]
        exact congrArg _ hquota.symm
      · simp only [hledger, hrows]
        exact hout.spares
      · exact result.quota_nonneg.trans_eq hquota.symm
    exact fun steps => hbalanced.steps horg steps

/-- A submission of 40 units that is settled for 40 stays balanced for ever. -/
theorem settled_submission_balanced :
    ∃ life, (TaskHandler.relayTask.finish 1 false
        (submittedOnce (.ok ⟨40, none, by decide⟩))).life = some life ∧
      ∀ steps, (life.steps steps).Balanced walletRequest.store.rows := by
  obtain ⟨life, hlife⟩ := Option.isSome_iff_exists.1
    (show (TaskHandler.relayTask.finish 1 false
      (submittedOnce (.ok ⟨40, none, by decide⟩))).life.isSome = true by decide +kernel)
  have hlog : (submittedOnce (.ok ⟨40, none, by decide⟩)).request.store.log = [] := by
    decide +kernel
  refine ⟨life, hlife, ?_⟩
  refine (stored_quota_iff .relayTask walletRequest _ 1 ⟨40, none, by decide⟩ life
    walletRequest_fresh ⟨_, _, submittedOnce_eq _⟩ (fun δ => ?_) (by decide +kernel)
    rfl hlife).2 (.inl (by decide +kernel))
  exact nofun

/-- A user who pays from a subscription of 80 units, 30 of them used. -/
def subscriptionRequest : Request :=
  { walletRequest with
    store := { walletRequest.store with
      rows := { walletRequest.store.rows with
        subscriptions := {
          list := [⟨1, .quota, [], 80, 30⟩], ids_nodup := by decide, ids_pos := by decide } } }
    info := { walletRequest.info with billingPreference := .subscriptionOnly } }

/-- A submission priced at 40 units whose final quota is 60. -/
def overrunSubmission : Option Submitted :=
  submitLoop ⟨0, false, fun _ => false⟩
    [{ setRetry := none, resetNextTry := false, preparation := .ready,
       skipAfterAffinityFailure := false,
       attempt := {
        checkError := none, freeModel := false, quota := 40
        upstream := .ok ⟨60, none, by decide⟩ } }]
    0 ⟨none, none, subscriptionRequest⟩

/-- What the submission has stored. -/
def overrunLife : Option TaskLife :=
  overrunSubmission.bind fun sub => (TaskHandler.relayTask.finish 1 false sub).life

/-- The settlement of 60 exceeds the subscription: only 40 are taken, the row says 60, and
the refund of the row returns 20 more than was taken. -/
theorem settle_failure_keeps_quota :
    ∃ sub life, TaskHandler.relayTask.Reaches subscriptionRequest sub ∧
      (TaskHandler.relayTask.finish 1 false sub).life = some life ∧
      life.task.quota = 60 ∧ life.store.rows.taken life.task.ledger =
        subscriptionRequest.store.rows.taken life.task.ledger + 40 ∧
      (life.steps [.refund]).store.rows.taken life.task.ledger =
        subscriptionRequest.store.rows.taken life.task.ledger - 20 := by
  obtain ⟨life, hlife, heval⟩ : ∃ life ∈ overrunLife, life.task.quota = 60 ∧
      life.store.rows.taken life.task.ledger =
        subscriptionRequest.store.rows.taken life.task.ledger + 40 ∧
      (life.steps [.refund]).store.rows.taken life.task.ledger =
        subscriptionRequest.store.rows.taken life.task.ledger - 20 := by
    decide +kernel
  obtain ⟨sub, hsub, hfinish⟩ := Option.bind_eq_some_iff.1 hlife
  exact ⟨sub, life, ⟨_, _, hsub⟩, hfinish, heval⟩

end OmniRouters.Task
