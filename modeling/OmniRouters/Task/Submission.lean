import OmniRouters.Relay.Loop

/-!
# Submission of asynchronous tasks

Models of the three handlers that submit a task and store its row: `RelayTask` and
`executeTaskSubmission` (controller/relay.go:616-869) over
`RelayTaskSubmit` (`relay/relay_task.go`), and `ImageTaskSubmit`
(`relay/image_task.go`) inside the loop of `Relay`.

Whether the insert of the row fails is an input of each handler.

* `Phase.submitLoop`: billing keeps to its phases over the retry loop.
* `unstored_free_iff`: a submission without a stored row is free of charge if and
  only if no accepted and paid submission met a failing insert.
* `insert_failure_keeps_charge`: an insert failure whose charge is kept.
-/

namespace OmniRouters.Task

open OmniRouters.Billing OmniRouters.Relay

/-! ## Rows and errors -/

/-- `TaskStatus` (model/task.go:46-54). -/
inductive TaskStatus
  | notStart
  | submitted
  | queued
  | inProgress
  | failure
  | success
  | unknown
deriving DecidableEq

/-- The columns of `model.Task` that its billing reads. -/
structure TaskRow where
  status : TaskStatus
  quota : ℤ
  organizationId : ℕ
  billingSource : Option BillingSource
  subscriptionId : ℕ
  tokenId : ℕ
deriving DecidableEq

/-- The codes of `TaskError`; those of an adaptor are left open. -/
inductive TaskErrorCode
  | setupLockedChannelFailed
  | getChannelFailed
  | readRequestBodyFailed
  | taskSubmitFailed
  | taskInsertFailed
  | billing (code : ErrorCode)
  | adaptor
deriving DecidableEq

/-- `taskdto.TaskError` without its message. -/
structure TaskError where
  code : TaskErrorCode
  statusCode : ℕ
  localError : Bool
  noRetry : Bool
deriving DecidableEq

/-- `TaskErrorWrapperLocal` (service/error.go:192-196). -/
def taskErrorWrapperLocal (code : TaskErrorCode) (statusCode : ℕ) : TaskError :=
  ⟨code, statusCode, true, false⟩

/-- `TaskErrorFromAPIError` (service/error.go:218-232). -/
def taskErrorFromAPIError (e : ErrorCode) : TaskError :=
  ⟨.billing e, billingStatusCode e, true, false⟩

/-- `TaskSubmitResult`: the final quota of an accepted submission, and the status of
a provider that answers at once. A price is never negative: `PreConsumeBilling`
refuses one, and the ratios of an adjustment are positive. -/
structure TaskSubmitResult where
  quota : ℤ
  immediate : Option TaskStatus
  quota_nonneg : 0 ≤ quota

/-! ## `RelayTaskSubmit` -/

/-- One call of `RelayTaskSubmit`: `checkError` is an error of the steps before
billing (adaptor, model mapping, validation, price), `quota` the price of the
attempt and `upstream` the way the rest ends. -/
structure SubmitAttempt where
  checkError : Option TaskError
  freeModel : Bool
  quota : ℤ
  upstream : Except TaskError TaskSubmitResult

/-- `RelayTaskSubmit` (relay_task.go:199-415): the price is reserved
before the upstream is called, in the session of an earlier attempt if there is
one. -/
def relayTaskSubmit (rq : Request) (attempt : SubmitAttempt) :
    Except TaskError TaskSubmitResult × Request :=
  match attempt.checkError with
  | some e => (.error e, rq)
  | none =>
    if rq.billing.isSome || !attempt.freeModel then
      let rq := { rq with info := { rq.info with forcePreConsume := true } }
      match preConsumeBilling rq attempt.quota with
      | (some e, rq) => (.error (taskErrorFromAPIError e), rq)
      | (none, rq) => (attempt.upstream, rq)
    else (attempt.upstream, rq)

/-! ## The retry loop -/

/-- The settings that decide about a retry of a task submission. -/
structure TaskRetryPolicy where
  retryTimes : ℤ
  specificChannel : Bool
  alwaysSkipRetryStatusCode : ℕ → Bool

/-- `shouldRetryTaskRelay` (relay.go:944-984). -/
def shouldRetryTaskRelay (policy : TaskRetryPolicy) (skipAfterAffinityFailure : Bool)
    (e : TaskError) (retryTimes : ℤ) : Bool :=
  if e.noRetry then false
  else if skipAfterAffinityFailure then false
  else if retryTimes ≤ 0 then false
  else if policy.specificChannel then false
  else if e.statusCode = 429 then true
  else if e.statusCode = 307 then true
  else if e.statusCode / 100 = 5 then !policy.alwaysSkipRetryStatusCode e.statusCode
  else if e.statusCode = 400 then false
  else if e.statusCode = 408 then false
  else if e.localError then false
  else if e.statusCode / 100 = 2 then false
  else true

/-- The steps of an iteration before the submission. -/
inductive Preparation
  | ready
  | setupLockedChannelFailed
  | getChannelFailed
  | bodyUnreadable (tooLarge : Bool)
deriving DecidableEq

/-- The errors of these steps (relay.go:666-694 and 780-805). -/
def Preparation.error : Preparation → Option TaskError
  | .ready => none
  | .setupLockedChannelFailed => some (taskErrorWrapperLocal .setupLockedChannelFailed 500)
  | .getChannelFailed => some (taskErrorWrapperLocal .getChannelFailed 500)
  | .bodyUnreadable tooLarge =>
    some (taskErrorWrapperLocal .readRequestBodyFailed (if tooLarge then 413 else 400))

/-- What an iteration meets. The channel selection may set the retry counter. -/
structure Iteration where
  setRetry : Option ℤ
  resetNextTry : Bool
  preparation : Preparation
  skipAfterAffinityFailure : Bool
  attempt : SubmitAttempt

/-- The error a submission ends with: of a task handler, or of `Relay`. -/
inductive SubmitError
  | task (e : TaskError)
  | relay (e : RelayError)
deriving DecidableEq

/-- What the loop leaves: the variables `result` and `taskErr`, and the request. -/
structure Submitted where
  result : Option TaskSubmitResult
  taskErr : Option SubmitError
  request : Request

/-- The loop that `RelayTask` and `executeTaskSubmission` share
(relay.go:663-711 and 778-819). `none` is a loop that is still running. -/
def submitLoop (policy : TaskRetryPolicy) : List Iteration → ℤ → Submitted → Option Submitted
  | [], retry, sub => if retry ≤ policy.retryTimes then none else some sub
  | it :: rest, retry, sub =>
    if policy.retryTimes < retry then some sub
    else
      let retry := it.setRetry.getD retry
      match it.preparation.error with
      | some e => some { sub with taskErr := some (.task e) }
      | none =>
        match relayTaskSubmit sub.request it.attempt with
        | (.ok result, rq) => some ⟨some result, none, rq⟩
        | (.error e, rq) =>
          if shouldRetryTaskRelay policy it.skipAfterAffinityFailure e
              (policy.retryTimes - retry) then
            submitLoop policy rest (if it.resetNextTry then retry else retry + 1)
              ⟨none, some (.task e), rq⟩
          else some ⟨none, some (.task e), rq⟩

/-! ## The image handler -/

/-- The quota that `PrepareImageBillingForRequest` computes: an expression over tokens
only keeps the quota of the start, and a quota that would be clamped is an error. -/
inductive ImagePrice
  | tokenOnly
  | invalid
  | quota (q : ℕ)

/-- One call of `ImageHelper` for an asynchronous image: an error before billing, the
price, and an error of the upstream. -/
structure ImageWork where
  helperError : Option RelayError
  price : ImagePrice
  upstreamError : Option RelayError

/-- `ImageHelper` up to the point where `ImageTaskSubmit` has its upstream task
(relay/image_handler.go:26-152, image_task.go:21-51). The
accepted quota is `PriceData.QuotaToPreConsume`. -/
def imageAttempt (quotaToPreConsume : ℕ) : Handler ImageWork (Option ℕ) := fun work st =>
  match work.helperError with
  | some e => (some e, st)
  | none =>
    match work.price with
    | .invalid => (some (billingError .modelPriceError), st)
    | .tokenOnly =>
      match work.upstreamError with
      | some e => (some e, st)
      | none => (none, { st with kept := some quotaToPreConsume })
    | .quota q =>
      match prepareImageBilling st.request q with
      | (some e, rq) => (some (billingError e), { st with request := rq })
      | (none, rq) =>
        match work.upstreamError with
        | some e => (some e, { st with request := rq })
        | none => (none, { st with request := rq, kept := some q })

/-- `Relay` around `ImageTaskSubmit`, up to the accepted submission or the last error.
A loop without an attempt does not reach `ImageTaskSubmit`. -/
def imageLoop (policy : RetryPolicy) (freeModel : Bool) (quotaToPreConsume : ℕ)
    (attempts : List (Attempt ImageWork)) (snap : Option BillingSnapshot) (groupRatio : ℚ)
    (rq : Request) : Option Submitted :=
  match startBilling rq freeModel quotaToPreConsume with
  | (some e, rq) => some ⟨none, some (.relay (billingError e)), rq⟩
  | (none, rq) =>
    match relayLoop policy (imageAttempt quotaToPreConsume) attempts 0 .notTried
        ⟨rq, snap, groupRatio, none⟩ with
    | some (.failed e, st) => some ⟨none, some (.relay e), st.request⟩
    | some (.served, st) =>
      some ⟨st.kept.map fun (q : ℕ) => ⟨q, none, Int.natCast_nonneg q⟩, none, st.request⟩
    | _ => none

/-! ## The three handlers -/

/-- What a handler answers. -/
inductive Reply
  | presented
  | failed (e : SubmitError)
  /-- A nil `result` is dereferenced; the server's recovery ends the request. -/
  | panicked
deriving DecidableEq

/-- A handler that has returned: the request, the row it stored, and its answer. -/
structure Outcome where
  request : Request
  task : Option TaskRow
  reply : Reply

/-- `InitTask` (model/task.go:235-276) and the assignments of the handlers. -/
def initTask (info : RelayInfo) (tokenId : ℕ) (result : TaskSubmitResult) : TaskRow where
  status := result.immediate.getD .notStart
  quota := result.quota
  organizationId := info.organizationId
  billingSource := info.billingSource
  subscriptionId := info.subscriptionId
  tokenId := tokenId

/-- `SettleBilling`, whose error the handlers only log. -/
def settleTask (rq : Request) (quota : ℤ) : Request :=
  match settleBilling rq quota with
  | (true, rq) => rq
  | (false, rq) => { rq with store := rq.store.sysLog .settleBilling }

/-- The end of `RelayTask` (relay.go:719-758): the charge is settled
before the row is inserted, and a failed insert is only logged. -/
def finishRelayTask (tokenId : ℕ) (insertFails : Bool) (sub : Submitted) : Outcome :=
  match sub.taskErr, sub.result with
  | some e, _ => ⟨refundBilling sub.request, none, .failed e⟩
  | none, none => ⟨sub.request, none, .panicked⟩
  | none, some result =>
    let rq := settleTask sub.request result.quota
    ⟨rq, if insertFails then none
      else some (initTask rq.info tokenId { result with immediate := none }), .presented⟩

/-- The end of `executeTaskSubmission` (relay.go:820-868): the row
is inserted before the charge is settled. The deferred refund looks at `taskErr`,
which the fresh error of a failed insert does not set. -/
def finishTaskSubmission (tokenId : ℕ) (insertFails : Bool) (sub : Submitted) : Outcome :=
  match sub.taskErr, sub.result with
  | some e, _ => ⟨refundBilling sub.request, none, .failed e⟩
  | none, none => ⟨sub.request, none, .failed (.task (taskErrorWrapperLocal .taskSubmitFailed 500))⟩
  | none, some result =>
    let task := initTask sub.request.info tokenId result
    if insertFails then
      ⟨sub.request, none, .failed (.task (taskErrorWrapperLocal .taskInsertFailed 500))⟩
    else ⟨settleTask sub.request result.quota, some task, .presented⟩

/-- The end of `ImageTaskSubmit` (image_task.go:50-81), or the deferred
refund of `Relay`. -/
def finishImageTask (tokenId : ℕ) (insertFails : Bool) (sub : Submitted) : Outcome :=
  finishRelayTask tokenId insertFails sub

/-- The three ways to submit a task. -/
inductive TaskHandler
  | relayTask
  | executeTaskSubmission
  | imageTaskSubmit
deriving DecidableEq

def TaskHandler.finish : TaskHandler → ℕ → Bool → Submitted → Outcome
  | .relayTask => finishRelayTask
  | .executeTaskSubmission => finishTaskSubmission
  | .imageTaskSubmit => finishImageTask

/-- The submission phase of the handler ends in `sub` for the request `rq`. -/
def TaskHandler.Reaches : TaskHandler → Request → Submitted → Prop
  | .relayTask, rq, sub | .executeTaskSubmission, rq, sub =>
    ∃ policy its, submitLoop policy its 0 ⟨none, none, rq⟩ = some sub
  | .imageTaskSubmit, rq, sub =>
    ∃ policy freeModel quota attempts snap groupRatio,
      imageLoop policy freeModel quota attempts snap groupRatio rq = some sub

/-! ## Billing over the submission phase -/

variable {r0 : Rows} {rq : Request} {policy : TaskRetryPolicy} {its : List Iteration}
  {sub sub' : Submitted}

theorem Phase.relayTaskSubmit (h : Phase r0 rq) (attempt : SubmitAttempt) :
    Phase r0 (relayTaskSubmit rq attempt).2 := by
  unfold Task.relayTaskSubmit
  cases attempt.checkError with
  | some e => exact h
  | none =>
    simp only
    split
    · have hp := (h.setForcePreConsume true).preConsumeBilling attempt.quota
      generalize preConsumeBilling _ attempt.quota = res at hp ⊢
      obtain ⟨e, rq'⟩ := res
      cases e with
      | some | none => exact hp
    · exact h

/-- Billing keeps to its phases over the retry loop. -/
theorem Phase.submitLoop {retry : ℤ} (h : Phase r0 sub.request)
    (hsub : submitLoop policy its retry sub = some sub') : Phase r0 sub'.request := by
  fun_induction Task.submitLoop policy its retry sub
  case case1 => cases hsub
  case case2 | case3 | case4 =>
    cases hsub
    exact h
  case case5 it _ _ _ _ _ _ _ hrelay | case7 it _ _ _ _ _ _ _ _ hrelay _ =>
    have hp := Phase.relayTaskSubmit h it.attempt
    rw [hrelay] at hp
    cases hsub
    exact hp
  case case6 it _ _ _ _ _ _ _ _ hrelay _ ih =>
    have hp := Phase.relayTaskSubmit h it.attempt
    rw [hrelay] at hp
    exact ih hp hsub

theorem submitLoop_ran {retry : ℤ} (hsub : submitLoop policy its retry sub = some sub')
    (herr : sub'.taskErr = none) (hres : sub'.result = none) : sub' = sub := by
  fun_induction submitLoop policy its retry sub
  case case1 => cases hsub
  case case2 | case3 => exact (Option.some.inj hsub).symm
  case case4 | case7 =>
    cases hsub
    cases herr
  case case5 =>
    cases hsub
    cases hres
  case case6 ih =>
    -- a loop that goes on after an error never loses it again
    rw [ih hsub] at herr
    cases herr

theorem phase_imageAttempt (quota : ℕ) (work : ImageWork) (st : LoopState (Option ℕ))
    (h : Phase r0 st.request) : Phase r0 (imageAttempt quota work st).2.request := by
  unfold imageAttempt
  cases work.helperError with
  | some e => exact h
  | none =>
    cases work.price with
    | invalid => exact h
    | tokenOnly => cases work.upstreamError <;> exact h
    | quota q =>
      have hp := h.prepareImage q
      simp only
      generalize prepareImageBilling st.request q = res at hp ⊢
      obtain ⟨e, rq⟩ := res
      cases e with
      | some e => exact hp
      | none => cases work.upstreamError <;> exact hp

theorem imageAttempt_kept {quota : ℕ} {work : ImageWork} {st st' : LoopState (Option ℕ)}
    (h : imageAttempt quota work st = (none, st')) : st'.kept ≠ none := by
  revert h
  fun_cases imageAttempt quota work st <;> rintro ⟨⟩ <;> exact nofun

theorem Phase.startBilling (h : Phase r0 rq) (freeModel : Bool) (quota : ℤ) :
    Phase r0 (startBilling rq freeModel quota).2 := by
  unfold Billing.startBilling
  split
  · exact h
  · exact h.preConsumeBilling quota

/-- The submission phase of a handler keeps to the phases of billing, and a phase
that ends without an error or a result has not begun. -/
theorem TaskHandler.Reaches.phase {handler : TaskHandler} (h : handler.Reaches rq sub)
    (hrq : Phase r0 rq) :
    Phase r0 sub.request ∧ (sub.taskErr = none → sub.result = none → sub.request = rq) := by
  have hloop : (∃ policy its, submitLoop policy its 0 ⟨none, none, rq⟩ = some sub) →
      Phase r0 sub.request ∧ (sub.taskErr = none → sub.result = none → sub.request = rq) := by
    rintro ⟨policy, its, hsub⟩
    refine ⟨Phase.submitLoop hrq hsub, fun herr hres => ?_⟩
    rw [submitLoop_ran hsub herr hres]
  cases handler with
  | relayTask | executeTaskSubmission => exact hloop h
  | imageTaskSubmit =>
    obtain ⟨policy, freeModel, quota, attempts, snap, groupRatio, hsub⟩ := h
    have hstart := Phase.startBilling hrq freeModel quota
    unfold imageLoop at hsub
    generalize Billing.startBilling rq freeModel quota = res at hstart hsub
    obtain ⟨e, rq1⟩ := res
    cases e with
    | some e =>
      cases hsub
      exact ⟨hstart, nofun⟩
    | none =>
      simp only at hsub
      cases hl : relayLoop policy (imageAttempt quota) attempts 0 .notTried
          ⟨rq1, snap, groupRatio, none⟩ with
      | none =>
        rw [hl] at hsub
        cases hsub
      | some res =>
        obtain ⟨e, st⟩ := res
        have hinv := relayLoop_inv (P := fun st => Phase r0 st.request)
          (fun attempt st => phase_beforeHandler attempt st)
          (fun w st hst _ => phase_imageAttempt quota w st hst) hstart
          (show LoopEnd.notTried ≠ .served from nofun) hl
        rw [hl] at hsub
        cases e with
        | notTried => cases hsub
        | failed e =>
          cases hsub
          rcases hinv with ⟨-, hst⟩ | ⟨he, -⟩
          · exact ⟨hst, nofun⟩
          · cases he
        | served =>
          cases hsub
          rcases hinv with ⟨he, -⟩ | ⟨-, a, -, st1, hst1, hend⟩
          · exact absurd rfl he
          have hp := phase_imageAttempt quota a.work st1 hst1
          rw [hend] at hp
          refine ⟨hp, fun _ hres => absurd ?_ (imageAttempt_kept hend)⟩
          simpa using hres

/-! ## Submissions without a stored row -/

/-- A request before billing: it has no session, no pre-consume record and nothing has
been logged for it. -/
structure Fresh (rq : Request) : Prop where
  billing : rq.billing = none
  billingSource : rq.info.billingSource = none
  finalPreConsumedQuota : rq.info.finalPreConsumedQuota = 0
  record : rq.store.rows.record = none
  log : rq.store.log = []

theorem Fresh.idle (h : Fresh rq) : Idle rq.store.rows rq where
  billing := h.billing
  billingSource := h.billingSource
  finalPreConsumedQuota := h.finalPreConsumedQuota
  record := h.record
  log := by
    rw [h.log]
    exact ⟨nofun, nofun⟩
  taken _ _ := rfl

/-- No settlement, no refund and no rollback of a reservation has failed. -/
structure Unfailed (log : List LogLine) : Prop where
  settle : .settleBilling ∉ log
  refundSource : .refundBillingSource ∉ log
  refundExtra : .refundExtraReserved ∉ log
  rollback : ∀ δ, .rollbackFundingReserve δ ∉ log

/-- The outcome has taken nothing from any funding source, relative to the rows `r0`. -/
def Outcome.FreeOfCharge (r0 : Rows) (out : Outcome) : Prop :=
  ∀ l, l ≠ .token → out.request.store.rows.taken l = r0.taken l

/-- What a handler has taken at the time it inserts the row: `RelayTask` and
`ImageTaskSubmit` have settled the charge, `executeTaskSubmission` still holds the
reservation. -/
def TaskHandler.chargeAtInsert (handler : TaskHandler) (sub : Submitted) : ℤ :=
  match handler, sub.result with
  | _, none => 0
  | .executeTaskSubmission, some _ => sub.request.reserved
  | _, some result => result.quota

theorem settleTask_ok {quota : ℤ} (h : .settleBilling ∉ (settleTask rq quota).store.log) :
    (settleBilling rq quota).1 = true ∧ settleTask rq quota = (settleBilling rq quota).2 := by
  revert h
  unfold settleTask
  generalize settleBilling rq quota = res
  obtain ⟨ok, rq'⟩ := res
  cases ok with
  | true => exact fun _ => ⟨rfl, rfl⟩
  | false => exact fun h => absurd List.mem_cons_self h

theorem Request.fundingLedger_ne_token (rq : Request) : rq.fundingLedger ≠ .token := by
  unfold Request.fundingLedger
  cases rq.billing with
  | none => exact rq.directLedger_ne_token
  | some session => exact session.funding.ledger_ne_token

/-- A submission that has been settled is free of charge if its quota is zero. -/
theorem settled_free_iff {result : TaskSubmitResult} (h : Phase r0 rq)
    (hlog : Unfailed (settleTask rq result.quota).store.log) :
    (∀ l, l ≠ .token → (settleTask rq result.quota).store.rows.taken l = r0.taken l) ↔
      result.quota = 0 := by
  obtain ⟨hok, heq⟩ := settleTask_ok hlog.settle
  rw [heq] at hlog ⊢
  obtain ⟨htaken, hspares⟩ := h.settle result.quota_nonneg hok hlog.rollback
  have hL := Request.fundingLedger_ne_token rq
  constructor
  · intro hfree
    have := hfree _ hL
    omega
  · intro hzero l hl
    by_cases hl' : l = rq.fundingLedger
    · rw [hl', htaken, hzero, add_zero]
    · exact hspares l hl' hl

/-- A submission that has not been settled is free of charge if nothing is reserved. -/
theorem unsettled_free_iff (h : Phase r0 rq)
    (hlog : ∀ δ, .rollbackFundingReserve δ ∉ rq.store.log) :
    (∀ l, l ≠ .token → rq.store.rows.taken l = r0.taken l) ↔ rq.reserved = 0 := by
  unfold Request.reserved
  rcases h with h | ⟨session, h⟩ | ⟨-, δ, hδ⟩
  · rw [h.billing]
    exact iff_of_true h.taken h.finalPreConsumedQuota
  · have htaken := h.isOpen.taken
    simp only [Request.state] at htaken
    rw [h.billing]
    constructor
    · intro hfree
      have := hfree _ session.funding.ledger_ne_token
      simp only
      omega
    · intro hzero l hl
      simp only at hzero
      by_cases hl' : l = session.funding.ledger
      · rw [hl', htaken, hzero, add_zero]
      · exact h.spares l hl' hl
  · exact absurd hδ (hlog δ)

/-- **Submissions without a stored row.** If no settlement or refund fails, a
submission that has returned without a stored row is free of charge if and only
if the insert did not fail, or there was nothing to insert, or nothing had been
taken when it failed. -/
theorem unstored_free_iff (handler : TaskHandler) (rq : Request) (sub : Submitted)
    (tokenId : ℕ) (insertFails : Bool) (hrq : Fresh rq) (hreach : handler.Reaches rq sub)
    (hlog : Unfailed (handler.finish tokenId insertFails sub).request.store.log) :
    ((handler.finish tokenId insertFails sub).task = none →
        (handler.finish tokenId insertFails sub).FreeOfCharge rq.store.rows) ↔
      (insertFails = true → sub.taskErr = none → handler.chargeAtInsert sub = 0) := by
  obtain ⟨hphase, hidle⟩ := hreach.phase (Or.inl hrq.idle)
  unfold Outcome.FreeOfCharge
  cases herr : sub.taskErr with
  | some e =>
    -- the deferred refund gives everything back
    have hfinish :
        (handler.finish tokenId insertFails sub).request = refundBilling sub.request := by
      cases handler <;>
        simp only [TaskHandler.finish, finishRelayTask, finishTaskSubmission, finishImageTask, herr]
    rw [hfinish] at hlog ⊢
    exact iff_of_true (fun _ l hl => hphase.refund ⟨hlog.refundSource, hlog.refundExtra⟩
      hlog.rollback hl) nofun
  | none =>
    cases hres : sub.result with
    | none =>
      have hfinish : (handler.finish tokenId insertFails sub).request = sub.request := by
        cases handler <;>
          simp only [TaskHandler.finish, finishRelayTask, finishTaskSubmission, finishImageTask,
            herr, hres]
      rw [hfinish, hidle herr hres]
      refine iff_of_true (fun _ _ _ => rfl) fun _ _ => ?_
      unfold TaskHandler.chargeAtInsert
      rw [hres]
    | some result =>
      have hsettle : ∀ h : TaskHandler, h ≠ .executeTaskSubmission →
          h.finish tokenId insertFails sub = finishRelayTask tokenId insertFails sub ∧
            h.chargeAtInsert sub = result.quota := by
        intro h hh
        cases h with
        | executeTaskSubmission => exact absurd rfl hh
        | _ => simp only [TaskHandler.finish, finishImageTask, TaskHandler.chargeAtInsert, hres,
            and_self]
      by_cases hexec : handler = .executeTaskSubmission
      · subst hexec
        simp only [TaskHandler.finish, finishTaskSubmission, herr, hres,
          TaskHandler.chargeAtInsert] at hlog ⊢
        cases insertFails with
        | false => exact iff_of_true nofun nofun
        | true =>
          simp only [if_true, forall_const] at hlog ⊢
          exact unsettled_free_iff hphase hlog.rollback
      · obtain ⟨hfinish, hcharge⟩ := hsettle handler hexec
        rw [hfinish] at hlog
        rw [hfinish, hcharge]
        simp only [finishRelayTask, herr, hres] at hlog ⊢
        cases insertFails with
        | false => exact iff_of_true nofun nofun
        | true =>
          simp only [if_true, forall_const]
          exact settled_free_iff hphase hlog

/-- A submission priced at 40 units, without retries. -/
def submitOnce (upstream : Except TaskError TaskSubmitResult) : Option Submitted :=
  submitLoop ⟨0, false, fun _ => false⟩
    [{ setRetry := none, resetNextTry := false, preparation := .ready,
       skipAfterAffinityFailure := false,
       attempt := { checkError := none, freeModel := false, quota := 40, upstream := upstream } }]
    0 ⟨none, none, walletRequest⟩

variable (upstream : Except TaskError TaskSubmitResult)

theorem submitOnce_isSome :
    (submitOnce upstream).isSome = true := by
  cases upstream with
  | ok result => rfl
  | error e =>
    obtain ⟨code, statusCode, localError, noRetry⟩ := e
    cases noRetry <;> rfl

/-- What that submission leaves. -/
def submittedOnce (upstream : Except TaskError TaskSubmitResult) : Submitted :=
  (submitOnce upstream).get (submitOnce_isSome upstream)

theorem submittedOnce_eq :
    submitOnce upstream = some (submittedOnce upstream) :=
  (Option.some_get _).symm

theorem walletRequest_fresh : Fresh walletRequest := ⟨rfl, rfl, rfl, rfl, rfl⟩

/-- A submission that the upstream refuses is given back, whatever the insert would
have done. -/
theorem refused_submission_free :
    (TaskHandler.relayTask.finish 1 true
      (submittedOnce (.error ⟨.adaptor, 500, false, false⟩))).FreeOfCharge
        walletRequest.store.rows := by
  have hlog : (TaskHandler.relayTask.finish 1 true
      (submittedOnce (.error ⟨.adaptor, 500, false, false⟩))).request.store.log = [] := by
    decide +kernel
  exact (unstored_free_iff .relayTask walletRequest _ 1 true walletRequest_fresh
    ⟨_, _, submittedOnce_eq _⟩ (by rw [hlog]; exact ⟨nofun, nofun, nofun, nofun⟩)).2
    (fun _ herr => absurd herr (by decide +kernel)) (by decide +kernel)

/-- An accepted submission of 40 units whose insert fails: neither handler stores a
row, and each keeps the 40 units. -/
theorem insert_failure_keeps_charge :
    (let out := TaskHandler.executeTaskSubmission.finish 1 true
      (submittedOnce (.ok ⟨40, none, by decide⟩))
     out.task = none ∧ out.request.store.log = [] ∧
      out.request.store.rows.taken .wallet = walletRequest.store.rows.taken .wallet + 40) ∧
    (let out := TaskHandler.relayTask.finish 1 true (submittedOnce (.ok ⟨40, none, by decide⟩))
     out.task = none ∧ out.request.store.log = [] ∧
      out.request.store.rows.taken .wallet = walletRequest.store.rows.taken .wallet + 40) := by
  refine ⟨⟨?_, ?_, ?_⟩, ⟨?_, ?_, ?_⟩⟩ <;> decide +kernel

end OmniRouters.Task
