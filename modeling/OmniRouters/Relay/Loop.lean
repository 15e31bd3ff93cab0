import OmniRouters.Billing.Tiered

/-!
# The retry loop of a relayed request

A model of `Relay` (controller/relay.go:181-292) around the handler of one
attempt: billing starts with the price of the first group, every attempt brings
the reservation up to the price of its own group, and a request that fails is
refunded.

The channel that is tried, the group it is selected from and the way an attempt
ends are inputs, one `Attempt` per iteration. The handler is a parameter: the text
handlers settle the request, the image handler may submit a task.

* `relayLoop_ready`, `relayLoop_inv`: what holds of a request through its failing
  attempts, and what the attempt that serves it starts from.
* `phase_beforeHandler`: billing keeps to its phases until the handler runs.
-/

namespace OmniRouters.Relay

open OmniRouters.Billing

/-! ## Errors and retries -/

/-- The error codes of `types.NewAPIError` that the loop itself produces; those of
a handler are left open. -/
inductive ErrorKind
  | getChannelFailed
  | readRequestBodyFailed
  | subscriptionGroupNotAllowed
  | billing (code : ErrorCode)
  | handler
deriving DecidableEq

/-- What `Relay` reads of a `types.NewAPIError`. `channelError` is `IsChannelError`. -/
structure RelayError where
  kind : ErrorKind
  statusCode : ℕ
  skipRetry : Bool
  channelError : Bool
deriving DecidableEq

def billingStatusCode : ErrorCode → ℕ
  | .insufficientUserQuota | .preConsumeTokenQuotaFailed => 403
  | .modelPriceError => 400
  | .updateDataError | .queryDataError | .invalidRequest => 500

/-- A billing error is never retried. -/
def billingError (e : ErrorCode) : RelayError := ⟨.billing e, billingStatusCode e, true, false⟩

/-- The error of a request body that cannot be read, or is too large. -/
def bodyError (tooLarge : Bool) : RelayError :=
  ⟨.readRequestBodyFailed, if tooLarge then 413 else 400, true, false⟩

/-- The settings that decide about a retry: `common.RetryTimes`, whether the request
names its channel, and the tables of `operation_setting`. -/
structure RetryPolicy where
  retryTimes : ℤ
  specificChannel : Bool
  alwaysSkipRetryCode : RelayError → Bool
  shouldRetryByStatusCode : ℕ → Bool

/-- `shouldRetry` (relay.go:426-456). -/
def shouldRetry (policy : RetryPolicy) (skipAfterAffinityFailure : Bool) (e : RelayError)
    (retryTimes : ℤ) : Bool :=
  if skipAfterAffinityFailure then false
  else if e.channelError then true
  else if e.skipRetry then false
  else if retryTimes ≤ 0 then false
  else if policy.specificChannel then false
  else if 200 ≤ e.statusCode ∧ e.statusCode < 300 then false
  else if e.statusCode < 100 ∨ 599 < e.statusCode then true
  else if policy.alwaysSkipRetryCode e then false
  else policy.shouldRetryByStatusCode e.statusCode

/-! ## The loop -/

/-- The group that an attempt uses and the ratio that `HandleGroupRatio` gives for
it. -/
structure GroupChoice where
  group : String
  groupRatio : ℚ

/-- What an iteration meets. `select` is what `getChannel` returns: on the first
attempt the channel of the context, which leaves the group alone. `bodyTooLarge`
is set if the body cannot be read. -/
structure Attempt (α : Type) where
  select : Except RelayError (Option GroupChoice)
  setRetry : Option ℤ
  resetNextTry : Bool
  bodyTooLarge : Option Bool
  skipAfterAffinityFailure : Bool
  work : α

/-- The state of the loop: the request, the snapshot of an expression price,
`PriceData.GroupRatioInfo.GroupRatio`, and what the handler keeps. -/
structure LoopState (σ : Type) where
  request : Request
  snap : Option BillingSnapshot
  groupRatio : ℚ
  kept : σ

section Loop

variable {α σ : Type}

/-- How the loop ends. -/
inductive LoopEnd
  /-- An attempt served the request. -/
  | served
  /-- The last error. -/
  | failed (e : RelayError)
  /-- `RetryTimes` is negative: there was no attempt. -/
  | notTried
deriving DecidableEq

/-- The group that `getChannel` leaves in the request. -/
def LoopState.choose (st : LoopState σ) : Option GroupChoice → LoopState σ
  | none => st
  | some choice =>
    { st with
      request := { st.request with info := { st.request.info with usingGroup := choice.group } }
      groupRatio := choice.groupRatio }

/-- `SubscriptionGroupAllowedForContext` (service/group.go:208-223). -/
def RelayInfo.subscriptionGroupAllowed (info : RelayInfo) : Bool :=
  info.allowedGroups.isEmpty || info.allowedGroups.contains info.usingGroup

/-- The steps of an iteration before the handler
(relay.go:230-262): the selected group must be allowed, and its price reserved. -/
def beforeHandler (attempt : Attempt α) (st : LoopState σ) : Option RelayError × LoopState σ :=
  match attempt.select with
  | .error e => (some e, st)
  | .ok choice =>
    let st := st.choose choice
    if RelayInfo.subscriptionGroupAllowed st.request.info = false then
      (some ⟨.subscriptionGroupNotAllowed, 403, true, false⟩, st)
    else
      match prepareTieredBillingForSelectedGroup st.snap st.groupRatio st.request with
      | (some e, snap, rq) =>
        (some (billingError e), { st with request := rq, snap := snap })
      | (none, snap, rq) =>
        (attempt.bodyTooLarge.map bodyError, { st with request := rq, snap := snap })

/-- What a handler makes of one attempt. -/
abbrev Handler (α σ : Type) := α → LoopState σ → Option RelayError × LoopState σ

/-- The loop (relay.go:227-288). An error before the handler ends
it, one of the handler may be retried. `none` is a loop that is still running. -/
def relayLoop (policy : RetryPolicy) (handler : Handler α σ) :
    List (Attempt α) → ℤ → LoopEnd → LoopState σ → Option (LoopEnd × LoopState σ)
  | [], retry, last, st => if retry ≤ policy.retryTimes then none else some (last, st)
  | attempt :: rest, retry, last, st =>
    if policy.retryTimes < retry then some (last, st)
    else
      let retry := attempt.setRetry.getD retry
      match beforeHandler attempt st with
      | (some e, st) => some (.failed e, st)
      | (none, st) =>
        match handler attempt.work st with
        | (none, st) => some (.served, st)
        | (some e, st) =>
          if shouldRetry policy attempt.skipAfterAffinityFailure e (policy.retryTimes - retry) then
            relayLoop policy handler rest (if attempt.resetNextTry then retry else retry + 1)
              (.failed e) st
          else some (.failed e, st)

/-- `Relay` after the price is known (relay.go:187-292): the start
of billing, the loop, and the deferred refund of a request that failed. The
start's own error returns before the refund is deferred. Violation fees are no
part of the model. -/
def relay (policy : RetryPolicy) (handler : Handler α σ) (freeModel : Bool)
    (preConsumeQuota : ℤ) (attempts : List (Attempt α)) (st : LoopState σ) :
    Option (LoopEnd × LoopState σ) :=
  match startBilling st.request freeModel preConsumeQuota with
  | (some e, rq) => some (.failed (billingError e), { st with request := rq })
  | (none, rq) =>
    match relayLoop policy handler attempts 0 .notTried { st with request := rq } with
    | none => none
    | some (.failed e, st) =>
      some (.failed e, { st with request := refundBilling st.request })
    | some (end_, st) => some (end_, st)

/-! ## Invariants -/

variable {policy : RetryPolicy} {handler : Handler α σ} {P : LoopState σ → Prop}
  {attempts : List (Attempt α)} {st st' : LoopState σ} {e : LoopEnd} {r0 : Rows}

section

variable (hbefore : ∀ (attempt : Attempt α) st, P st → P (beforeHandler attempt st).2)
  (hhandler : ∀ w st, P st → (handler w st).1 ≠ none → P (handler w st).2) {retry : ℤ}
  {last : LoopEnd} (hst : P st) (hlast : last ≠ .served)
  (h : relayLoop policy handler attempts retry last st = some (e, st'))

include hbefore hhandler hst hlast h

/-- **The loop rule.** A property `P` of the loop's state that the steps before the handler
keep, and the handler too when it fails, holds when the loop ends, up to the attempt
that serves the request. The handler of that attempt also finds what the steps before it
have made ready. -/
theorem relayLoop_ready {Q : LoopState σ → Prop}
    (hready : ∀ (attempt : Attempt α) st, P st → (beforeHandler attempt st).1 = none →
      Q (beforeHandler attempt st).2) : (e ≠ .served ∧ P st') ∨
      (e = .served ∧ ∃ attempt ∈ attempts, ∃ st1, P st1 ∧ Q st1 ∧
        handler attempt.work st1 = (none, st')) := by
  fun_induction relayLoop policy handler attempts retry last st
  case case1 => cases h
  case case2 | case3 =>
    cases h
    exact .inl ⟨hlast, hst⟩
  case case4 attempt _ _ _ _ _ _ _ hpre =>
    have hb := hbefore attempt _ hst
    rw [hpre] at hb
    cases h
    exact .inl ⟨nofun, hb⟩
  case case5 attempt _ _ _ _ _ st1 hpre _ hres =>
    have hb := hbefore attempt _ hst
    have hq := hready attempt _ hst
    rw [hpre] at hb hq
    cases h
    exact .inr ⟨rfl, attempt, List.mem_cons_self, st1, hb, hq rfl, hres⟩
  case case6 attempt _ _ _ _ _ _ st1 hpre e2 _ hres _ ih =>
    have hb := hbefore attempt _ hst
    rw [hpre] at hb
    have hh := hhandler attempt.work st1 hb
    rw [hres] at hh
    have hfail : LoopEnd.failed e2 ≠ .served := nofun
    rcases ih (hh nofun) hfail h with hend | ⟨he, a, ha, hs⟩
    · exact .inl hend
    · exact .inr ⟨he, a, List.mem_cons_of_mem _ ha, hs⟩
  case case7 attempt _ _ _ _ _ _ st1 hpre _ _ hres _ =>
    have hb := hbefore attempt _ hst
    rw [hpre] at hb
    have hh := hhandler attempt.work st1 hb
    rw [hres] at hh
    cases h
    exact .inl ⟨nofun, hh nofun⟩

/-- The loop rule for a property alone. -/
theorem relayLoop_inv : (e ≠ .served ∧ P st') ∨ (e = .served ∧
        ∃ attempt ∈ attempts, ∃ st1, P st1 ∧ handler attempt.work st1 = (none, st')) := by
  rcases relayLoop_ready (Q := fun _ => True) hbefore hhandler hst hlast h (fun _ _ _ _ => trivial)
    with hend | ⟨he, a, ha, st1, hP, -, hs⟩
  · exact .inl hend
  · exact .inr ⟨he, a, ha, st1, hP, hs⟩

end

theorem phase_choose (h : Phase r0 st.request) (choice : Option GroupChoice) :
    Phase r0 (st.choose choice).request := by
  cases choice with
  | none => exact h
  | some choice =>
    rcases h with h | ⟨session, h⟩ | h
    · exact .inl { h with }
    · exact .inr (.inl ⟨session, h.setInfo rfl rfl rfl rfl⟩)
    · exact .inr (.inr h)

theorem phase_beforeHandler (attempt : Attempt α) (st : LoopState σ) (h : Phase r0 st.request) :
    Phase r0 (beforeHandler attempt st).2.request := by
  fun_cases beforeHandler attempt st
  case case1 => exact h
  case case2 choice _ _ _ => exact phase_choose h choice
  case case3 choice _ _ _ _ _ _ hprep | case4 choice _ _ _ _ _ hprep =>
    have hp := (phase_choose h choice).prepareTiered (st.choose choice).snap
      (st.choose choice).groupRatio
    rw [hprep] at hp
    exact hp

end Loop

end OmniRouters.Relay
