import OmniRouters.Billing.Ledger

/-!
# Billing sessions

Models of `service/funding_source.go` (the three funding sources) and
`service/billing_session.go` (the life of one request's charge: pre-consume,
further reservations, settle, refund), with `service/billing.go` on top.

The source's pointers become values: a `State` holds the store, the fields of
`RelayInfo` that billing reads and writes, and the session. The `tokenFunding`
of a token-mode session is the same object as its `funding`, so it is no field
of its own. The refund closure, which the source hands to a goroutine, runs at
once here: after `refunded` is set no operation of the session reads or writes
anything that the closure touches.
-/

namespace OmniRouters.Billing

/-! ## Funding sources -/

/-- `WalletFunding`: `consumed` is what has been pre-consumed. -/
structure WalletFunding where
  consumed : ℤ
deriving DecidableEq

/-- `OrganizationFunding`. -/
structure OrganizationFunding where
  consumed : ℤ
deriving DecidableEq

/-- `SubscriptionFunding`. Before the pre-consume `subscriptionId` is the
subscription a key is bound to, or 0. -/
structure SubscriptionFunding where
  usingGroup : String
  amount : ℤ
  billingMode : BillingMode
  subscriptionId : ℕ
  preConsumed : ℤ
  allowedGroups : List String
deriving DecidableEq

inductive FundingSource
  | wallet (f : WalletFunding)
  | organization (f : OrganizationFunding)
  | subscription (f : SubscriptionFunding)
deriving DecidableEq

/-- `BillingSourceWallet`, `BillingSourceSubscription`,
`BillingSourceOrganization`. -/
inductive BillingSource
  | wallet
  | subscription
  | organization
deriving DecidableEq

namespace FundingSource

/-- `Source`. -/
def source : FundingSource → BillingSource
  | wallet _ => .wallet
  | organization _ => .organization
  | subscription _ => .subscription

def ledger : FundingSource → Ledger
  | wallet _ => .wallet
  | organization _ => .organization
  | subscription f => .subscription f.subscriptionId

/-- The error of a reservation that did not succeed. -/
def reservationError : Reservation → Option FundingError
  | .reserved => none
  | .insufficient => some .insufficientWalletQuota
  | .error => some .storage

/-- `PreConsume` (funding_source.go:44-57, 74-91 and 134-169).
A subscription ignores `amount` and takes its own. -/
def preConsume (fs : FundingSource) (amount : ℤ) (s : Store) :
    Option FundingError × FundingSource × Store :=
  match fs with
  | wallet f =>
    if amount ≤ 0 then (none, fs, s)
    else match tryReserveUserQuota s amount with
      | (.reserved, s) => (none, wallet { f with consumed := f.consumed + amount }, s)
      | (outcome, s) => (reservationError outcome, fs, s)
  | organization f =>
    if amount ≤ 0 then (none, fs, s)
    else match tryReserveOrganizationQuota s amount with
      | (.reserved, s) => (none, organization { f with consumed := f.consumed + amount }, s)
      | (outcome, s) => (reservationError outcome, fs, s)
  | subscription f =>
    match preConsumeUserSubscription s f.usingGroup f.amount f.billingMode f.subscriptionId with
    | (.error e, s) => (some e, fs, s)
    | (.ok res, s) =>
      (none, subscription { f with
        subscriptionId := res.userSubscriptionId
        preConsumed := res.preConsumed
        allowedGroups := normalizeSubscriptionGroups res.allowedGroups }, s)

/-- `Settle` (funding_source.go:58-60, 93-101 and 171-176). -/
def settle (fs : FundingSource) (delta : ℤ) (s : Store) : Bool × Store :=
  match fs with
  | wallet _ =>
    if delta = 0 then (true, s)
    else if 0 < delta then decreaseUserQuota s delta
    else increaseUserQuota s (-delta)
  | organization _ => adjustOrganizationQuota s delta
  | subscription f =>
    if delta = 0 then (true, s) else postConsumeUserSubscriptionDelta s f.subscriptionId delta

end FundingSource

/-- `refundWithRetry` (funding_source.go:189-206) with the
attempts left. -/
def refundWithRetry (fn : Store → Bool × Store) : ℕ → Store → Bool × Store
  | 0, s => (false, s)
  | attempts + 1, s =>
    match fn s with
    | (true, s) => (true, s)
    | (false, s) => refundWithRetry fn attempts s

/-- `Refund` (funding_source.go:61-66, 103-110 and 178-185). -/
def FundingSource.refund (fs : FundingSource) (s : Store) : Bool × Store :=
  match fs with
  | wallet f => if f.consumed ≤ 0 then (true, s) else increaseUserQuota s f.consumed
  | organization f => if f.consumed ≤ 0 then (true, s) else adjustOrganizationQuota s (-f.consumed)
  | subscription f =>
    if f.preConsumed ≤ 0 then (true, s) else refundWithRetry refundSubscriptionPreConsume 3 s

/-! ## The session -/

/-- The error codes that billing returns (`relaykit/types/error.go`). -/
inductive ErrorCode
  | insufficientUserQuota
  | preConsumeTokenQuotaFailed
  | updateDataError
  | queryDataError
  | modelPriceError
  | invalidRequest
deriving DecidableEq

/-- `BillingPreference` after `NormalizeBillingPreference`
(common/str.go:112-119). -/
inductive BillingPreference
  | subscriptionFirst
  | walletFirst
  | subscriptionOnly
  | walletOnly
deriving DecidableEq

/-- The fields of `RelayInfo` and of the request's context that billing uses.
`subscriptionKey` is the billing mode of a subscription key and `none` for a
general key; `tokenQuota` is the context's `token_quota`; `imageRequest` is
a `dto.ImageRequest` or a positive `ImageRequestCount`; `estimateTokens` is
the token reservation of a token-mode key; `allowedGroups` is the context's
`ContextKeySubscriptionAllowedGroups`. -/
structure RelayInfo where
  organizationId : ℕ
  subscriptionKey : Option BillingMode
  isStandaloneTool : Bool
  isPlayground : Bool
  forcePreConsume : Bool
  imageRequest : Bool
  tokenUnlimited : Bool
  tokenQuota : ℤ
  trustQuota : ℤ
  estimateTokens : ℤ
  billingPreference : BillingPreference
  usingGroup : String
  userQuota : ℤ
  finalPreConsumedQuota : ℤ
  billingSource : Option BillingSource
  subscriptionId : ℕ
  subscriptionPostDelta : ℤ
  subscriptionAllowedGroups : List String
  allowedGroups : List String
deriving DecidableEq

/-- `BillingSession`. -/
structure BillingSession where
  funding : FundingSource
  tokenSubscription : Bool
  preConsumedQuota : ℤ
  tokenConsumed : ℤ
  extraReserved : ℤ
  trusted : Bool
  fundingSettled : Bool
  settled : Bool
  refunded : Bool
deriving DecidableEq

/-- A session as the constructors of `NewBillingSession` build it. -/
def BillingSession.new (funding : FundingSource) (tokenSubscription : Bool) : BillingSession where
  funding := funding
  tokenSubscription := tokenSubscription
  preConsumedQuota := 0
  tokenConsumed := 0
  extraReserved := 0
  trusted := false
  fundingSettled := false
  settled := false
  refunded := false

/-- What the methods of a session work on. -/
structure State where
  store : Store
  info : RelayInfo
  session : BillingSession
deriving DecidableEq

namespace State

/-- `shouldTrust` (billing_session.go:399-432). -/
def shouldTrust (st : State) : Bool :=
  let info := st.info
  if 0 < info.organizationId then false
  else if info.forcePreConsume then false
  else if info.trustQuota ≤ 0 then false
  else if ¬ (info.tokenUnlimited ∨ info.trustQuota < info.tokenQuota) then false
  else match st.session.funding with
    | .wallet _ => info.trustQuota < info.userQuota
    | _ => false

/-- `syncRelayInfo` (billing_session.go:435-455). -/
def syncRelayInfo (st : State) : State :=
  let info := { st.info with
    finalPreConsumedQuota := st.session.preConsumedQuota
    billingSource := some st.session.funding.source }
  match st.session.funding with
  | .subscription f =>
    { st with info := { info with
        subscriptionId := f.subscriptionId
        subscriptionPostDelta := 0
        subscriptionAllowedGroups := f.allowedGroups } }
  | _ =>
    { st with info := { info with
        subscriptionId := 0
        subscriptionAllowedGroups := [] } }

/-- `PreConsumeTokenQuota` (service/quota.go:427-447): whether the token
could be charged. -/
def preConsumeTokenQuota (st : State) (quota : ℤ) : Bool × State :=
  if quota < 0 then (false, st)
  else if st.info.isPlayground then (true, st)
  else match tryReserveTokenQuota st.store quota st.info.tokenUnlimited with
    | (.reserved, s) => (true, { st with store := s })
    | (_, s) => (false, { st with store := s })

/-- The error code that `preConsume` maps a funding error to
(billing_session.go:284-312). -/
def preConsumeErrorCode : FundingError → ErrorCode
  | .insufficientWalletQuota => .insufficientUserQuota
  | .noActiveSubscription => .insufficientUserQuota
  | .subscriptionGroupNotAllowed => .insufficientUserQuota
  | .subscriptionQuotaInsufficient => .insufficientUserQuota
  | .storage => .updateDataError

/-- The rollback of the token in `preConsume`
(billing_session.go:276-282). -/
def rollbackToken (st : State) : State :=
  if 0 < st.session.tokenConsumed ∧ ¬ st.info.isPlayground then
    let store := match increaseTokenQuota st.store st.session.tokenConsumed with
      | (true, s) => s
      | (false, s) => s.sysLog (.rollbackTokenQuota st.session.tokenConsumed)
    { st with store := store, session := { st.session with tokenConsumed := 0 } }
  else st

/-- The part of `preConsume` after the token
(billing_session.go:274-321): the funding source is charged, and on an error the token is
rolled back. -/
def preConsumeFunding (st : State) (effectiveQuota : ℤ) : Option ErrorCode × State :=
  match st.session.funding.preConsume effectiveQuota st.store with
  | (some e, funding, s) =>
    (some (preConsumeErrorCode e),
      rollbackToken { st with store := s, session := { st.session with funding := funding } })
  | (none, funding, s) =>
    (none, syncRelayInfo { st with
      store := s
      session := { st.session with funding := funding, preConsumedQuota := effectiveQuota } })

/-- The charge of `preConsume` once the effective quota is known
(billing_session.go:263-321): the token first, then the funding
source. -/
def preConsumeEffective (st : State) (effectiveQuota : ℤ) : Option ErrorCode × State :=
  if 0 < effectiveQuota ∧ ¬ st.session.tokenSubscription then
    match st.preConsumeTokenQuota effectiveQuota with
    | (false, st) => (some .preConsumeTokenQuotaFailed, st)
    | (true, st) =>
      preConsumeFunding { st with session := { st.session with tokenConsumed := effectiveQuota } }
        effectiveQuota
  else preConsumeFunding st effectiveQuota

/-- `preConsume` (billing_session.go:250-321): a trusted request
reserves nothing. -/
def preConsume (st : State) (quota : ℤ) : Option ErrorCode × State :=
  if st.shouldTrust then
    preConsumeEffective { st with session := { st.session with trusted := true } } 0
  else preConsumeEffective st quota

/-! ## Further reservations -/

/-- The error code of a failed reservation in `reserveFunding`. -/
def reserveErrorCode : FundingError → ErrorCode
  | .insufficientWalletQuota => .insufficientUserQuota
  | _ => .updateDataError

/-- `reserveFunding` (billing_session.go:323-367). The wallet
admits debt unless the quota has to be available. -/
def reserveFunding (st : State) (delta : ℤ) (requireAvailableQuota : Bool) :
    Option ErrorCode × State :=
  let preConsumed : Option ErrorCode × State :=
    match st.session.funding.preConsume delta st.store with
    | (e, funding, s) =>
      (e.map reserveErrorCode,
        { st with store := s, session := { st.session with funding := funding } })
  match st.session.funding with
  | .wallet f =>
    if requireAvailableQuota then preConsumed
    else match decreaseUserQuota st.store delta with
      | (false, s) => (some .updateDataError, { st with store := s })
      | (true, s) =>
        (none, { st with
          store := s
          session := { st.session with
            funding := .wallet { f with consumed := f.consumed + delta } } })
  | .organization _ => preConsumed
  | .subscription f =>
    match postConsumeUserSubscriptionDelta st.store f.subscriptionId delta with
    | (false, s) => (some .insufficientUserQuota, { st with store := s })
    | (true, s) => (none, { st with store := s })

/-- `rollbackFundingReserve` (billing_session.go:369-388). -/
def rollbackFundingReserve (st : State) (delta : ℤ) : State :=
  match st.session.funding with
  | .wallet f =>
    match increaseUserQuota st.store delta with
    | (false, s) => { st with store := s.sysLog (.rollbackFundingReserve delta) }
    | (true, s) =>
      { st with
        store := s
        session := { st.session with
          funding := .wallet { f with consumed := f.consumed - delta } } }
  | .organization f =>
    match adjustOrganizationQuota st.store (-delta) with
    | (false, s) => { st with store := s.sysLog (.rollbackFundingReserve delta) }
    | (true, s) =>
      { st with
        store := s
        session := { st.session with
          funding := .organization { f with consumed := f.consumed - delta } } }
  | .subscription f =>
    match postConsumeUserSubscriptionDelta st.store f.subscriptionId (-delta) with
    | (false, s) => { st with store := s.sysLog (.rollbackFundingReserve delta) }
    | (true, s) => { st with store := s }

/-- `reserveToken` (billing_session.go:390-398). -/
def reserveToken (st : State) (delta : ℤ) : Bool × State :=
  if delta ≤ 0 ∨ st.info.isPlayground then (true, st) else st.preConsumeTokenQuota delta

/-- `reserve` (billing_session.go:208-243). -/
def reserve (st : State) (targetQuota : ℤ) (requireAvailableQuota : Bool) :
    Option ErrorCode × State :=
  if st.session.tokenSubscription then (none, st)
  else
    let requireAvailableQuota := requireAvailableQuota || st.info.imageRequest
    if st.session.settled ∨ st.session.refunded ∨
        (st.session.trusted ∧ ¬ requireAvailableQuota) ∨
        targetQuota ≤ st.session.preConsumedQuota then (none, st)
    else
      let delta := targetQuota - st.session.preConsumedQuota
      match st.reserveFunding delta requireAvailableQuota with
      | (some e, st) => (some e, st)
      | (none, st) =>
        match st.reserveToken delta with
        | (false, st) => (some .preConsumeTokenQuotaFailed, st.rollbackFundingReserve delta)
        | (true, st) =>
          let session := { st.session with
            preConsumedQuota := st.session.preConsumedQuota + delta
            tokenConsumed := st.session.tokenConsumed + delta
            extraReserved := st.session.extraReserved + delta
            trusted := st.session.trusted && !requireAvailableQuota }
          (none, syncRelayInfo { st with session := session })

/-! ## Settle and refund -/

/-- The token step of `Settle` (billing_session.go:63-76): an
error is logged and returned, with the funding source already committed. -/
def settleToken (st : State) (delta : ℤ) : Bool × State :=
  if st.info.isPlayground then (true, st)
  else
    match (if 0 < delta then decreaseTokenQuota st.store delta
      else increaseTokenQuota st.store (-delta)) with
    | (true, s) => (true, { st with store := s })
    | (false, s) => (false, { st with store := s.sysLog (.adjustTokenQuota delta) })

/-- The rest of `Settle` once the funding source is committed
(billing_session.go:63-82). -/
def finishSettle (st : State) (delta : ℤ) : Bool × State :=
  match st.settleToken delta with
  | (ok, st) =>
    let postDelta :=
      if st.session.funding.source = .subscription then st.info.subscriptionPostDelta + delta
      else st.info.subscriptionPostDelta
    (ok, { st with
      info := { st.info with subscriptionPostDelta := postDelta }
      session := { st.session with settled := true } })

/-- `Settle` (billing_session.go:45-83). -/
def settle (st : State) (actualQuota : ℤ) : Bool × State :=
  if st.session.settled then (true, st)
  else
    let delta := actualQuota - st.session.preConsumedQuota
    if delta = 0 then (true, { st with session := { st.session with settled := true } })
    else if st.session.fundingSettled then st.finishSettle delta
    else match st.session.funding.settle delta st.store with
      | (false, s) => (false, { st with store := s })
      | (true, s) =>
        finishSettle { st with
          store := s
          session := { st.session with fundingSettled := true } } delta

/-- `needsRefundLocked` (billing_session.go:166-190). The token
funding of a token-mode session is its funding source. -/
def needsRefund (st : State) : Bool :=
  if st.session.settled ∨ st.session.refunded ∨ st.session.fundingSettled then false
  else if 0 < st.session.tokenConsumed then true
  else match st.session.funding with
    | .wallet _ => false
    | .organization f => 0 < f.consumed
    | .subscription f => 0 < f.preConsumed

/-- Logs a failed step of the refund. -/
def logFailure (line : LogLine) : Bool × Store → Store
  | (true, s) => s
  | (false, s) => s.sysLog line

/-- The return of what a subscription session reserved after its pre-consume
(billing_session.go:149-153). -/
def refundExtraReserved (st : State) (s : Store) : Store :=
  if 0 < st.session.extraReserved ∧ st.session.funding.source = .subscription ∧
      0 < st.info.subscriptionId then
    logFailure .refundExtraReserved
      (postConsumeUserSubscriptionDelta s st.info.subscriptionId (-st.session.extraReserved))
  else s

/-- The return of the token quota (billing_session.go:155-159). -/
def refundToken (st : State) (s : Store) : Store :=
  if 0 < st.session.tokenConsumed ∧ ¬ st.info.isPlayground then
    logFailure .refundTokenQuota (increaseTokenQuota s st.session.tokenConsumed)
  else s

/-- The closure of `Refund` (billing_session.go:139-162). -/
def refundClosure (st : State) : State :=
  { st with
    store := st.refundToken (st.refundExtraReserved
      (logFailure .refundBillingSource (st.session.funding.refund st.store))) }

/-- `Refund` (billing_session.go:114-163). -/
def refund (st : State) : State :=
  if st.session.settled ∨ st.session.refunded ∨ ¬ st.needsRefund then st
  else refundClosure { st with session := { st.session with refunded := true } }

/-- `SettleTokenBilling` (billing_session.go:85-111). -/
def settleTokenBilling (st : State) (tokenCount toolQuota : ℤ) : Bool × State :=
  if st.session.settled then (true, st)
  else match st.session.tokenSubscription, st.session.funding with
    | true, .subscription f =>
      let delta := tokenCount - f.preConsumed
      match (if delta = 0 then (true, st.store)
        else FundingSource.settle (.subscription f) delta st.store) with
      | (false, s) => (false, { st with store := s })
      | (true, s) =>
        let st := { st with
          store := s
          info := { st.info with
            subscriptionPostDelta := st.info.subscriptionPostDelta + delta }
          session := { st.session with fundingSettled := true } }
        if 0 < toolQuota then
          match decreaseUserQuota st.store toolQuota with
          | (false, s) => (false, { st with store := s })
          | (true, s) =>
            (true, { st with store := s, session := { st.session with settled := true } })
        else (true, { st with session := { st.session with settled := true } })
    | _, _ => (false, st)

end State

end OmniRouters.Billing
