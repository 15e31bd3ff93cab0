import OmniRouters.Billing.Quota

/-!
# The ledgers a request is billed against

The rows of the database that the billing of one request reads and writes
(`model/user.go`, `model/organization.go`, `model/subscription.go`,
`model/token.go`) and the storage calls of `model/quota_reserve.go` and its
siblings over them.

A storage call either commits or returns an error and leaves every row as it
was. Errors are of two kinds: the call's own conditions (a wallet limit, an
exceeded subscription total), which the model evaluates, and database errors,
which the model takes from the list `Store.faults`, one entry per call.

* `Store.exec_cases`, `Store.tryExec_cases`: what a storage call can do.
* `SubscriptionTable.used_setUsed`: a subscription's used amount after an
  update of its row.
-/

namespace OmniRouters.Billing

/-! ## Group names -/

/-- `unicode.IsSpace`, as `strings.TrimSpace` uses it. -/
def isSpace (c : Char) : Bool :=
  c.toNat ∈ [0x09, 0x0a, 0x0b, 0x0c, 0x0d, 0x20, 0x85, 0xa0, 0x1680, 0x2028, 0x2029, 0x202f,
    0x205f, 0x3000] || (0x2000 ≤ c.toNat && c.toNat ≤ 0x200a)

/-- `strings.TrimSpace`. -/
def trimSpace (s : String) : String :=
  String.ofList (((s.toList.dropWhile isSpace).reverse.dropWhile isSpace).reverse)

/-- `SubscriptionGroupList.Allows` (subscription.go:216-227): an
empty list allows every group. -/
def allowsGroup (groups : List String) (group : String) : Bool :=
  groups.isEmpty || groups.contains (trimSpace group)

/-- `NormalizeSubscriptionGroups` (subscription.go:199-214), with
`seen` the groups already kept. -/
def normalizeGroupsAux (seen : List String) : List String → List String
  | [] => []
  | group :: rest =>
    let group := trimSpace group
    if group = "" ∨ group = "auto" ∨ group ∈ seen then normalizeGroupsAux seen rest
    else group :: normalizeGroupsAux (group :: seen) rest

def normalizeSubscriptionGroups (groups : List String) : List String :=
  normalizeGroupsAux [] groups

/-! ## Rows -/

/-- `SubscriptionBillingModeQuota`, `SubscriptionBillingModeToken`. -/
inductive BillingMode
  | quota
  | token
deriving DecidableEq

/-- An active row of `user_subscriptions`, its billing mode already resolved
against its plan. `AmountUsed` is a natural number: every writer floors it
at zero. `AmountTotal = 0` means unlimited. -/
structure UserSubscription where
  id : ℕ
  billingMode : BillingMode
  allowedGroups : List String
  amountTotal : ℤ
  amountUsed : ℕ
deriving DecidableEq

/-- The user's active subscriptions in the order of the candidate query
(`end_time asc, id asc`). The id is the primary key. -/
structure SubscriptionTable where
  list : List UserSubscription
  ids_nodup : (list.map (·.id)).Nodup
  ids_pos : ∀ sub ∈ list, 0 < sub.id
deriving DecidableEq

/-- The row of `subscription_pre_consume_records` with the request's id. -/
structure PreConsumeRecord where
  userSubscriptionId : ℕ
  preConsumed : ℤ
  refunded : Bool
deriving DecidableEq

/-- The organization's shared wallet and its member's monthly usage. A monthly
limit of zero means none. -/
structure Organization where
  quota : ℤ
  monthlyQuotaLimit : ℤ
  usedQuota : ℤ
deriving DecidableEq

/-- Everything that one request's billing can change in the database. -/
structure Rows where
  userQuota : ℤ
  organization : Organization
  subscriptions : SubscriptionTable
  record : Option PreConsumeRecord
  tokenRemain : ℤ
deriving DecidableEq

/-- The lines that billing writes with `common.SysLog` when a compensating call
fails. The error they carry is not part of the model. -/
inductive LogLine
  /-- `error rolling back token quota` and its `userId`, `tokenId`, `amount`. -/
  | rollbackTokenQuota (amount : ℤ)
  /-- `error rolling back wallet funding reserve`, and the organization's and
      the subscription's form of it. -/
  | rollbackFundingReserve (delta : ℤ)
  /-- `error adjusting token quota after funding settled`. -/
  | adjustTokenQuota (delta : ℤ)
  /-- `error refunding billing source`. -/
  | refundBillingSource
  /-- `error refunding subscription extra reserved quota`. -/
  | refundExtraReserved
  /-- `error refunding token quota`. -/
  | refundTokenQuota
  /-- `settle task billing error` and its siblings in the task handlers. -/
  | settleBilling
deriving DecidableEq

/-- The database with the outcomes of the calls still to come: a `true` at the
head of `faults` makes the next call fail. `log` is what has been logged,
last line first. -/
structure Store where
  rows : Rows
  faults : List Bool
  log : List LogLine
deriving DecidableEq

/-! ## Storage calls -/

/-- Drops the outcome of the call that is made now. -/
def Store.next (s : Store) : Store := { s with faults := s.faults.tail }

/-- `common.SysLog`. -/
def Store.sysLog (s : Store) (line : LogLine) : Store := { s with log := line :: s.log }

/-- Whether the database fails the call that is made now. -/
def Store.down (s : Store) : Bool := s.faults.headD false

/-- One statement or transaction. `tx` is `none` when it returns an error of
its own and is rolled back. -/
def Store.exec (s : Store) (tx : Rows → Option Rows) : Bool × Store :=
  if s.down then (false, s.next)
  else match tx s.rows with
    | some rows => (true, { s.next with rows := rows })
    | none => (false, s.next)

/-- The outcome of a conditional reservation: `(true, nil)`, `(false, nil)` and
`(false, err)` in the source. -/
inductive Reservation
  | reserved
  | insufficient
  | error
deriving DecidableEq

/-- One conditional update. `tx` is `none` when no row meets its condition,
which is not an error. -/
def Store.tryExec (s : Store) (tx : Rows → Option Rows) : Reservation × Store :=
  if s.down then (.error, s.next)
  else match tx s.rows with
    | some rows => (.reserved, { s.next with rows := rows })
    | none => (.insufficient, s.next)

variable (s : Store)

@[simp] theorem Store.next_rows : s.next.rows = s.rows := rfl

@[simp] theorem Store.sysLog_rows (line : LogLine) :
    (s.sysLog line).rows = s.rows := rfl

@[simp] theorem Store.sysLog_log (line : LogLine) :
    (s.sysLog line).log = line :: s.log := rfl

/-- A storage call commits its transaction or leaves the rows alone. -/
theorem Store.exec_cases (tx : Rows → Option Rows) :
    ((s.exec tx).1 = true ∧ tx s.rows = some (s.exec tx).2.rows) ∨
      ((s.exec tx).1 = false ∧ (s.exec tx).2.rows = s.rows) := by
  unfold Store.exec
  split
  · exact .inr ⟨rfl, rfl⟩
  split
  next rows h =>
    exact .inl ⟨rfl, h⟩
  · exact .inr ⟨rfl, rfl⟩

/-- A reservation takes what it asks for or leaves the rows alone. -/
theorem Store.tryExec_cases (tx : Rows → Option Rows) :
    ((s.tryExec tx).1 = .reserved ∧ tx s.rows = some (s.tryExec tx).2.rows) ∨
      ((s.tryExec tx).1 ≠ .reserved ∧ (s.tryExec tx).2.rows = s.rows) := by
  unfold Store.tryExec
  split
  · exact .inr ⟨nofun, rfl⟩
  split
  next rows h =>
    exact .inl ⟨rfl, h⟩
  · exact .inr ⟨nofun, rfl⟩

/-! ## Wallet and token -/

/-- `IncreaseUserQuota` (user.go:1193-1218): the row update is
conditional on the new balance staying within `MaxWalletQuota`. -/
def increaseUserQuota (s : Store) (quota : ℤ) : Bool × Store :=
  if quota < 0 ∨ maxWalletQuota < quota then (false, s)
  else s.exec fun r =>
    if r.userQuota ≤ maxWalletQuota - quota then some { r with userQuota := r.userQuota + quota }
    else none

/-- `DecreaseUserQuota` (user.go:1240-1255): unconditional, so
the balance may become negative. -/
def decreaseUserQuota (s : Store) (quota : ℤ) : Bool × Store :=
  if quota < 0 then (false, s)
  else s.exec fun r => some { r with userQuota := r.userQuota - quota }

/-- `TryReserveUserQuota` (quota_reserve.go:154-197) with the
cached and the stored balance in agreement. -/
def tryReserveUserQuota (s : Store) (quota : ℤ) : Reservation × Store :=
  if quota < 0 then (.error, s)
  else if quota = 0 then (.reserved, s)
  else s.tryExec fun r =>
    if quota ≤ r.userQuota then some { r with userQuota := r.userQuota - quota } else none

/-- `IncreaseTokenQuota` (token.go:487-505). -/
def increaseTokenQuota (s : Store) (quota : ℤ) : Bool × Store :=
  if quota < 0 then (false, s)
  else s.exec fun r => some { r with tokenRemain := r.tokenRemain + quota }

/-- `DecreaseTokenQuota` (token.go:518-534). -/
def decreaseTokenQuota (s : Store) (quota : ℤ) : Bool × Store :=
  if quota < 0 then (false, s)
  else s.exec fun r => some { r with tokenRemain := r.tokenRemain - quota }

/-- `TryReserveTokenQuota` (quota_reserve.go:201-238): an
unlimited token skips the balance check but keeps its accounting. -/
def tryReserveTokenQuota (s : Store) (quota : ℤ) (unlimited : Bool) : Reservation × Store :=
  if quota < 0 then (.error, s)
  else if quota = 0 then (.reserved, s)
  else if unlimited then
    match decreaseTokenQuota s quota with
    | (true, s) => (.reserved, s)
    | (false, s) => (.error, s)
  else s.tryExec fun r =>
    if quota ≤ r.tokenRemain then some { r with tokenRemain := r.tokenRemain - quota } else none

/-! ## Organization wallet -/

/-- `TryReserveOrganizationQuota` (organization.go:127-188). -/
def tryReserveOrganizationQuota (s : Store) (quota : ℤ) : Reservation × Store :=
  if quota < 0 ∨ maxWalletQuota < quota then (.error, s)
  else s.tryExec fun r =>
    let o := r.organization
    if quota = 0 then some r
    else if o.quota < quota ∨
        (0 < o.monthlyQuotaLimit ∧ o.monthlyQuotaLimit - quota < o.usedQuota) then none
    else some { r with
      organization := { o with quota := o.quota - quota, usedQuota := o.usedQuota + quota } }

/-- `AdjustOrganizationQuota` (organization.go:193-239): a
positive delta is charged unconditionally, a negative one is returned
within the wallet limit. -/
def adjustOrganizationQuota (s : Store) (delta : ℤ) : Bool × Store :=
  if delta = 0 then (true, s)
  else if maxWalletQuota < delta ∨ delta < -maxWalletQuota then (false, s)
  else s.exec fun r =>
    let o := r.organization
    if 0 < delta then
      some { r with
        organization := { o with quota := o.quota - delta, usedQuota := o.usedQuota + delta } }
    else if o.quota ≤ maxWalletQuota + delta then
      some { r with
        organization := { o with
          quota := o.quota - delta
          usedQuota := if -delta ≤ o.usedQuota then o.usedQuota + delta else 0 } }
    else none

/-! ## Subscriptions -/

namespace SubscriptionTable

/-- `SELECT * FROM user_subscriptions WHERE id = id`. -/
def get? (t : SubscriptionTable) (id : ℕ) : Option UserSubscription :=
  t.list.find? (·.id = id)

/-- The row update of `setUsed`. -/
def withUsed (id used : ℕ) (sub : UserSubscription) : UserSubscription :=
  if sub.id = id then { sub with amountUsed := used } else sub

@[simp] theorem withUsed_id (id used : ℕ) (sub : UserSubscription) :
    (withUsed id used sub).id = sub.id := by
  unfold withUsed
  split <;> rfl

/-- `UPDATE user_subscriptions SET amount_used = used WHERE id = id`. -/
def setUsed (t : SubscriptionTable) (id used : ℕ) : SubscriptionTable where
  list := t.list.map (withUsed id used)
  ids_nodup := by
    have h : (fun sub : UserSubscription => sub.id) ∘ withUsed id used = (·.id) := by
      funext sub
      exact withUsed_id id used sub
    rw [List.map_map, h]
    exact t.ids_nodup
  ids_pos := by
    intro sub hsub
    obtain ⟨sub', hmem, rfl⟩ := List.mem_map.1 hsub
    rw [withUsed_id]
    exact t.ids_pos sub' hmem

/-- The used amount of a subscription, 0 if there is none with that id. -/
def used (t : SubscriptionTable) (id : ℕ) : ℕ :=
  ((t.get? id).map (·.amountUsed)).getD 0

variable {t : SubscriptionTable} {id : ℕ} {sub : UserSubscription}

theorem get?_id (h : t.get? id = some sub) : sub.id = id := by
  simpa using List.find?_some h

theorem get?_setUsed (t : SubscriptionTable) (id used j : ℕ) :
    (t.setUsed id used).get? j = (t.get? j).map (withUsed id used) := by
  have h : (fun sub : UserSubscription => decide (sub.id = j)) ∘ withUsed id used =
      fun sub => decide (sub.id = j) := by
    funext sub
    simp
  unfold get? setUsed
  rw [List.find?_map, h]

theorem used_of_get? (h : t.get? id = some sub) : t.used id = sub.amountUsed := by
  simp [used, h]

theorem used_setUsed (h : (t.get? id).isSome) (u : ℕ) : (t.setUsed id u).used id = u := by
  obtain ⟨sub, hsub⟩ := Option.isSome_iff_exists.1 h
  simp [used, get?_setUsed, hsub, withUsed, get?_id hsub]

theorem used_setUsed_of_ne {j : ℕ} (h : j ≠ id) (u : ℕ) : (t.setUsed id u).used j = t.used j := by
  unfold used
  rw [get?_setUsed]
  cases hsub : t.get? j with
  | none => rfl
  | some sub =>
    have hid := get?_id hsub
    simp [withUsed, hid, h]

theorem isSome_get?_setUsed (t : SubscriptionTable) (id u j : ℕ) :
    ((t.setUsed id u).get? j).isSome = (t.get? j).isSome := by
  rw [get?_setUsed, Option.isSome_map]

/-- The primary key finds every row of the table. -/
theorem get?_of_mem (h : sub ∈ t.list) : t.get? sub.id = some sub := by
  cases hget : t.get? sub.id with
  | none =>
    have := List.find?_eq_none.1 hget sub h
    simp at this
  | some sub' =>
    have hmem : sub' ∈ t.list := List.mem_of_find?_eq_some hget
    exact congrArg some (List.inj_on_of_nodup_map t.ids_nodup hmem h (get?_id hget))

end SubscriptionTable

/-- `PostConsumeUserSubscriptionDelta`
(subscription.go:1661-1685). `Int.toNat` is the floor at zero. -/
def postConsumeUserSubscriptionDelta (s : Store) (id : ℕ) (delta : ℤ) : Bool × Store :=
  if id = 0 then (false, s)
  else if delta = 0 then (true, s)
  else s.exec fun r =>
    match r.subscriptions.get? id with
    | none => none
    | some sub =>
      let newUsed := (sub.amountUsed + delta).toNat
      if 0 < sub.amountTotal ∧ sub.amountTotal < newUsed then none
      else some { r with subscriptions := r.subscriptions.setUsed id newUsed }

/-- The errors of `FundingSource.PreConsume` that the session tells apart. -/
inductive FundingError
  | insufficientWalletQuota
  | noActiveSubscription
  | subscriptionGroupNotAllowed
  | subscriptionQuotaInsufficient
  | storage
deriving DecidableEq

/-- The candidate loop of `preConsumeUserSubscription`
(subscription.go:1478-1544). -/
def pickSubscription (group : String) (amount : ℤ) (mode : BillingMode) (matched : Bool) :
    List UserSubscription → Except FundingError UserSubscription
  | [] => .error (if matched then .subscriptionQuotaInsufficient else .subscriptionGroupNotAllowed)
  | sub :: rest =>
    if sub.billingMode ≠ mode ∨ ¬ allowsGroup sub.allowedGroups group then
      pickSubscription group amount mode matched rest
    else if 0 < sub.amountTotal ∧ sub.amountTotal - sub.amountUsed < amount then
      pickSubscription group amount mode true rest
    else .ok sub

/-- `SubscriptionPreConsumeResult`. -/
structure PreConsumeResult where
  userSubscriptionId : ℕ
  preConsumed : ℤ
  allowedGroups : List String
deriving DecidableEq

/-- The transaction of `preConsumeUserSubscription`. A record of this request
makes the call return what was pre-consumed before; `hint` is the
subscription a key is bound to, 0 for none. -/
def preConsumeTx (r : Rows) (group : String) (amount : ℤ) (mode : BillingMode) (hint : ℕ) :
    Except FundingError (PreConsumeResult × Rows) :=
  match r.record with
  | some record =>
    if record.refunded then .error .storage
    else if 0 < hint ∧ record.userSubscriptionId ≠ hint then .error .storage
    else match r.subscriptions.get? record.userSubscriptionId with
      | none => .error .storage
      | some sub =>
        if sub.billingMode ≠ mode then .error .storage
        else if ¬ allowsGroup sub.allowedGroups group then .error .subscriptionGroupNotAllowed
        else .ok (⟨sub.id, record.preConsumed, normalizeSubscriptionGroups sub.allowedGroups⟩, r)
  | none =>
    match r.subscriptions.list.filter (fun sub => hint = 0 ∨ sub.id = hint) with
    | [] => .error .noActiveSubscription
    | subs =>
      match pickSubscription group amount mode false subs with
      | .error e => .error e
      | .ok sub =>
        .ok (⟨sub.id, amount, normalizeSubscriptionGroups sub.allowedGroups⟩,
          { r with
            subscriptions := r.subscriptions.setUsed sub.id (sub.amountUsed + amount).toNat
            record := some ⟨sub.id, amount, false⟩ })

/-- `preConsumeUserSubscription` (subscription.go:1404-1550), for
subscriptions that are not due for a reset. -/
def preConsumeUserSubscription (s : Store) (usingGroup : String) (amount : ℤ)
    (mode : BillingMode) (hint : ℕ) : Except FundingError PreConsumeResult × Store :=
  let group := trimSpace usingGroup
  if amount ≤ 0 then (.error .storage, s)
  else if group = "" ∨ group = "auto" then (.error .subscriptionGroupNotAllowed, s)
  else if s.down then (.error .storage, s.next)
  else match preConsumeTx s.rows group amount mode hint with
    | .error e => (.error e, s.next)
    | .ok (res, rows) => (.ok res, { s.next with rows := rows })

/-- `RefundSubscriptionPreConsume` (subscription.go:1553-1576). -/
def refundSubscriptionPreConsume (s : Store) : Bool × Store :=
  if s.down then (false, s.next)
  else match s.rows.record with
    | none => (false, s.next)
    | some record =>
      if record.refunded then (true, s.next)
      else
        let refunded (s : Store) : Store :=
          { s with rows := { s.rows with record := some { record with refunded := true } } }
        if record.preConsumed ≤ 0 then (true, refunded s.next)
        else
          match postConsumeUserSubscriptionDelta s.next record.userSubscriptionId
              (-record.preConsumed) with
          | (false, s) => (false, s)
          | (true, s) => (true, refunded s)

end OmniRouters.Billing
