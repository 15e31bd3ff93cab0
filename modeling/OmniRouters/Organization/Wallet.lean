import OmniRouters.Billing.Store
import OmniRouters.Lib.Rows
import OmniRouters.Lib.Runs

/-!
# The wallet of an organization

The members of an organization spend from one wallet. A request reserves quota with
`TryReserveOrganizationQuota` and settles with `AdjustOrganizationQuota`
(`model/organization.go`). The usage of a member is kept per calendar month, in the month in which
the request has started. Each of the two transactions locks the row of the organization first, so
each is one step here. Any of its statements may fail; the transaction is then rolled back.

A settlement is paid even from an empty wallet, so the quota may be negative. A reservation of 0
checks only that the member is active.

* `tryReserve_cases`, `tryReserveTx_ok`: what a reservation does, by its answer.
* `Balanced.step`: one step keeps the books of the wallet.
* `organization_wallet_balanced`: the books after any run in which the refunds of each member and
  period are covered, and what a reservation guarantees.
* `reserve_nothing_in_debt`: a reservation of 0 succeeds in debt.
-/

namespace OmniRouters.OrganizationWallet

open Billing Lib List Function Option

/-! ## Tables -/

/-- What a reservation reads of a row of `organization_members`. -/
structure Member where
  userId : ℕ
  active : Bool
  monthlyQuotaLimit : ℤ
deriving DecidableEq

/-- A row of `organization_member_usages`. -/
structure Usage where
  userId : ℕ
  period : String
  usedQuota : ℤ
deriving DecidableEq

/-- The unique index of the usage rows of one organization. -/
def Usage.key (usage : Usage) : ℕ × String := (usage.userId, usage.period)

/-- An organization with its members and their usage. -/
structure Organization where
  quota : ℤ
  usedQuota : ℤ
  members : List Member
  usages : List Usage
deriving DecidableEq

namespace Organization

/-- The usage row of a member and a period. -/
def usage? (org : Organization) (k : ℕ × String) : Option Usage :=
  org.usages.find? (Usage.key · = k)

/-- The recorded usage of a member in a period. -/
def usageOf (org : Organization) (k : ℕ × String) : ℤ := ((org.usage? k).map Usage.usedQuota).getD 0

def activeMember? (org : Organization) (userId : ℕ) : Option Member :=
  org.members.find? fun member => member.userId = userId ∧ member.active

/-- The usage row, which is created if it is missing. -/
def firstOrCreateUsage (org : Organization) (userId : ℕ) (period : String) : Organization × Usage :=
  match org.usage? (userId, period) with
  | some usage => (org, usage)
  | none => ({ org with usages := ⟨userId, period, 0⟩ :: org.usages }, ⟨userId, period, 0⟩)

/-- The update of a usage row. -/
def saveUsage (org : Organization) (usage : Usage) : Organization :=
  { org with usages := replace Usage.key usage org.usages }

end Organization

/-! ## Transactions -/

/-- The errors of the calls. -/
inductive WalletError
  | negativeQuota
  | quotaLimit
  | adjustmentLimit
  | invalidPeriod
  | recordNotFound
  | walletQuotaLimitExceeded
  | database
deriving DecidableEq

/-- `time.Parse("2006-01", period)` succeeds. -/
def isPeriod (period : String) : Bool :=
  match period.toList with
  | [a, b, c, d, '-', m, n] =>
    [a, b, c, d, m, n].all Char.isDigit &&
      String.ofList [m, n] ∈
        ["01", "02", "03", "04", "05", "06", "07", "08", "09", "10", "11", "12"]
  | _ => false

/-- `normalizedOrganizationPeriod` (lines 90-98) of the trimmed text, where
`now` is `CurrentOrganizationUsagePeriod()`. -/
def normalizedOrganizationPeriod (now period : String) : Option String :=
  let period := if trimSpace period = "" then now else trimSpace period
  if isPeriod period then some period else none

/-- The transaction of `TryReserveOrganizationQuota` (lines 139-183). -/
def tryReserveTx (org : Organization) (userId : ℕ) (quota : ℤ) (period : String) :
    Except WalletError Organization :=
  match org.activeMember? userId with
  | none => .error .recordNotFound
  | some member =>
    let (org, usage) := org.firstOrCreateUsage userId period
    let overLimit :=
      0 < member.monthlyQuotaLimit ∧ member.monthlyQuotaLimit - quota < usage.usedQuota
    if quota = 0 then .ok org
    else if org.quota < quota ∨ overLimit then .error .recordNotFound
    -- the two updates repeat the two checks
    else if ¬ quota ≤ org.quota then .error .recordNotFound
    else if overLimit then .error .recordNotFound
    else
      let org := { org with quota := org.quota - quota, usedQuota := org.usedQuota + quota }
      .ok (org.saveUsage { usage with usedQuota := usage.usedQuota + quota })

/-- `TryReserveOrganizationQuota` (lines 127-188). A statement fails if
`dbError`. -/
def tryReserveOrganizationQuota (now : String) (dbError : Bool) (org : Organization) (userId : ℕ)
    (quota : ℤ) (period : String) : Except WalletError Bool × Organization :=
  if quota < 0 then (.error .negativeQuota, org)
  else if maxWalletQuota < quota then (.error .quotaLimit, org)
  else match normalizedOrganizationPeriod now period with
    | none => (.error .invalidPeriod, org)
    | some period =>
      if dbError then (.error .database, org)
      else match tryReserveTx org userId quota period with
        | .ok org' => (.ok true, org')
        | .error .recordNotFound => (.ok false, org)
        | .error e => (.error e, org)

/-- `CASE WHEN used_quota >= ? THEN used_quota - ? ELSE 0 END`. -/
def giveBack (usedQuota refund : ℤ) : ℤ := if refund ≤ usedQuota then usedQuota - refund else 0

/-- The transaction of `AdjustOrganizationQuota` (lines 205-238). -/
def adjustTx (org : Organization) (userId : ℕ) (delta : ℤ) (period : String) :
    Except WalletError Organization :=
  let (org, usage) := org.firstOrCreateUsage userId period
  if 0 < delta then
    let org := { org with quota := org.quota - delta, usedQuota := org.usedQuota + delta }
    .ok (org.saveUsage { usage with usedQuota := usage.usedQuota + delta })
  else
    let refund := -delta
    if org.quota ≤ maxWalletQuota - refund then
      let org := { org with
        quota := org.quota + refund, usedQuota := giveBack org.usedQuota refund }
      .ok (org.saveUsage { usage with usedQuota := giveBack usage.usedQuota refund })
    else .error .walletQuotaLimitExceeded

/-- `AdjustOrganizationQuota` (lines 193-239). -/
def adjustOrganizationQuota (now : String) (dbError : Bool) (org : Organization) (userId : ℕ)
    (delta : ℤ) (period : String) : Except WalletError Unit × Organization :=
  if delta = 0 then (.ok (), org)
  else if maxWalletQuota < delta ∨ delta < -maxWalletQuota then (.error .adjustmentLimit, org)
  else match normalizedOrganizationPeriod now period with
    | none => (.error .invalidPeriod, org)
    | some period =>
      if dbError then (.error .database, org)
      else match adjustTx org userId delta period with
        | .ok org' => (.ok (), org')
        | .error e => (.error e, org)

/-! ## What the transactions do -/

/-- `amount` has moved from the quota of the organization to the usage with the key `k`. -/
structure Applied (org : Organization) (k : ℕ × String) (amount : ℤ) (org' : Organization) :
    Prop where
  quota : org'.quota = org.quota - amount
  used : org'.usedQuota = org.usedQuota + amount
  sum : (org'.usages.map Usage.usedQuota).sum = (org.usages.map Usage.usedQuota).sum + amount
  keys : (org'.usages.map Usage.key).Nodup
  usage : ∀ k', org'.usageOf k' = if k' = k then org.usageOf k + amount else org.usageOf k'

section Apply

variable {org : Organization} {userId : ℕ} {period : String}

/-- The usage row is in the table afterwards, with the recorded usage. -/
theorem firstOrCreateUsage_spec (hkeys : (org.usages.map Usage.key).Nodup) (userId : ℕ)
    (period : String) :
    let out := org.firstOrCreateUsage userId period
    Applied org (userId, period) 0 out.1 ∧ out.1.usage? (userId, period) = some out.2 ∧
      out.2.usedQuota = org.usageOf (userId, period) ∧ out.1.members = org.members := by
  unfold Organization.firstOrCreateUsage
  cases hfind : org.usage? (userId, period) with
  | some usage =>
    refine ⟨⟨by simp, by simp, by simp, hkeys, fun k' => ?_⟩, hfind, ?_, rfl⟩
    · dsimp only
      split
      next heq =>
        rw [heq, add_zero]
      · rfl
    · simp [Organization.usageOf, hfind]
  | none =>
    have habsent : (userId, period) ∉ org.usages.map Usage.key := by
      intro hmem
      obtain ⟨usage, husage, hkey⟩ := List.mem_map.1 hmem
      have := find?_eq_none.1 hfind usage husage
      simp [hkey] at this
    refine ⟨⟨by simp, by simp, by simp, ?_, fun k' => ?_⟩, ?_, ?_, rfl⟩
    · exact nodup_cons.2 ⟨habsent, hkeys⟩
    · dsimp only [Organization.usageOf, Organization.usage?]
      by_cases hk : k' = (userId, period)
      · subst hk
        have hkey : Usage.key ⟨userId, period, 0⟩ = (userId, period) := rfl
        have hrows : org.usages.find? (Usage.key · = (userId, period)) = none := hfind
        simp [hkey, hrows]
      · have hne : ¬ Usage.key ⟨userId, period, 0⟩ = k' := fun h => hk h.symm
        simp [hk, hne]
    · simp [Organization.usage?, Usage.key]
    · simp [Organization.usageOf, hfind]

variable {org' : Organization}

/-- A save of the usage row together with the move on the organization. -/
theorem applied_save {usage : Usage} {amount : ℤ}
    (happlied : Applied org (userId, period) 0 org')
    (husage : org'.usage? (userId, period) = some usage)
    (hused : usage.usedQuota = org.usageOf (userId, period)) :
    Applied org (userId, period) amount
      ({ org' with quota := org'.quota - amount, usedQuota := org'.usedQuota + amount }.saveUsage
        { usage with usedQuota := usage.usedQuota + amount }) := by
  have hkey : usage.key = (userId, period) := key_of_find? husage
  set saved : Usage := { usage with usedQuota := usage.usedQuota + amount } with hsaved
  have hsavedKey : saved.key = (userId, period) := hkey
  refine ⟨?_, ?_, ?_, ?_, fun k' => ?_⟩
  · dsimp only [Organization.saveUsage]
    rw [happlied.quota, sub_zero]
  · dsimp only [Organization.saveUsage]
    rw [happlied.used, add_zero]
  · dsimp only [Organization.saveUsage]
    rw [sum_map_replace Usage.usedQuota happlied.keys (mem_of_find?_eq_some husage)
      (hkey.trans hsavedKey.symm), happlied.sum, hsaved]
    ring
  · dsimp only [Organization.saveUsage]
    rw [map_key_replace]
    exact happlied.keys
  · have hfind := find?_replace Usage.key saved org'.usages k'
    dsimp only [Organization.saveUsage, Organization.usageOf, Organization.usage?]
    rw [hfind]
    by_cases hk : k' = (userId, period)
    · subst hk
      rw [if_pos hsavedKey, if_pos rfl]
      have hrow : org'.usages.find? (Usage.key · = (userId, period)) = some usage := husage
      rw [hrow]
      simp only [map_some, getD_some, hsaved, hused]
      rfl
    · rw [if_neg fun h => hk (h.symm.trans hsavedKey), if_neg hk]
      have hother := happlied.usage k'
      rw [if_neg hk] at hother
      exact hother

/-- **Inversion of the reservation.** -/
theorem tryReserveTx_ok {quota : ℤ}
    (hkeys : (org.usages.map Usage.key).Nodup)
    (h : tryReserveTx org userId quota period = .ok org') :
    Applied org (userId, period) quota org' ∧ org'.members = org.members ∧
      ∃ member, org.activeMember? userId = some member ∧ (quota ≠ 0 → quota ≤ org.quota ∧
        (0 < member.monthlyQuotaLimit →
          org.usageOf (userId, period) + quota ≤ member.monthlyQuotaLimit)) := by
  unfold tryReserveTx at h
  obtain ⟨happlied, husage, hused, hmembers⟩ :=
    firstOrCreateUsage_spec hkeys userId period
  cases hmember : org.activeMember? userId with
  | none =>
    rw [hmember] at h
    cases h
  | some member =>
    rw [hmember] at h
    dsimp only at h
    split_ifs at h with hzero hcheck hquota hlimit
    · cases h
      subst hzero
      exact ⟨happlied, hmembers, member, rfl, fun hne => absurd rfl hne⟩
    · cases h
      refine ⟨applied_save happlied husage hused, hmembers, member, rfl,
        fun _ => ⟨?_, fun hpos => ?_⟩⟩
      · have := happlied.quota
        omega
      · rw [← hused]
        by_contra hover
        exact hlimit ⟨hpos, by omega⟩

/-- **Inversion of the settlement**, for refunds that the usage covers. -/
theorem adjustTx_ok {delta : ℤ}
    (hkeys : (org.usages.map Usage.key).Nodup)
    (hcovered : -delta ≤ org.usageOf (userId, period)) (hcoveredSum : -delta ≤ org.usedQuota)
    (h : adjustTx org userId delta period = .ok org') :
    Applied org (userId, period) delta org' ∧ org'.members = org.members := by
  unfold adjustTx at h
  obtain ⟨happlied, husage, hused, hmembers⟩ :=
    firstOrCreateUsage_spec hkeys userId period
  have husedSum := happlied.used
  dsimp only at h
  split_ifs at h with hpos hroom
  · cases h
    exact ⟨applied_save happlied husage hused, hmembers⟩
  -- neither of the two subtractions is cut off
  have hback : giveBack (org.firstOrCreateUsage userId period).1.usedQuota (-delta) =
      (org.firstOrCreateUsage userId period).1.usedQuota + delta := by
    unfold giveBack
    rw [if_pos (by omega)]
    ring
  have hbackUsage : giveBack (org.firstOrCreateUsage userId period).2.usedQuota (-delta) =
      (org.firstOrCreateUsage userId period).2.usedQuota + delta := by
    unfold giveBack
    rw [if_pos (by omega)]
    ring
  cases h
  rw [hback, hbackUsage, ← sub_eq_add_neg]
  exact ⟨applied_save happlied husage hused, hmembers⟩

end Apply

section Calls

variable (now : String) (dbError : Bool) (org : Organization) (userId : ℕ) (period : String)

/-- A reservation commits its transaction and answers true, or it changes nothing. -/
theorem tryReserve_cases (quota : ℤ) :
    (∃ p org', normalizedOrganizationPeriod now period = some p ∧ 0 ≤ quota ∧
      tryReserveTx org userId quota p = .ok org' ∧
      tryReserveOrganizationQuota now dbError org userId quota period = (.ok true, org')) ∨
    ∃ answer, answer ≠ .ok true ∧
      tryReserveOrganizationQuota now dbError org userId quota period = (answer, org) := by
  unfold tryReserveOrganizationQuota
  by_cases hneg : quota < 0
  · rw [if_pos hneg]
    exact .inr ⟨_, by simp, rfl⟩
  rw [if_neg hneg]
  by_cases hmax : maxWalletQuota < quota
  · rw [if_pos hmax]
    exact .inr ⟨_, by simp, rfl⟩
  rw [if_neg hmax]
  cases hperiod : normalizedOrganizationPeriod now period with
  | none => exact .inr ⟨_, by simp, rfl⟩
  | some p =>
    dsimp only
    cases dbError with
    | true => exact .inr ⟨_, by simp, rfl⟩
    | false =>
      cases htx : tryReserveTx org userId quota p with
      | ok org' => exact .inl ⟨p, org', rfl, by omega, htx, rfl⟩
      | error e => cases e <;> exact .inr ⟨_, by simp, rfl⟩

/-- A settlement of 0 does nothing, another one commits its transaction or fails. -/
theorem adjust_cases (delta : ℤ) :
    (delta = 0 ∧ adjustOrganizationQuota now dbError org userId delta period = (.ok (), org)) ∨
    (∃ p org', normalizedOrganizationPeriod now period = some p ∧
      adjustTx org userId delta p = .ok org' ∧
      adjustOrganizationQuota now dbError org userId delta period = (.ok (), org')) ∨
    ∃ e, adjustOrganizationQuota now dbError org userId delta period = (.error e, org) := by
  unfold adjustOrganizationQuota
  by_cases hzero : delta = 0
  · rw [if_pos hzero]
    exact .inl ⟨hzero, rfl⟩
  rw [if_neg hzero]
  by_cases hmax : maxWalletQuota < delta ∨ delta < -maxWalletQuota
  · rw [if_pos hmax]
    exact .inr (.inr ⟨_, rfl⟩)
  rw [if_neg hmax]
  cases hperiod : normalizedOrganizationPeriod now period with
  | none => exact .inr (.inr ⟨_, rfl⟩)
  | some p =>
    dsimp only
    cases dbError with
    | true => exact .inr (.inr ⟨_, rfl⟩)
    | false =>
      cases htx : adjustTx org userId delta p with
      | ok org' => exact .inr (.inl ⟨p, org', rfl, htx, rfl⟩)
      | error e => exact .inr (.inr ⟨e, rfl⟩)

end Calls

/-! ## Runs -/

/-- The organization, what it was topped up with, and what each member was charged and refunded in
each period. -/
structure Books where
  organization : Organization
  toppedUp : ℤ
  charged : ℕ × String → ℤ
  refunded : ℕ × String → ℤ

/-- The steps: the two calls, a top-up, and an edit of the members. -/
inductive Action
  | reserve (now : String) (dbError : Bool) (userId : ℕ) (quota : ℤ) (period : String)
  | adjust (now : String) (dbError : Bool) (userId : ℕ) (delta : ℤ) (period : String)
  | topUp (quota : ℤ)
  | setMembers (members : List Member)

/-- An account with one more entry. -/
def post (account : ℕ × String → ℤ) (userId : ℕ) (period : Option String) (amount : ℤ) :
    ℕ × String → ℤ :=
  match period with
  | none => account
  | some p => Function.update account (userId, p) (account (userId, p) + amount)

@[simp] theorem post_zero (account : ℕ × String → ℤ) (userId : ℕ) (period : Option String) :
    post account userId period 0 = account := by
  cases period with
  | none => rfl
  | some p => simp [post]

/-- The books with another organization and an entry in both accounts. -/
def Books.entered (b : Books) (org : Organization) (userId : ℕ) (p : String) (charge refund : ℤ) :
    Books :=
  { b with
    organization := org
    charged := post b.charged userId (some p) charge
    refunded := post b.refunded userId (some p) refund }

/-- One step. A top-up is bounded like those of `creditTopUpWallet` and
`TransferUserQuotaToOrganization`. -/
def step (b : Books) : Action → Option Books
  | .reserve now dbError userId quota period =>
    let out := tryReserveOrganizationQuota now dbError b.organization userId quota period
    match out.1 with
    | .ok true => some { b with
        organization := out.2
        charged := post b.charged userId (normalizedOrganizationPeriod now period) quota }
    | _ => some { b with organization := out.2 }
  | .adjust now dbError userId delta period =>
    let out := adjustOrganizationQuota now dbError b.organization userId delta period
    match out.1 with
    | .ok () =>
      if 0 < delta then some { b with
        organization := out.2
        charged := post b.charged userId (normalizedOrganizationPeriod now period) delta }
      else some { b with
        organization := out.2
        refunded := post b.refunded userId (normalizedOrganizationPeriod now period) (-delta) }
    | .error _ => some { b with organization := out.2 }
  | .topUp quota =>
    if 0 < quota ∧ b.organization.quota ≤ maxWalletQuota - quota then
      some { b with
        organization := { b.organization with quota := b.organization.quota + quota }
        toppedUp := b.toppedUp + quota }
    else some b
  | .setMembers members =>
    some { b with organization := { b.organization with members := members } }

/-- The refunds of a member in a period do not exceed what the member was charged in it. -/
def RefundsCovered (b : Books) : Action → Prop
  | .adjust now _ userId delta period =>
    match normalizedOrganizationPeriod now period with
    | none => True
    | some p => delta < 0 → b.refunded (userId, p) + -delta ≤ b.charged (userId, p)
  | _ => True

theorem refundsCovered_adjust (b : Books) {now period p : String} (dbError : Bool) (userId : ℕ)
    (delta : ℤ) (hperiod : normalizedOrganizationPeriod now period = some p) :
    RefundsCovered b (.adjust now dbError userId delta period) ↔
      (delta < 0 → b.refunded (userId, p) + -delta ≤ b.charged (userId, p)) := by
  unfold RefundsCovered
  dsimp only
  rw [hperiod]

instance (b : Books) (a : Action) : Decidable (RefundsCovered b a) :=
  match a with
  | .adjust now dbError userId delta period =>
    match h : normalizedOrganizationPeriod now period with
    | none => isTrue (by unfold RefundsCovered; dsimp only; rw [h]; trivial)
    | some _ => decidable_of_iff _ (refundsCovered_adjust b dbError userId delta h).symm
  | .reserve .. => isTrue trivial
  | .topUp _ => isTrue trivial
  | .setMembers _ => isTrue trivial

/-- A new organization. -/
def opened (quota : ℤ) (members : List Member) : Books :=
  ⟨⟨quota, 0, members, []⟩, 0, fun _ => 0, fun _ => 0⟩

/-- The books of an organization that was opened with the quota `opening`. -/
structure Balanced (opening : ℤ) (b : Books) : Prop where
  total : b.organization.quota + b.organization.usedQuota = opening + b.toppedUp
  used : b.organization.usedQuota = (b.organization.usages.map Usage.usedQuota).sum
  keys : (b.organization.usages.map Usage.key).Nodup
  usage : ∀ k, b.organization.usageOf k = b.charged k - b.refunded k
  covered : ∀ k, b.refunded k ≤ b.charged k

namespace Balanced

variable {opening : ℤ} {b c : Books}

theorem opened (quota : ℤ) (members : List Member) : Balanced quota (opened quota members) :=
  ⟨by simp [OrganizationWallet.opened], rfl, nodup_nil, fun _ => rfl, fun _ => le_rfl⟩

section

variable (h : Balanced opening b)

include h

/-- The usage row of a key is part of the sum. -/
theorem usageOf_le_used (k : ℕ × String) : b.organization.usageOf k ≤ b.organization.usedQuota := by
  have hnonneg : ∀ x ∈ b.organization.usages.map Usage.usedQuota, 0 ≤ x := by
    intro x hx
    obtain ⟨usage, husage, rfl⟩ := List.mem_map.1 hx
    have hfind : b.organization.usage? usage.key = some usage := by
      cases hfind : b.organization.usage? usage.key with
      | none =>
        have := find?_eq_none.1 hfind usage husage
        simp at this
      | some other =>
        have hkey : other.key = usage.key := key_of_find? hfind
        have hmem := mem_of_find?_eq_some hfind
        rw [inj_on_of_nodup_map h.keys hmem husage hkey]
    have hvalue := h.usage usage.key
    have hcovered := h.covered usage.key
    simp only [Organization.usageOf, hfind, map_some, getD_some] at hvalue
    omega
  rw [h.used]
  cases hfind : b.organization.usage? k with
  | none =>
    simp only [Organization.usageOf, hfind, map_none, getD_none]
    exact sum_nonneg hnonneg
  | some usage =>
    simp only [Organization.usageOf, hfind, map_some, getD_some]
    exact single_le_sum hnonneg _ (List.mem_map_of_mem (mem_of_find?_eq_some hfind))

/-- A move that is entered in the accounts of its member and period. -/
theorem applied {userId : ℕ} {p : String} {amount charge refund : ℤ} {org : Organization}
    (happlied : Applied b.organization (userId, p) amount org) (hamount : amount = charge - refund)
    (hcovered : b.refunded (userId, p) + refund ≤ b.charged (userId, p) + charge) :
    Balanced opening (b.entered org userId p charge refund) := by
  obtain ⟨hquota, hused, hsum, hkeys, husage⟩ := happlied
  refine ⟨?_, ?_, hkeys, fun k => ?_, fun k => ?_⟩
  · dsimp only [Books.entered]
    have := h.total
    omega
  · dsimp only [Books.entered]
    rw [hused, h.used, hsum]
  · dsimp only [Books.entered, post]
    rw [husage, h.usage]
    by_cases hk : k = (userId, p)
    · subst hk
      rw [if_pos rfl, update_self, update_self]
      omega
    · rw [if_neg hk, update_of_ne hk, update_of_ne hk, h.usage]
  · dsimp only [Books.entered, post]
    by_cases hk : k = (userId, p)
    · subst hk
      rw [update_self, update_self]
      exact hcovered
    · rw [update_of_ne hk, update_of_ne hk]
      exact h.covered k

/-- A settlement in a balanced run is not cut off. -/
theorem adjustTx_ok {userId : ℕ} {delta : ℤ} {p : String} {org : Organization}
    (hrefund : delta < 0 → b.refunded (userId, p) + -delta ≤ b.charged (userId, p))
    (htx : adjustTx b.organization userId delta p = .ok org) :
    Applied b.organization (userId, p) delta org := by
  have husage := h.usage (userId, p)
  have hnet := h.covered (userId, p)
  have hle := h.usageOf_le_used (userId, p)
  have hback : -delta ≤ b.organization.usageOf (userId, p) := by
    rcases lt_or_ge delta 0 with hneg | hpos
    · have := hrefund hneg
      omega
    · omega
  exact (OrganizationWallet.adjustTx_ok h.keys hback (hback.trans hle) htx).1

/-- One step keeps the books. -/
theorem step {a : Action} (hok : RefundsCovered b a) (hstep : step b a = some c) :
    Balanced opening c := by
  cases a with
  | reserve now dbError userId quota period =>
    rcases tryReserve_cases now dbError b.organization userId period quota with
      ⟨p, org', hperiod, hnonneg, htx, hout⟩ | ⟨answer, hanswer, hout⟩
    · simp only [OrganizationWallet.step, hout, hperiod] at hstep
      cases hstep
      have happlied := (tryReserveTx_ok h.keys htx).1
      have hcovered := h.covered (userId, p)
      have hcharge : Balanced opening (b.entered org' userId p quota 0) :=
        h.applied happlied (by ring) (by omega)
      rw [Books.entered, post_zero] at hcharge
      exact hcharge
    · simp only [OrganizationWallet.step, hout] at hstep
      cases hstep
      exact h
  | adjust now dbError userId delta period =>
    rcases adjust_cases now dbError b.organization userId period delta with
      ⟨hzero, hout⟩ | ⟨p, org', hperiod, htx, hout⟩ | ⟨e, hout⟩
    · subst hzero
      simp only [OrganizationWallet.step, hout, lt_irrefl, if_false, neg_zero, post_zero] at hstep
      cases hstep
      exact h
    · rw [refundsCovered_adjust b dbError userId delta hperiod] at hok
      have happlied := h.adjustTx_ok hok htx
      have hcovered := h.covered (userId, p)
      simp only [OrganizationWallet.step, hout, hperiod] at hstep
      split at hstep
      · cases hstep
        have hcharge : Balanced opening (b.entered org' userId p delta 0) :=
          h.applied happlied (by ring) (by omega)
        rw [Books.entered, post_zero] at hcharge
        exact hcharge
      next hpos =>
        cases hstep
        have hrefund : Balanced opening (b.entered org' userId p 0 (-delta)) := by
          refine h.applied happlied (by ring) ?_
          rcases (not_lt.1 hpos).lt_or_eq with hneg | hzero
          · have hle := hok hneg
            omega
          · omega
        rw [Books.entered, post_zero] at hrefund
        exact hrefund
    · simp only [OrganizationWallet.step, hout] at hstep
      cases hstep
      exact h
  | topUp quota =>
    simp only [OrganizationWallet.step] at hstep
    split at hstep
    · cases hstep
      refine { h with total := ?_ }
      dsimp only
      have := h.total
      omega
    · cases hstep
      exact h
  | setMembers members =>
    cases hstep
    exact { h with }

end

end Balanced

/-- A reservation of a positive amount that answers true leaves the wallet and the usage in their
limits. -/
theorem tryReserve_in_limits {org : Organization} (hkeys : (org.usages.map Usage.key).Nodup)
    {now period p : String} {dbError : Bool} {userId : ℕ} {amount : ℤ} {member : Member}
    (hperiod : normalizedOrganizationPeriod now period = some p)
    (hmember : org.activeMember? userId = some member) (hpos : 0 < amount)
    (htrue : (tryReserveOrganizationQuota now dbError org userId amount period).1 = .ok true) :
    let org' := (tryReserveOrganizationQuota now dbError org userId amount period).2
    0 ≤ org'.quota ∧
      (0 < member.monthlyQuotaLimit → org'.usageOf (userId, p) ≤ member.monthlyQuotaLimit) := by
  rcases tryReserve_cases now dbError org userId period amount with
    ⟨q, org', hq, -, htx, hout⟩ | ⟨answer, hanswer, hout⟩
  · obtain rfl : p = q := some.inj (hperiod.symm.trans hq)
    obtain ⟨happlied, -, found, hfound, hchecked⟩ := tryReserveTx_ok hkeys htx
    obtain rfl : member = found := some.inj (hmember.symm.trans hfound)
    obtain ⟨hquota, hlimit⟩ := hchecked hpos.ne'
    rw [hout]
    refine ⟨?_, fun hset => ?_⟩
    · rw [happlied.quota]
      omega
    · rw [happlied.usage, if_pos rfl]
      exact hlimit hset
  · rw [hout] at htrue
    exact absurd htrue hanswer

/-- A reservation of 0 asks only for an active member. -/
theorem tryReserve_nothing {now period : String} {org : Organization} {userId : ℕ}
    (hperiod : (normalizedOrganizationPeriod now period).isSome)
    (hmember : (org.activeMember? userId).isSome) :
    (tryReserveOrganizationQuota now false org userId 0 period).1 = .ok true := by
  obtain ⟨p, hp⟩ := isSome_iff_exists.1 hperiod
  obtain ⟨member, hm⟩ := isSome_iff_exists.1 hmember
  have hceiling : ¬maxWalletQuota < 0 := by decide
  simp [tryReserveOrganizationQuota, tryReserveTx, hp, hm, hceiling]

/-- **The wallet of an organization.** In every run in which the refunds of each member and period
are covered by what was charged, the quota and the used quota change together only by
top-ups, and the used quota is the sum of the recorded usage. A reservation of a positive
amount that answers true leaves a quota that is not negative and a usage within the limit, a
reservation of 0 answers true for every active member, and a reservation that does not answer true
changes nothing. -/
theorem organization_wallet_balanced {quota : ℤ} {members : List Member} {b : Books}
    (hrun : Exec step RefundsCovered (opened quota members) b) :
    b.organization.quota + b.organization.usedQuota = quota + b.toppedUp ∧
    b.organization.usedQuota = (b.organization.usages.map Usage.usedQuota).sum ∧
    ∀ now dbError userId amount period,
      let out := tryReserveOrganizationQuota now dbError b.organization userId amount period
      (out.1 = .ok true → 0 < amount → 0 ≤ out.2.quota ∧
        ∃ p member, normalizedOrganizationPeriod now period = some p ∧
          b.organization.activeMember? userId = some member ∧
          (0 < member.monthlyQuotaLimit → out.2.usageOf (userId, p) ≤ member.monthlyQuotaLimit)) ∧
      (dbError = false → amount = 0 → (normalizedOrganizationPeriod now period).isSome →
        (b.organization.activeMember? userId).isSome → out.1 = .ok true) ∧
      (out.1 ≠ .ok true → out.2 = b.organization) := by
  have hbalanced : Balanced quota b :=
    Exec.invariant (fun _ _ _ h hok hs => h.step hok hs) (Balanced.opened quota members) hrun
  refine ⟨hbalanced.total, hbalanced.used, fun now dbError userId amount period => ⟨?_, ?_, ?_⟩⟩
  · intro htrue hpos
    rcases tryReserve_cases now dbError b.organization userId period amount with
      ⟨p, org', hperiod, -, htx, hout⟩ | ⟨answer, hanswer, hout⟩
    · obtain ⟨-, -, member, hmember, -⟩ := tryReserveTx_ok hbalanced.keys htx
      obtain ⟨hquota, hlimit⟩ :=
        tryReserve_in_limits hbalanced.keys hperiod hmember hpos htrue
      exact ⟨hquota, p, member, hperiod, hmember, hlimit⟩
    · rw [hout] at htrue
      exact absurd htrue hanswer
  · rintro rfl rfl
    exact tryReserve_nothing
  · intro hfalse
    rcases tryReserve_cases now dbError b.organization userId period amount with
      ⟨p, org', -, -, -, hout⟩ | ⟨answer, -, hout⟩
    · rw [hout] at hfalse
      exact absurd rfl hfalse
    · rw [hout]

/-- A member reserves, settles with a refund, and reserves again in the next month. -/
theorem organization_wallet_balanced_two_months :
    ∃ b, Exec step RefundsCovered (opened 100 [⟨7, true, 50⟩]) b ∧
      b.organization.usages = [⟨7, "2026-02", 20⟩, ⟨7, "2026-01", 30⟩] ∧
      (b.organization.activeMember? 7).isSome ∧
      b.organization.quota + b.organization.usedQuota = 100 + b.toppedUp ∧
      b.organization.usedQuota = (b.organization.usages.map Usage.usedQuota).sum ∧
      (tryReserveOrganizationQuota "2026-02" false b.organization 7 0 "").1 = .ok true := by
  refine Exec.exists_and_and_of_actions [.reserve "2026-01" false 7 40 "", .topUp 5,
    .adjust "2026-02" false 7 (-10) " 2026-01 ", .reserve "2026-02" false 7 60 "",
    .reserve "2026-02" false 7 20 ""] (by decide +kernel) fun _ hrun _ hactive => ?_
  obtain ⟨htotal, hused, hreserve⟩ := organization_wallet_balanced hrun
  exact ⟨htotal, hused, (hreserve "2026-02" false 7 0 "").2.1 rfl rfl (by decide) hactive⟩

/-- A settlement leaves the organization in debt and the member over the limit. A reservation of 0
answers true all the same. -/
theorem reserve_nothing_in_debt :
    ∃ b, Exec step RefundsCovered (opened 10 [⟨7, true, 10⟩]) b ∧
      let out := tryReserveOrganizationQuota "2026-01" false b.organization 7 0 "2026-01"
      out.1 = .ok true ∧ out.2.quota < 0 ∧ 10 < out.2.usageOf (7, "2026-01") := by
  exact Exec.exists_of_actions [.reserve "2026-01" false 7 10 "2026-01",
    .adjust "2026-01" false 7 5 "2026-01"] (by decide +kernel)

end OmniRouters.OrganizationWallet
