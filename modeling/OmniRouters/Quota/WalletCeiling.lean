import OmniRouters.Payment.Referral
import OmniRouters.Quota.BatchUpdate

/-!
# The ceiling of a wallet

A wallet holds at most `MaxWalletQuota`. `IncreaseUserQuota` on the database, the credits of top-ups
and redemptions and the transfers of cashback add to a wallet in one update with the condition that
it stays below the ceiling (model/user.go:1220-1238, model/topup.go:131-156,
model/referral_reward.go:179-185). The update of a batch flush and
`TransferAffQuotaToQuota` have no such condition. The flushes are those of `BatchUpdate`; each of
the other calls changes a wallet in one statement or under the lock of its row.

* `Call.exec_bounded`: what a call leaves in the wallets.
* `Call.exec_exceeds`: a call that would pass the ceiling fails.
* `wallet_ceiling_kept`: if no flush and no transfer of the affiliate quota passes the ceiling, no
  wallet ever does.
* `wallet_ceiling_passed`: one flush and one transfer that do.
-/

namespace OmniRouters.Quota.WalletCeiling

open Billing Lib Payment Function

/-! ## Calls -/

/-- The balances of a user. -/
structure Wallet where
  quota : ℤ
  usedQuota : ℤ
  requestCount : ℤ
  affQuota : ℤ
deriving DecidableEq

/-- `common.BatchUpdateEnabled` and `common.QuotaPerUnit`. -/
structure Config where
  batchUpdateEnabled : Bool
  quotaPerUnit : ℚ

/-- The stored balances, and the batch updates. -/
structure Shared where
  users : ℕ → Option Wallet
  batch : BatchUpdate.Shared

/-- The calls that change a wallet. `creditTopUpQuota` is the credit of a top-up and of a
redemption, and `rewards` are the rows that a transfer of cashback has locked. -/
inductive Call
  | increaseUserQuota (id : ℕ) (quota : ℤ) (db : Bool)
  | decreaseUserQuota (id : ℕ) (quota : ℤ) (db : Bool)
  | creditTopUpQuota (id : ℕ) (creditedQuota : ℤ)
  | transferPendingReferralCashback (id : ℕ) (rewards : List Referral.ReferralReward)
  | transferAffQuotaToQuota (id : ℕ) (quota : ℤ)

/-- A new quota for a user. -/
def Shared.setQuota (s : Shared) (id : ℕ) (wallet : Wallet) (quota : ℤ) : Shared :=
  { s with users := Function.update s.users id (some { wallet with quota := quota }) }

/-- The update with the condition `quota <= MaxWalletQuota - amount`. -/
def Shared.addBounded (s : Shared) (id : ℕ) (amount : ℤ) : Bool × Shared :=
  match s.users id with
  | none => (false, s)
  | some wallet =>
    if wallet.quota ≤ maxWalletQuota - amount then
      (true, s.setQuota id wallet (wallet.quota + amount))
    else (false, s)

/-- `addNewRecord` of a delta of the quota. -/
def Shared.record (s : Shared) (id : ℕ) (value : ℤ) : Shared :=
  let store := BatchUpdate.addNewRecord (s.batch.stores .userQuota) id value
  { s with batch := { s.batch with
      stores := Function.update s.batch.stores .userQuota store
      recorded := fun k i =>
        s.batch.recorded k i + if k = .userQuota ∧ id = i then value else 0 } }

/-- A call whose statements succeed: whether it returns no error, and what it leaves. -/
def Call.exec (cfg : Config) (s : Shared) : Call → Bool × Shared
  | .increaseUserQuota id quota db =>
    if quota < 0 ∨ maxWalletQuota < quota then (false, s)
    else if db = false ∧ cfg.batchUpdateEnabled then (true, s.record id quota)
    else s.addBounded id quota
  | .decreaseUserQuota id quota db =>
    if quota < 0 then (false, s)
    else if db = false ∧ cfg.batchUpdateEnabled then (true, s.record id (-quota))
    else match s.users id with
      | none => (true, s)
      | some wallet => (true, s.setQuota id wallet (wallet.quota - quota))
  | .creditTopUpQuota id creditedQuota =>
    match s.users id, Payment.creditTopUpQuota ((s.users id).map Wallet.quota) creditedQuota with
    | some wallet, some quota => (true, s.setQuota id wallet quota)
    | _, _ => (false, s)
  | .transferPendingReferralCashback id rewards =>
    match Referral.sumPending 0 rewards with
    | none => (false, s)
    | some transferred => if transferred = 0 then (true, s) else s.addBounded id transferred
  | .transferAffQuotaToQuota id quota =>
    if quota < cfg.quotaPerUnit then (false, s)
    else match s.users id with
      | none => (false, s)
      | some wallet =>
        if wallet.affQuota < quota then (false, s)
        else
          let wallet := { wallet with affQuota := wallet.affQuota - quota }
          (true, s.setQuota id wallet (wallet.quota + quota))

/-! ## Steps -/

inductive Thread
  | call (call : Call)
  | batch (thread : BatchUpdate.Thread)

/-- `updateUserQuotaUsedQuotaAndRequestCount` (user.go:1330-1345). -/
def addToUser (users : ℕ → Option Wallet) (id : ℕ) (quota usedQuota requestCount : ℤ) :
    ℕ → Option Wallet :=
  Function.update users id ((users id).map fun wallet => { wallet with
    quota := wallet.quota + quota
    usedQuota := wallet.usedQuota + usedQuota
    requestCount := wallet.requestCount + requestCount })

def nextUpdate? (index : ℕ) : BatchUpdate.Thread → Option (ℕ × ℤ × ℤ × ℤ)
  | .flush updates =>
    match updates[index]? with
    | some (.user id quota usedQuota requestCount) => some (id, quota, usedQuota, requestCount)
    | _ => none
  | _ => none

/-- The users after a step of the batch updates. -/
def flushed (c : BatchUpdate.Choice) (users : ℕ → Option Wallet) (t : BatchUpdate.Thread) :
    ℕ → Option Wallet :=
  match c.ok, nextUpdate? c.index t with
  | true, some (id, quota, usedQuota, requestCount) =>
    addToUser users id quota usedQuota requestCount
  | _, _ => users

/-- One step. A call may fail in the database. -/
def advance (cfg : Config) (c : BatchUpdate.Choice) (s : Shared) :
    Thread → Option (Shared × List Thread)
  | .call call => some (if c.ok then (call.exec cfg s).2 else s, [])
  | .batch thread => (BatchUpdate.advance c s.batch thread).map fun out =>
    (⟨flushed c s.users thread, out.1⟩, out.2.map Thread.batch)

def Shared.HasRoom (s : Shared) (id : ℕ) (amount : ℤ) : Prop :=
  ∀ wallet ∈ s.users id, wallet.quota + amount ≤ maxWalletQuota

/-- There is room for what the calls without a condition add. -/
def Within (p : Pool Shared Thread) (c : BatchUpdate.Choice) : Thread → Prop
  | .call (.transferAffQuotaToQuota id quota) => p.shared.HasRoom id quota
  | .batch thread => ∀ u ∈ nextUpdate? c.index thread, p.shared.HasRoom u.1 u.2.1
  | _ => True

instance (s : Shared) (id : ℕ) (amount : ℤ) : Decidable (s.HasRoom id amount) :=
  inferInstanceAs (Decidable (∀ wallet ∈ s.users id, _))

instance (p : Pool Shared Thread) (c : BatchUpdate.Choice) :
    (t : Thread) → Decidable (Within p c t)
  | .call (.transferAffQuotaToQuota id quota) =>
    inferInstanceAs (Decidable (p.shared.HasRoom id quota))
  | .batch thread =>
    inferInstanceAs (Decidable (∀ u ∈ nextUpdate? c.index thread, p.shared.HasRoom u.1 u.2.1))
  | .call (.increaseUserQuota ..) => isTrue trivial
  | .call (.decreaseUserQuota ..) => isTrue trivial
  | .call (.creditTopUpQuota ..) => isTrue trivial
  | .call (.transferPendingReferralCashback ..) => isTrue trivial

/-! ## The ceiling -/

/-- No wallet passes the ceiling. -/
def Bounded (users : ℕ → Option Wallet) : Prop :=
  ∀ id wallet, users id = some wallet → wallet.quota ≤ maxWalletQuota

section Steps

variable {cfg : Config} {s : Shared} {id : ℕ}

variable {users : ℕ → Option Wallet}

theorem Bounded.update (h : Bounded users) {next : Option Wallet}
    (hnext : ∀ wallet ∈ next, wallet.quota ≤ maxWalletQuota) :
    Bounded (Function.update users id next) :=
  (forall_update_iff users fun _ user => ∀ wallet ∈ user, wallet.quota ≤ maxWalletQuota).2
    ⟨hnext, fun k _ => h k⟩

variable {wallet : Wallet}

theorem Bounded.setQuota (h : Bounded s.users) {quota : ℤ}
    (hquota : quota ≤ maxWalletQuota) : Bounded (s.setQuota id wallet quota).users := by
  refine h.update fun next hnext => ?_
  cases hnext
  exact hquota

theorem Bounded.addBounded (h : Bounded s.users) (amount : ℤ) :
    Bounded (s.addBounded id amount).2.users := by
  unfold Shared.addBounded
  split
  · exact h
  · split
    · exact h.setQuota (by omega)
    · exact h

variable {amount : ℤ}

theorem addBounded_fails (h : (s.addBounded id amount).1 = false) :
    (s.addBounded id amount).2 = s := by
  unfold Shared.addBounded at h ⊢
  split
  · rfl
  rename_i wallet hwallet
  rw [hwallet] at h
  dsimp only at h
  split
  next hroom =>
    rw [if_pos hroom] at h
    cases h
  · rfl

theorem addBounded_exceeds (hwallet : s.users id = some wallet)
    (hexceeds : maxWalletQuota < wallet.quota + amount) : (s.addBounded id amount).1 = false := by
  unfold Shared.addBounded
  rw [hwallet]
  dsimp only
  rw [if_neg (by omega)]

/-- **What a call leaves.** Only the transfer of the affiliate quota needs room. -/
theorem Call.exec_bounded (call : Call) (h : Bounded s.users)
    (hroom : ∀ id quota, call = .transferAffQuotaToQuota id quota → s.HasRoom id quota) :
    Bounded (call.exec cfg s).2.users := by
  fun_cases Call.exec cfg s call
  case case3 | case12 => exact h.addBounded _
  case case7 id quota _ hquota _ wallet hwallet =>
    have hle := h id wallet hwallet
    exact h.setQuota (by omega)
  case case8 hcredit _ =>
    obtain ⟨current, -, -, -, hle⟩ := creditTopUpQuota_eq_some hcredit
    exact h.setQuota hle
  case case16 id quota _ wallet hwallet _ _ => exact h.setQuota (hroom id quota rfl wallet hwallet)
  all_goals exact h

/-- A call that returns an error has changed nothing. -/
theorem Call.exec_fails (call : Call) (h : (call.exec cfg s).1 = false) :
    (call.exec cfg s).2 = s := by
  revert h
  fun_cases Call.exec cfg s call
  case case3 | case12 => exact addBounded_fails
  case case2 | case5 | case6 | case7 | case8 | case11 | case16 => rintro ⟨⟩
  all_goals exact fun _ => rfl

/-- What a call adds to a wallet when it runs. A record of a batch update adds nothing yet. -/
def Call.credit? (cfg : Config) : Call → Option (ℕ × ℤ)
  | .increaseUserQuota id quota db =>
    if db = false ∧ cfg.batchUpdateEnabled then none else some (id, quota)
  | .decreaseUserQuota .. => none
  | .creditTopUpQuota id creditedQuota => some (id, creditedQuota)
  | .transferPendingReferralCashback id rewards =>
    some (id, ((Referral.positive rewards).map Referral.ReferralReward.rewardQuota).sum)
  | .transferAffQuotaToQuota id quota => some (id, quota)

/-- **A call that would pass the ceiling fails.** -/
theorem Call.exec_exceeds {call : Call} (hbounded : Bounded s.users)
    (hroom : ∀ id quota, call = .transferAffQuotaToQuota id quota → s.HasRoom id quota)
    (hcredit : call.credit? cfg = some (id, amount)) (hwallet : s.users id = some wallet)
    (hexceeds : maxWalletQuota < wallet.quota + amount) : (call.exec cfg s).1 = false := by
  have hle := hbounded id wallet hwallet
  cases call with
  | increaseUserQuota k quota db =>
    dsimp only [Call.credit?] at hcredit
    split at hcredit
    · cases hcredit
    rename_i hdirect
    cases hcredit
    dsimp only [Call.exec]
    split
    · rfl
    · exact addBounded_exceeds hwallet hexceeds
  | decreaseUserQuota => cases hcredit
  | creditTopUpQuota k creditedQuota =>
    cases hcredit
    dsimp only [Call.exec]
    split
    next quota _ hquota =>
      obtain ⟨current, hcurrent, rfl, -, hnext⟩ := creditTopUpQuota_eq_some hquota
      rw [hwallet] at hcurrent
      cases hcurrent
      omega
    · rfl
  | transferPendingReferralCashback k rewards =>
    cases hcredit
    dsimp only [Call.exec]
    split
    · rfl
    rename_i transferred hsum
    have hamount := Referral.sumPending_eq hsum
    rw [zero_add] at hamount
    rw [← hamount] at hexceeds
    rw [if_neg (by omega)]
    exact addBounded_exceeds hwallet hexceeds
  | transferAffQuotaToQuota k quota =>
    cases hcredit
    have hfits := hroom id amount rfl wallet hwallet
    omega

theorem Bounded.flushed (h : Bounded users) {c : BatchUpdate.Choice}
    {t : BatchUpdate.Thread}
    (hroom : ∀ u ∈ nextUpdate? c.index t, ∀ wallet ∈ users u.1,
      wallet.quota + u.2.1 ≤ maxWalletQuota) : Bounded (flushed c users t) := by
  unfold WalletCeiling.flushed
  split
  next id quota usedQuota requestCount _ hnext =>
    refine h.update fun wallet hwallet => ?_
    obtain ⟨old, hold, rfl⟩ := Option.map_eq_some_iff.1 hwallet
    exact hroom _ hnext old hold
  · exact h

end Steps

/-! ## Runs -/

/-- **The ceiling.** In every run in which there is room for each update of a flush and for each
transfer of the affiliate quota: no wallet passes the ceiling, a call that fails changes
nothing, and a call that would pass the ceiling fails. -/
theorem wallet_ceiling_kept {cfg : Config} {p q : Pool Shared Thread}
    (hstart : Bounded p.shared.users)
    (hrun : Exec (Pool.step (advance cfg)) (Pool.Meets Within) p q) :
    Bounded q.shared.users ∧ ∀ call : Call,
      ((call.exec cfg q.shared).1 = false → (call.exec cfg q.shared).2 = q.shared) ∧
      ∀ c id amount wallet, Within q c (.call call) → call.credit? cfg = some (id, amount) →
        q.shared.users id = some wallet → maxWalletQuota < wallet.quota + amount →
        (call.exec cfg q.shared).1 = false := by
  have hbounded : Bounded q.shared.users := by
    refine Pool.invariant (I := fun s _ => Bounded s.users) ?_ ?_ hstart hrun
    · intro s l l' _ h
      exact h
    intro p c t s ts others hwithin _ h hadvance
    cases t with
    | call call =>
      cases hadvance
      split
      · refine call.exec_bounded h fun id quota heq => ?_
        subst heq
        exact hwithin
      · exact h
    | batch thread =>
      obtain ⟨out, -, hout⟩ := Option.map_eq_some_iff.1 hadvance
      cases hout
      exact h.flushed hwithin
  refine ⟨hbounded, fun call => ⟨call.exec_fails, fun c id amount wallet hwithin => ?_⟩⟩
  refine Call.exec_exceeds hbounded fun id quota heq => ?_
  subst heq
  exact hwithin

/-- One user, with batch updates and 500000 quota for a unit. -/
def oneUser (quota affQuota : ℤ) (threads : List Thread) : Pool Shared Thread :=
  ⟨⟨fun id => if id = 1 then some ⟨quota, 0, 0, affQuota⟩ else none,
    ⟨fun _ => BatchUpdate.Store.empty, fun _ _ => 0, fun _ _ => 0⟩⟩, threads⟩

def batchConfig : Config := ⟨true, 500000⟩

def quotaOf (q : Pool Shared Thread) : Option ℤ := (q.shared.users 1).map Wallet.quota

/-- An increase in a batch fills the wallet, and a redemption is then refused. -/
theorem wallet_ceiling_kept_full :
    ∃ q, Exec (Pool.step (advance batchConfig)) (Pool.Meets Within)
        (oneUser (maxWalletQuota - 7) 0
          [.call (.increaseUserQuota 1 7 false), .batch BatchUpdate.batchUpdate]) q ∧
      quotaOf q = some maxWalletQuota ∧
      (Call.exec batchConfig q.shared (.creditTopUpQuota 1 5)).1 = false := by
  have hstart : Bounded (oneUser (maxWalletQuota - 7) 0
      [.call (.increaseUserQuota 1 7 false), .batch BatchUpdate.batchUpdate]).shared.users := by
    intro id wallet hwallet
    dsimp only [oneUser] at hwallet
    split at hwallet
    · cases hwallet
      decide
    · cases hwallet
  refine Exec.exists_and_of_actions (List.replicate 9 (0, ⟨true, 0⟩)) (by decide +kernel)
    fun q hrun hquota => ?_
  obtain ⟨wallet, hwallet, hmax⟩ := Option.map_eq_some_iff.1 hquota
  exact ((wallet_ceiling_kept hstart hrun).2 _).2 ⟨true, 0⟩ 1 5 wallet trivial rfl hwallet
    (by omega)

/-- A flush and a transfer of the affiliate quota to a full wallet pass the ceiling. -/
theorem wallet_ceiling_passed :
    (∃ q, Exec (Pool.step (advance batchConfig)) (fun _ _ => True) (oneUser maxWalletQuota 0
          [.call (.increaseUserQuota 1 1 false), .batch BatchUpdate.batchUpdate]) q ∧
      quotaOf q = some (maxWalletQuota + 1)) ∧
    ∃ q, Exec (Pool.step (advance batchConfig)) (fun _ _ => True)
        (oneUser maxWalletQuota 500000 [.call (.transferAffQuotaToQuota 1 500000)]) q ∧
      quotaOf q = some (maxWalletQuota + 500000) := by
  constructor
  · exact Exec.exists_of_actions (List.replicate 9 (0, ⟨true, 0⟩)) (by decide +kernel)
  · exact Exec.exists_of_actions [(0, ⟨true, 0⟩)] (by decide +kernel)

end OmniRouters.Quota.WalletCeiling
