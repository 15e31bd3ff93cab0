import OmniRouters.Lib.Mutex
import OmniRouters.Lib.Threads
import OmniRouters.Payment.TopUp

/-!
# Referral cashback

The first top-up of an invitee adds a reward for the inviter, in the transaction that completes
the order (`ApplyFirstTopUpReferralCashbackTx`, model/referral_reward.go:325-393). The
reward is pending until `TransferPendingReferralCashback` (lines 147-202) moves it to the wallet of
the inviter. This is a model of any number of completions and transfers for one inviter, statement
by statement. What a transaction writes is seen by others when it commits, rows are locked, the
reward rows are unique by invitee and by order, and any statement or commit may fail.

* `selectPending_sum`: what a transfer adds up.
* `Sound.step`: one statement keeps the locks, the unique rows and the wallet.
* `referral_cashback_transferred`: the wallet grows by the rewards that became credited, and by
  each of them once.
-/

namespace OmniRouters.Payment.Referral

open Billing Lib List

/-! ## Rewards -/

/-- The reward types (line 208). -/
inductive ReferralRewardType
  | firstTopUpCashback
deriving DecidableEq

/-- The states of a reward (lines 215-220). -/
inductive ReferralRewardStatus
  | pending
  | credited
  | noReward
  | reversed
  | cancelled
  | failed
deriving DecidableEq

/-- A row of `referral_rewards`. -/
structure ReferralReward where
  id : ℕ
  inviterId : ℕ
  inviteeId : ℕ
  rewardType : ReferralRewardType
  status : ReferralRewardStatus
  sourceTopUpId : Option ℕ
  sourceTradeNo : String
  baseQuota : ℤ
  baseMoney : ℚ
  rewardRateBps : ℤ
  rewardQuota : ℤ
  failureReason : String
  createdAt : ℤ
  creditedAt : Option ℤ
deriving DecidableEq

/-- `validateReferralReward` (lines 278-299). The type and the status are valid by their types. -/
def ReferralReward.valid (reward : ReferralReward) : Bool :=
  0 < reward.inviterId ∧ 0 < reward.inviteeId ∧ reward.inviterId ≠ reward.inviteeId ∧
    0 ≤ reward.baseQuota ∧ 0 ≤ reward.rewardQuota ∧ 0 ≤ reward.baseMoney ∧
    0 ≤ reward.rewardRateBps ∧ reward.rewardRateBps ≤ 10000 ∧ reward.sourceTopUpId ≠ some 0

/-- The unique indexes: one reward of a type for an invitee, and one for a top-up. -/
def ReferralReward.conflicts (reward row : ReferralReward) : Bool :=
  row.rewardType = reward.rewardType ∧
    (row.inviteeId = reward.inviteeId ∨
      reward.sourceTopUpId ≠ none ∧ row.sourceTopUpId = reward.sourceTopUpId)

/-- `referralCashbackRateBps` (lines 300-309); `none` is not a number. -/
def referralCashbackRateBps (rate : Option ℚ) : Option ℤ :=
  rate.bind fun rate =>
    if rate < 0 ∨ 100 < rate then none
    else
      let bps := roundHalfAway (rate * 100)
      if bps < 0 ∨ 10000 < bps then none else some bps

/-- `referralCashbackQuota` (lines 311-318). -/
def referralCashbackQuota (creditedQuota rateBps : ℤ) : Option ℤ :=
  if creditedQuota ≤ 0 ∨ rateBps < 0 ∨ 10000 < rateBps then none
  else walletQuotaFromDecimalStrict (creditedQuota * rateBps / 10000)

/-- A row of `top_ups` with its id. -/
structure OrderRow where
  id : ℕ
  topUp : TopUp
deriving DecidableEq

/-- The inviter whose transfers are modelled, the users with their inviters (0 for none), and
`common.ReferralFirstTopUpCashbackRate`. -/
structure Config where
  userID : ℕ
  inviterOf : ℕ → Option ℕ
  cashbackRate : Option ℚ

/-- The reward of an order (lines 361-390). -/
def cashbackReward (cfg : Config) (order : OrderRow) (inviterId : ℕ) (creditedQuota : ℤ) :
    ReferralReward :=
  let rateBps := (referralCashbackRateBps cfg.cashbackRate).getD 0
  let rewardQuota := (referralCashbackQuota creditedQuota rateBps).getD 0
  { id := 0
    inviterId := inviterId
    inviteeId := order.topUp.userId
    rewardType := .firstTopUpCashback
    status := if rewardQuota = 0 then .noReward else .pending
    sourceTopUpId := some order.id
    sourceTradeNo := order.topUp.tradeNo
    baseQuota := creditedQuota
    baseMoney := order.topUp.money
    rewardRateBps := rateBps
    rewardQuota := rewardQuota
    failureReason := if rewardQuota = 0 then "cashback disabled or below one quota unit" else ""
    createdAt := 0
    creditedAt := none }

/-- An earlier top-up of the wallet of a user (lines 341-344). -/
def previousWalletTopUp (order row : OrderRow) : Bool :=
  row.topUp.userId = order.topUp.userId ∧ row.topUp.organizationId = 0 ∧
    row.topUp.status = .success ∧ 0 < row.topUp.amount ∧ row.id ≠ order.id

/-- `ApplyFirstTopUpReferralCashbackTx` up to the insert, for an order of a user: an error, no
reward, or the reward to insert. -/
def applyFirstTopUpReferralCashback (cfg : Config) (orders : List OrderRow) (order : OrderRow)
    (creditedQuota : ℤ) : Option (Option ReferralReward) :=
  if order.id = 0 ∨ order.topUp.userId = 0 ∨ creditedQuota ≤ 0 then none
  else match cfg.inviterOf order.topUp.userId with
    | none => none
    | some inviterId =>
      if inviterId = 0 ∨ inviterId = order.topUp.userId then some none
      else if orders.any (previousWalletTopUp order) then some none
      else match cfg.inviterOf inviterId with
        | none => some none
        | some _ =>
          let reward := cashbackReward cfg order inviterId creditedQuota
          if reward.valid then some (some reward) else none

theorem applyFirst_status {cfg : Config} {orders : List OrderRow} {order : OrderRow}
    {creditedQuota : ℤ} {reward : Option ReferralReward}
    (h : applyFirstTopUpReferralCashback cfg orders order creditedQuota = some reward) :
    ∀ r ∈ reward, r.status ≠ .credited := by
  have hstatus (inviterId : ℕ) :
      (cashbackReward cfg order inviterId creditedQuota).status ≠ .credited := by
    dsimp only [cashbackReward]
    split <;> decide
  revert h
  fun_cases applyFirstTopUpReferralCashback cfg orders order creditedQuota <;> intro h <;> cases h
  case case3 | case4 | case5 => exact fun _ hr => absurd hr (Option.not_mem_none _)
  intro r hr
  cases hr
  exact hstatus _

/-! ## Transfers -/

/-- The rows that a transfer reads (lines 158-165). No ids means all. -/
def ReferralReward.selected (userID : ℕ) (rewardIDs : List ℕ) (reward : ReferralReward) : Bool :=
  reward.inviterId = userID ∧ reward.rewardType = .firstTopUpCashback ∧
    reward.status = .pending ∧ (rewardIDs = [] ∨ reward.id ∈ rewardIDs)

/-- The loop over the rows (lines 166-175): what is transferred, unless it passes the ceiling. -/
def sumPending (transferred : ℤ) : List ReferralReward → Option ℤ
  | [] => some transferred
  | reward :: rewards =>
    if reward.rewardQuota ≤ 0 then sumPending transferred rewards
    else if maxWalletQuota - reward.rewardQuota < transferred then none
    else sumPending (transferred + reward.rewardQuota) rewards

/-- The rows with a positive quota. -/
def positive (rewards : List ReferralReward) : List ReferralReward :=
  rewards.filter (0 < ·.rewardQuota)

theorem sumPending_eq {rewards : List ReferralReward} {start transferred : ℤ}
    (h : sumPending start rewards = some transferred) :
    transferred = start + ((positive rewards).map ReferralReward.rewardQuota).sum := by
  induction rewards generalizing start with
  | nil =>
    cases h
    simp [positive]
  | cons reward rewards ih =>
    unfold sumPending at h
    unfold positive at ih ⊢
    split at h
    next hzero =>
      rw [filter_cons_of_neg (by simpa using hzero)]
      exact ih h
    next hpos =>
      split at h
      · cases h
      · rw [filter_cons_of_pos (by simpa using hpos), map_cons, sum_cons, ih h]
        ring

/-! ## The calls -/

/-- What a transaction with an early snapshot sees. -/
abbrev View := Option (List OrderRow × List ReferralReward)

/-- A call, by its next statement. -/
inductive Thread
  /-- A completion: lock the order and save it as complete. -/
  | complete (orderId : ℕ) (creditedQuota : ℤ)
  /-- A completion: credit the wallet, which locks the user. -/
  | credit (order : OrderRow) (creditedQuota : ℤ) (view : View)
  /-- `ApplyFirstTopUpReferralCashbackTx` up to the insert. -/
  | apply (order : OrderRow) (creditedQuota : ℤ) (view : View)
  /-- `CreateReferralRewardIfAbsent`, and the commit. -/
  | insert (order : OrderRow) (creditedQuota : ℤ) (reward : Option ReferralReward) (view : View)
  /-- `TransferPendingReferralCashback`: lock the inviter. -/
  | transfer (rewardIDs : List ℕ)
  /-- Lock and read the pending rewards. -/
  | select (rewardIDs : List ℕ)
  /-- Credit the wallet of the inviter. -/
  | pay (rewards : List ReferralReward) (transferred : ℤ)
  /-- Mark the rewards, and commit. -/
  | mark (rewards : List ReferralReward) (transferred : ℤ)
  /-- Another change of the wallet of the inviter. -/
  | wallet (delta : ℤ)
  /-- A new pending order. -/
  | place (order : OrderRow)
deriving DecidableEq

/-- The committed rows, the wallet of the inviter, the locks, and what has happened: the rewards
that became credited, and what other changes of the wallet have added. -/
structure Shared where
  quota : ℤ
  rewards : List ReferralReward
  nextId : ℕ
  orders : List OrderRow
  userLocks : List ℕ
  orderLocks : List ℕ
  moved : List ReferralReward
  otherChanges : ℤ
deriving DecidableEq

/-- Whether a statement succeeds, whether a plain read comes before it in its transaction and fixes
the snapshot, and the time. -/
structure Choice where
  ok : Bool
  snapshot : Bool
  now : ℤ

def Shared.order? (s : Shared) (id : ℕ) : Option OrderRow := s.orders.find? (·.id = id)

/-- The end of a completion that has not locked the user. -/
def Shared.releaseOrder (s : Shared) (order : OrderRow) : Shared :=
  { s with orderLocks := s.orderLocks.filter (· ≠ order.id) }

/-- The end of a transaction that has locked a user. -/
def Shared.releaseUser (s : Shared) (userId : ℕ) : Shared :=
  { s with userLocks := s.userLocks.filter (· ≠ userId) }

/-- The end of a completion that has locked the user. -/
def Shared.releaseBoth (s : Shared) (order : OrderRow) : Shared :=
  (s.releaseOrder order).releaseUser order.topUp.userId

def Shared.saveOrder (s : Shared) (order : OrderRow) (now : ℤ) : Shared :=
  let topUp := { order.topUp with status := .success, completeTime := now }
  { s with orders := replace OrderRow.id { order with topUp := topUp } s.orders }

/-- The commit of the order of a user. The inviter may have an order too. -/
def Shared.commitOrder (s : Shared) (cfg : Config) (order : OrderRow) (creditedQuota now : ℤ) :
    Shared :=
  let credited := if order.topUp.userId = cfg.userID then creditedQuota else 0
  { s.saveOrder order now with
    quota := s.quota + credited, otherChanges := s.otherChanges + credited }

/-- The insert of a reward. -/
def Shared.addReward (s : Shared) (reward : ReferralReward) (now : ℤ) : Shared :=
  { s with
    rewards := s.rewards ++ [{ reward with id := s.nextId, createdAt := now }]
    nextId := s.nextId + 1 }

/-- Whether the update of a transfer (line 191) changes a reward. -/
def ReferralReward.marked (ids : List ℕ) (reward : ReferralReward) : Bool :=
  reward.id ∈ ids ∧ reward.status = .pending

/-- A reward after the update of a transfer. -/
def ReferralReward.settle (ids : List ℕ) (now : ℤ) (reward : ReferralReward) : ReferralReward :=
  if reward.marked ids then { reward with status := .credited, creditedAt := some now } else reward

/-- The commit of a transfer (lines 179-193). -/
def Shared.commitTransfer (s : Shared) (ids : List ℕ) (transferred now : ℤ) : Shared :=
  { s with
    quota := s.quota + transferred
    rewards := s.rewards.map (·.settle ids now)
    moved := (s.rewards.filter (·.marked ids)).map (·.settle ids now) ++ s.moved }

/-- One statement. A statement that waits for a lock is blocked. -/
def advance (cfg : Config) (c : Choice) (s : Shared) : Thread → Option (Shared × List Thread)
  | .complete orderId creditedQuota =>
    if c.ok = false then some (s, [])
    else if orderId ∈ s.orderLocks then none
    else match s.order? orderId with
      | none => some (s, [])
      | some order =>
        if order.topUp.status ≠ .pending then some (s, [])
        else
          let view := if c.snapshot then some (s.orders, s.rewards) else none
          some ({ s with orderLocks := orderId :: s.orderLocks },
            [.credit order creditedQuota view])
  | .credit order creditedQuota view =>
    if c.ok = false then some (s.releaseOrder order, [])
    -- the order of an organization changes no user and has no reward
    else if order.topUp.organizationId ≠ 0 then
      some ((s.saveOrder order c.now).releaseOrder order, [])
    else if order.topUp.userId ∈ s.userLocks then none
    else some ({ s with userLocks := order.topUp.userId :: s.userLocks },
      [.apply order creditedQuota view])
  | .apply order creditedQuota view =>
    let orders := (view.map Prod.fst).getD s.orders
    match c.ok, applyFirstTopUpReferralCashback cfg orders order creditedQuota with
    | true, some reward => some (s, [.insert order creditedQuota reward view])
    | _, _ => some (s.releaseBoth order, [])
  | .insert order creditedQuota reward view =>
    if c.ok = false then some (s.releaseBoth order, [])
    else match reward with
      | none => some ((s.commitOrder cfg order creditedQuota c.now).releaseBoth order, [])
      | some reward =>
        if s.rewards.any reward.conflicts then
          -- the row that is there is read back, and an error rolls back if it is not seen
          if ((view.map Prod.snd).getD s.rewards).any reward.conflicts then
            some ((s.commitOrder cfg order creditedQuota c.now).releaseBoth order, [])
          else some (s.releaseBoth order, [])
        else
          let s := s.addReward reward c.now
          some ((s.commitOrder cfg order creditedQuota c.now).releaseBoth order, [])
  | .transfer rewardIDs =>
    if c.ok = false then some (s, [])
    else if cfg.userID ∈ s.userLocks then none
    else some ({ s with userLocks := cfg.userID :: s.userLocks }, [.select rewardIDs])
  | .select rewardIDs =>
    let rewards := s.rewards.filter (·.selected cfg.userID rewardIDs)
    match c.ok, sumPending 0 rewards with
    | true, some transferred =>
      if transferred = 0 then some (s.releaseUser cfg.userID, [])
      else some (s, [.pay rewards transferred])
    | _, _ => some (s.releaseUser cfg.userID, [])
  | .pay rewards transferred =>
    if c.ok = false ∨ maxWalletQuota - transferred < s.quota then
      some (s.releaseUser cfg.userID, [])
    else some (s, [.mark rewards transferred])
  | .mark rewards transferred =>
    if c.ok = false then some (s.releaseUser cfg.userID, [])
    else
      let ids := (positive rewards).map ReferralReward.id
      some ((s.commitTransfer ids transferred c.now).releaseUser cfg.userID, [])
  | .wallet delta =>
    if cfg.userID ∈ s.userLocks then none
    else some ({ s with quota := s.quota + delta, otherChanges := s.otherChanges + delta }, [])
  | .place order =>
    if (s.order? order.id).isSome ∨ order.topUp.status ≠ .pending then some (s, [])
    else some ({ s with orders := order :: s.orders }, [])

/-! ## Invariant -/

/-- The user whose row a call has locked. -/
def Thread.user? (cfg : Config) : Thread → Option ℕ
  | .apply order _ _ | .insert order _ _ _ => some order.topUp.userId
  | .select _ | .pay _ _ | .mark _ _ => some cfg.userID
  | _ => none

/-- What a call knows. A transfer knows the rewards that its update will change, and their sum. -/
def Thread.Knows (s : Shared) : Thread → Prop
  | .insert _ _ reward _ => ∀ r ∈ reward, r.status ≠ .credited
  | .pay rewards transferred | .mark rewards transferred =>
    s.rewards.filter (·.marked ((positive rewards).map ReferralReward.id)) = positive rewards ∧
      transferred = ((positive rewards).map ReferralReward.rewardQuota).sum
  | _ => True

/-- The committed rows. -/
structure Rows (start s : Shared) : Prop where
  ids : (s.rewards.map ReferralReward.id).Nodup
  fresh : ∀ r ∈ s.rewards, r.id < s.nextId
  unique : (s.rewards.map fun r => (r.inviteeId, r.rewardType)).Nodup
  moved : ∀ m ∈ s.moved, m ∈ s.rewards ∧ m.status = .credited
  once : (s.moved.map ReferralReward.id).Nodup
  credited : ∀ r ∈ s.rewards, r.status = .credited → r ∈ s.moved ∨ r ∈ start.rewards
  wallet : s.quota = start.quota + s.otherChanges + (s.moved.map ReferralReward.rewardQuota).sum

/-- The invariant. -/
structure Sound (cfg : Config) (start s : Shared) (threads : List Thread) : Prop where
  locks : Locks (Thread.user? cfg) s.userLocks threads
  rows : Rows start s
  knows : ∀ t ∈ threads, t.Knows s

open ReferralReward

section Rows

variable {cfg : Config} {start s s' : Shared} {t : Thread}

/-- The rewards stay, and the wallet changes by what is recorded as another change. -/
structure Keeps (s s' : Shared) : Prop where
  rewards : s'.rewards = s.rewards
  nextId : s'.nextId = s.nextId
  moved : s'.moved = s.moved
  wallet : s'.quota - s'.otherChanges = s.quota - s.otherChanges

theorem Rows.keeps (h : Rows start s) (hk : Keeps s s') : Rows start s' := by
  have hwallet := h.wallet
  have hbalance := hk.wallet
  refine ⟨?_, ?_, ?_, ?_, ?_, ?_, ?_⟩
  · rw [hk.rewards]
    exact h.ids
  · rw [hk.rewards, hk.nextId]
    exact h.fresh
  · rw [hk.rewards]
    exact h.unique
  · rw [hk.moved, hk.rewards]
    exact h.moved
  · rw [hk.moved]
    exact h.once
  · rw [hk.rewards, hk.moved]
    exact h.credited
  · rw [hk.moved]
    linarith

theorem Thread.Knows.keeps (h : t.Knows s) (hk : Keeps s s') : t.Knows s' := by
  cases t with
  | pay | mark =>
    unfold Thread.Knows at h ⊢
    rw [hk.rewards]
    exact h
  | insert => exact h
  | _ => trivial

theorem keeps_commitOrder (s : Shared) (cfg : Config) (order : OrderRow) (creditedQuota now : ℤ) :
    Keeps s ((s.commitOrder cfg order creditedQuota now).releaseBoth order) := by
  refine ⟨rfl, rfl, rfl, ?_⟩
  dsimp only [Shared.commitOrder, Shared.releaseBoth, Shared.releaseOrder, Shared.releaseUser]
  ring

theorem Rows.eq_of_id (h : Rows start s) {r r' : ReferralReward} (hr : r ∈ s.rewards)
    (hr' : r' ∈ s.rewards) (hid : r.id = r'.id) : r = r' :=
  inj_on_of_nodup_map h.ids hr hr' hid

variable {reward : ReferralReward}

/-- A new reward that conflicts with none. -/
theorem Rows.addReward (h : Rows start s) {now : ℤ}
    (hfree : ¬ s.rewards.any reward.conflicts) (hstatus : reward.status ≠ .credited) :
    Rows start (s.addReward reward now) := by
  refine ⟨?_, fun r hr => ?_, ?_, fun m hm => ?_, h.once, fun r hr hcredited => ?_, h.wallet⟩
  · rw [Shared.addReward, map_append, map_singleton]
    refine h.ids.append (nodup_singleton _) fun id hid hnew => ?_
    obtain ⟨r, hr, rfl⟩ := mem_map.1 hid
    exact (h.fresh r hr).ne (mem_singleton.1 hnew)
  · rcases mem_append.1 hr with hr | hr
    · exact (h.fresh r hr).trans (Nat.lt_succ_self _)
    · rw [mem_singleton.1 hr]
      exact Nat.lt_succ_self _
  · rw [Shared.addReward, map_append, map_singleton]
    refine h.unique.append (nodup_singleton _) fun key hkey hnew => ?_
    obtain ⟨r, hr, rfl⟩ := mem_map.1 hkey
    have hsame := Prod.mk.inj (mem_singleton.1 hnew)
    exact hfree (any_eq_true.2 ⟨r, hr, by simp [conflicts, hsame]⟩)
  · obtain ⟨hmem, hstatus⟩ := h.moved m hm
    exact ⟨mem_append_left _ hmem, hstatus⟩
  · rcases mem_append.1 hr with hr | hr
    · exact h.credited r hr hcredited
    · rw [mem_singleton.1 hr] at hcredited
      exact absurd hcredited hstatus

/-- A transfer does not change a reward that is inserted while it runs. -/
theorem Thread.Knows.addReward (h : t.Knows s) (hrows : Rows start s)
    {now : ℤ} : t.Knows (s.addReward reward now) := by
  cases t with
  | pay rewards transferred | mark rewards transferred =>
    obtain ⟨hfilter, hsum⟩ := h
    refine ⟨?_, hsum⟩
    have hnew : s.nextId ∉ (positive rewards).map ReferralReward.id := by
      rw [← hfilter]
      intro hmem
      obtain ⟨r, hr, hid⟩ := mem_map.1 hmem
      exact (hrows.fresh r (mem_of_mem_filter hr)).ne hid
    rw [Shared.addReward, filter_append, hfilter, filter_singleton]
    simp [marked, hnew]
  | insert => exact h
  | _ => trivial

/-- The rewards with a positive quota that a transfer has read are those its update changes. -/
theorem selectPending_sum (h : Rows start s) {userID : ℕ} {rewardIDs : List ℕ} {transferred : ℤ}
    (hsum : sumPending 0 (s.rewards.filter (·.selected userID rewardIDs)) = some transferred) :
    (Thread.pay (s.rewards.filter (·.selected userID rewardIDs)) transferred).Knows s := by
  refine ⟨?_, by rw [sumPending_eq hsum, zero_add]⟩
  unfold positive
  rw [filter_filter]
  refine filter_congr fun r hr => Bool.eq_iff_iff.2 ⟨fun hmarked => ?_, fun hsel => ?_⟩
  · simp only [marked, decide_eq_true_eq] at hmarked
    obtain ⟨r', hr', hid⟩ := mem_map.1 hmarked.1
    obtain ⟨hmem, hsel⟩ := mem_filter.1 hr'
    rw [← h.eq_of_id hmem hr hid]
    exact hsel
  · have hpending : r.status = .pending := by
      simp only [selected, Bool.and_eq_true, decide_eq_true_eq] at hsel
      exact hsel.2.2.2.1
    simp only [marked, decide_eq_true_eq]
    exact ⟨mem_map_of_mem (mem_filter.2 ⟨hr, hsel⟩), hpending⟩

section Settle

variable {ids : List ℕ} {now : ℤ} {r : ReferralReward}

theorem settle_of_not_marked (h : r.status ≠ .pending) : r.settle ids now = r := by
  simp [ReferralReward.settle, marked, h]

theorem settle_status (h : r.marked ids) : (r.settle ids now).status = .credited := by
  rw [ReferralReward.settle, if_pos h]

@[simp]
theorem settle_id : (r.settle ids now).id = r.id := by
  unfold ReferralReward.settle
  split <;> rfl

@[simp]
theorem settle_rewardQuota : (r.settle ids now).rewardQuota = r.rewardQuota := by
  unfold ReferralReward.settle
  split <;> rfl

theorem settle_key : ((r.settle ids now).inviteeId, (r.settle ids now).rewardType) =
    (r.inviteeId, r.rewardType) := by
  unfold ReferralReward.settle
  split <;> rfl

theorem map_id_settle (rewards : List ReferralReward) :
    (rewards.map (·.settle ids now)).map ReferralReward.id = rewards.map ReferralReward.id := by
  rw [map_map]
  exact map_congr_left fun r _ => settle_id

end Settle

theorem Rows.commitTransfer (h : Rows start s) {rewards : List ReferralReward}
    {transferred now : ℤ} (hknows : (Thread.mark rewards transferred).Knows s) :
    Rows start
      (s.commitTransfer ((positive rewards).map ReferralReward.id) transferred now) := by
  obtain ⟨hfilter, hsum⟩ := hknows
  rw [← hfilter] at hsum
  generalize (positive rewards).map ReferralReward.id = ids at hfilter hsum ⊢
  refine ⟨?_, fun _ hsettled => ?_, ?_, fun m hm => ?_, ?_, fun _ hsettled hcredited => ?_, ?_⟩
  · exact (map_id_settle s.rewards).symm ▸ h.ids
  · obtain ⟨r, hr, rfl⟩ := mem_map.1 hsettled
    rw [settle_id]
    exact h.fresh r hr
  · rw [Shared.commitTransfer, map_map]
    refine (map_congr_left fun r _ => ?_) ▸ h.unique
    exact settle_key.symm
  · rcases mem_append.1 hm with hm | hm
    · obtain ⟨r, hr, rfl⟩ := mem_map.1 hm
      obtain ⟨hmem, hmarked⟩ := mem_filter.1 hr
      exact ⟨mem_map_of_mem hmem, settle_status hmarked⟩
    · obtain ⟨hmem, hstatus⟩ := h.moved m hm
      have hstays : m.settle ids now = m := settle_of_not_marked (by simp [hstatus])
      exact ⟨mem_map.2 ⟨m, hmem, hstays⟩, hstatus⟩
  · rw [Shared.commitTransfer, map_append, map_id_settle]
    refine (h.ids.sublist (filter_sublist.map _)).append h.once fun id hid hold => ?_
    -- a reward that has moved before is not pending
    obtain ⟨r, hr, rfl⟩ := mem_map.1 hid
    obtain ⟨m, hm, hsame⟩ := mem_map.1 hold
    obtain ⟨hmem, hmarked⟩ := mem_filter.1 hr
    obtain ⟨hold, hstatus⟩ := h.moved m hm
    rw [h.eq_of_id hold hmem hsame] at hstatus
    simp [marked, hstatus] at hmarked
  · obtain ⟨r, hr, rfl⟩ := mem_map.1 hsettled
    by_cases hmarked : r.marked ids
    · refine Or.inl (mem_append_left _ ?_)
      exact mem_map_of_mem (mem_filter.2 ⟨hr, hmarked⟩)
    · have hstays : r.settle ids now = r := if_neg hmarked
      rw [hstays] at hcredited ⊢
      exact (h.credited r hr hcredited).imp (mem_append_right _) id
  · have hwallet := h.wallet
    dsimp only [Shared.commitTransfer]
    rw [map_append, sum_append, map_map]
    have hquota : (s.rewards.filter (·.marked ids)).map
        (ReferralReward.rewardQuota ∘ (·.settle ids now)) =
          (s.rewards.filter (·.marked ids)).map ReferralReward.rewardQuota :=
      map_congr_left fun r _ => settle_rewardQuota
    rw [hquota, ← hsum]
    linarith

end Rows

/-! ## One statement -/

section Step

variable {cfg : Config} {c : Choice} {start s s' : Shared} {t u : Thread}
  {ts others : List Thread}

section

variable (h : Sound cfg start s (t :: others))

include h

section

variable (hk : Keeps s s')

include hk

/-- A statement that changes no reward. -/
theorem Sound.keeps
    (hlocks : Locks (Thread.user? cfg) s'.userLocks (ts ++ others)) (hts : ∀ u ∈ ts, u.Knows s) :
    Sound cfg start s' (ts ++ others) := by
  refine ⟨hlocks, h.rows.keeps hk, fun u hu => ?_⟩
  rcases mem_append.1 hu with hu | hu
  · exact (hts u hu).keeps hk
  · exact (h.knows u (mem_cons_of_mem t hu)).keeps hk

/-- A call that has locked no user ends. -/
theorem Sound.stop (hlocks : s'.userLocks = s.userLocks)
    (ht : t.user? cfg = none) :
    Sound cfg start s' ([] ++ others) := by
  refine h.keeps hk ?_ (forall_mem_nil _)
  rw [hlocks]
  exact h.locks.stop ht

/-- A call that has locked a user ends. -/
theorem Sound.release {userId : ℕ}
    (hlocks : s'.userLocks = s.userLocks.filter (· ≠ userId)) (ht : t.user? cfg = some userId) :
    Sound cfg start s' ([] ++ others) := by
  refine h.keeps hk ?_ (forall_mem_nil _)
  rw [hlocks]
  exact h.locks.release ht

/-- A call goes on with the lock that it has. -/
theorem Sound.next (hlocks : s'.userLocks = s.userLocks)
    (hu : u.user? cfg = t.user? cfg) (hknows : u.Knows s) : Sound cfg start s' ([u] ++ others) := by
  refine h.keeps hk ?_ fun v hv => ?_
  · rw [hlocks]
    exact h.locks.keep hu
  · rw [mem_singleton.1 hv]
    exact hknows

end

theorem Sound.acquire {userId : ℕ} (ht : t.user? cfg = none) (hu : u.user? cfg = some userId)
    (hfree : userId ∉ s.userLocks) (hknows : u.Knows s) :
    Sound cfg start { s with userLocks := userId :: s.userLocks } ([u] ++ others) := by
  refine h.keeps ⟨rfl, rfl, rfl, rfl⟩ (h.locks.acquire ht hu hfree) fun v hv => ?_
  rw [mem_singleton.1 hv]
  exact hknows

/-- A completion commits with a new reward. -/
theorem Sound.addReward {order : OrderRow} {reward : ReferralReward} {creditedQuota now : ℤ}
    (ht : t.user? cfg = some order.topUp.userId) (hfree : ¬ s.rewards.any reward.conflicts)
    (hstatus : reward.status ≠ .credited) : Sound cfg start
      (((s.addReward reward now).commitOrder cfg order creditedQuota now).releaseBoth order)
      ([] ++ others) := by
  have hk := keeps_commitOrder (s.addReward reward now) cfg order creditedQuota now
  refine ⟨h.locks.release ht, (h.rows.addReward hfree hstatus).keeps hk, fun u hu => ?_⟩
  exact ((h.knows u (mem_cons_of_mem t hu)).addReward h.rows).keeps hk

end

theorem Sound.commitTransfer {rewards : List ReferralReward} {transferred now : ℤ}
    (h : Sound cfg start s (.mark rewards transferred :: others)) :
    Sound cfg start
      ((s.commitTransfer ((positive rewards).map ReferralReward.id) transferred now).releaseUser
        cfg.userID) ([] ++ others) := by
  have hk : ∀ s : Shared, Keeps s (s.releaseUser cfg.userID) := fun s => ⟨rfl, rfl, rfl, rfl⟩
  have hself := h.knows _ mem_cons_self
  refine ⟨h.locks.release rfl, (h.rows.commitTransfer hself).keeps (hk _), fun u hu => ?_⟩
  -- another transfer would hold the lock of the inviter
  have halone := (h.locks.alone (k := cfg.userID) rfl).2 u hu
  cases u with
  | pay | mark => exact absurd rfl halone
  | insert => exact h.knows _ (mem_cons_of_mem _ hu)
  | _ => trivial

/-- **One statement** keeps the locks, the unique rows and the wallet. -/
theorem Sound.step (h : Sound cfg start s (t :: others))
    (hadvance : advance cfg c s t = some (s', ts)) : Sound cfg start s' (ts ++ others) := by
  have hself := h.knows _ mem_cons_self
  revert hadvance
  fun_cases advance cfg c s t <;> rintro ⟨⟩
  -- calls that end before they have locked a user
  case case1 | case3 | case4 | case6 | case7 | case17 | case29 | case30 =>
    exact h.stop ⟨rfl, rfl, rfl, rfl⟩ rfl rfl
  case case28 => exact h.stop ⟨rfl, rfl, rfl, by dsimp only; ring⟩ rfl rfl
  -- calls that end and release a user
  case case11 | case12 | case15 | case20 | case22 | case23 | case25 =>
    exact h.release ⟨rfl, rfl, rfl, rfl⟩ rfl rfl
  case case13 | case14 => exact h.release (keeps_commitOrder ..) rfl rfl
  case case16 hfree _ => exact h.addReward rfl hfree (hself _ rfl)
  case case26 => exact h.commitTransfer
  -- calls that go on
  case case9 hfree | case19 hfree => exact h.acquire rfl rfl hfree trivial
  case case5 => exact h.next ⟨rfl, rfl, rfl, rfl⟩ rfl rfl trivial
  case case10 hreward _ => exact h.next ⟨rfl, rfl, rfl, rfl⟩ rfl rfl (applyFirst_status hreward)
  case case21 hsum _ _ => exact h.next ⟨rfl, rfl, rfl, rfl⟩ rfl rfl (selectPending_sum h.rows hsum)
  case case24 => exact h.next ⟨rfl, rfl, rfl, rfl⟩ rfl rfl hself

end Step

/-! ## Runs -/

/-- The first statement of a call. -/
def Thread.initial : Thread → Bool
  | .complete _ _ | .transfer _ | .wallet _ | .place _ => true
  | _ => false

/-- No call has started, and the reward rows are unique. -/
structure Start (p : Pool Shared Thread) : Prop where
  threads : ∀ t ∈ p.threads, t.initial = true
  unlocked : p.shared.userLocks = [] ∧ p.shared.orderLocks = []
  ids : (p.shared.rewards.map ReferralReward.id).Nodup
  fresh : ∀ r ∈ p.shared.rewards, r.id < p.shared.nextId
  unique : (p.shared.rewards.map fun r => (r.inviteeId, r.rewardType)).Nodup
  log : p.shared.moved = [] ∧ p.shared.otherChanges = 0

theorem Start.sound {cfg : Config} {p : Pool Shared Thread} (h : Start p) :
    Sound cfg p.shared p.shared p.threads := by
  refine ⟨?_, ⟨h.ids, h.fresh, h.unique, ?_, ?_, fun r hr _ => Or.inr hr, ?_⟩, fun t ht => ?_⟩
  · rw [h.unlocked.1]
    refine .free fun t ht => ?_
    have hinitial := h.threads t ht
    cases t with
    | complete | transfer | wallet | place => rfl
    | _ => cases hinitial
  · rw [h.log.1]
    exact forall_mem_nil _
  · rw [h.log.1]
    exact nodup_nil
  · simp [h.log.1, h.log.2]
  · have hinitial := h.threads t ht
    cases t with
    | complete | transfer | wallet | place => trivial
    | _ => cases hinitial

/-- **Cashback.** In every run there is at most one reward for an invitee and a type, a reward
becomes credited at most once and stays so, and apart from other changes the wallet of the
inviter has grown by the quotas of the rewards that became credited, which are all that are
credited and were not so at the start. -/
theorem referral_cashback_transferred {cfg : Config} {p q : Pool Shared Thread} (hstart : Start p)
    (hrun : Exec (Pool.step (advance cfg)) (fun _ _ => True) p q) :
    (q.shared.rewards.map fun r => (r.inviteeId, r.rewardType)).Nodup ∧
      (q.shared.moved.map ReferralReward.id).Nodup ∧
      (∀ m ∈ q.shared.moved, m ∈ q.shared.rewards ∧ m.status = .credited) ∧
      (∀ r ∈ q.shared.rewards, r.status = .credited → r ∈ q.shared.moved ∨ r ∈ p.shared.rewards) ∧
      q.shared.quota = p.shared.quota + q.shared.otherChanges +
        (q.shared.moved.map ReferralReward.rewardQuota).sum := by
  have hruns : Exec (Pool.step (advance cfg)) (Pool.Meets fun _ _ _ => True) p q :=
    hrun.mono fun _ _ _ _ _ => trivial
  have hsound : Sound cfg p.shared q.shared q.threads := by
    refine Pool.invariant (I := Sound cfg p.shared) ?_ ?_ hstart.sound hruns
    · intro s l l' hperm h
      exact ⟨h.locks.perm hperm, h.rows, fun t ht => h.knows t (hperm.mem_iff.2 ht)⟩
    · intro p c t s ts others _ _ h hadvance
      exact h.step hadvance
  exact ⟨hsound.rows.unique, hsound.rows.once, hsound.rows.moved, hsound.rows.credited,
    hsound.rows.wallet⟩

/-- An inviter with two invitees, and a cashback of ten percent. -/
def twoInvitees : Config :=
  ⟨1, fun u => if u = 1 then some 0 else if u = 2 ∨ u = 3 then some 1 else none, some 10⟩

def inviteeOrder (id userId : ℕ) : OrderRow :=
  ⟨id, ⟨"t", userId, 0, 10, 10, "stripe", some .stripe, 0, .pending⟩⟩

/-- Both invitees pay, one callback comes twice, and the inviter transfers. -/
def twoPayments : Pool Shared Thread :=
  ⟨⟨0, [], 1, [inviteeOrder 1 2, inviteeOrder 2 3], [], [], [], 0⟩,
    [.complete 1 1000, .transfer [], .complete 2 500, .complete 1 1000]⟩

/-- The second reward is inserted while the transfer of the first one runs, and stays pending. -/
theorem referral_cashback_transferred_one :
    ∃ q, Exec (Pool.step (advance twoInvitees)) (fun _ _ => True) twoPayments q ∧
      q.shared.rewards.map (fun r => (r.inviteeId, r.rewardQuota, r.status)) =
        [(2, 100, .credited), (3, 50, .pending)] ∧
      q.shared.quota = 100 ∧ (q.shared.moved.map ReferralReward.id).Nodup := by
  have hstart : Start twoPayments :=
    ⟨by decide, ⟨rfl, rfl⟩, nodup_nil, forall_mem_nil _, nodup_nil, rfl, rfl⟩
  exact Exec.exists_and_and_of_actions (replicate 4 (0, ⟨true, false, 7⟩) ++
    replicate 2 (0, ⟨true, false, 8⟩) ++ replicate 4 (1, ⟨true, true, 9⟩) ++
    replicate 3 (0, ⟨true, false, 10⟩))
    (by decide +kernel) fun _ hrun _ _ => (referral_cashback_transferred hstart hrun).2.1

end OmniRouters.Payment.Referral
