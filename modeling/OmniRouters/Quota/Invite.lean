import OmniRouters.Lib.Threads
import OmniRouters.Payment.TopUp

/-!
# The reward of an inviter

`inviteUser` (model/user.go:516-525) reads the row of the inviter, counts the invitee and
saves the whole row. The other writers of the row add to the column `quota` in one statement. What
they commit between the read and the save is overwritten.

* `Write.apply_eq`: what a statement on the quota adds.
* `inviter_balanced`: the ledger of an inviter, if the row that is saved was read last.
* `reservation_overwritten`: a reservation between the read and the save is lost.
-/

namespace OmniRouters.Quota.Invite

open OmniRouters.Billing OmniRouters.Payment OmniRouters.Lib

/-! ## Writers -/

/-- The columns of a row of `users` that the writers here change. -/
structure Inviter where
  quota : ℤ
  affCount : ℤ
  affQuota : ℤ
  affHistoryQuota : ℤ
deriving DecidableEq

/-- The row that `inviteUser` saves. -/
def Inviter.invited (quotaForInviter : ℤ) (user : Inviter) : Inviter :=
  { user with
    affCount := user.affCount + 1
    affQuota := user.affQuota + quotaForInviter
    affHistoryQuota := user.affHistoryQuota + quotaForInviter }

/-- The statements that change the quota of a user. -/
inductive Write
  /-- `reserveUserQuotaDB` (model/quota_reserve.go:142-147). -/
  | reserveUserQuotaDB (quota : ℤ)
  /-- `persistUserQuotaDelta` (model/quota_reserve.go:106-119). -/
  | persistUserQuotaDelta (delta : ℤ)
  /-- `increaseUserQuota` (user.go:1220-1237). -/
  | increaseUserQuota (quota : ℤ)
  /-- `decreaseUserQuota` (user.go:1257-1263). -/
  | decreaseUserQuota (quota : ℤ)
  /-- `creditTopUpQuota` (model/topup.go:131-156). -/
  | creditTopUpQuota (creditedQuota : ℤ)

/-- The quota after a statement, `none` if it matches no row. -/
def Write.apply (quota : ℤ) : Write → Option ℤ
  | .reserveUserQuotaDB q => if q ≤ quota then some (quota - q) else none
  | .persistUserQuotaDelta delta => some (quota + delta)
  | .increaseUserQuota q => if quota ≤ maxWalletQuota - q then some (quota + q) else none
  | .decreaseUserQuota q => some (quota - q)
  | .creditTopUpQuota q =>
    (topUpQuotaMaxCurrent q).bind fun maxCurrent =>
      if quota ≤ maxCurrent then some (quota + q) else none

/-- What a statement adds to the quota. -/
def Write.delta : Write → ℤ
  | .reserveUserQuotaDB q | .decreaseUserQuota q => -q
  | .persistUserQuotaDelta delta => delta
  | .increaseUserQuota q | .creditTopUpQuota q => q

/-- The row, the committed invites, and the credits minus the deductions that were committed. -/
structure Shared where
  user : Inviter
  invites : ℕ
  net : ℤ
deriving DecidableEq

/-- Where a call is. -/
inductive Thread
  /-- `inviteUser` before the read of the row. -/
  | inviteUser
  /-- `inviteUser` before the save, with the row that was read. -/
  | save (user : Inviter)
  | write (w : Write)
  | ended

/-- One statement of a call. `ok` says whether it succeeds. -/
def advance (quotaForInviter : ℤ) (ok : Bool) (s : Shared) :
    Thread → Option (Shared × List Thread)
  | .inviteUser => some (s, [if ok then .save s.user else .ended])
  | .save user =>
    if ok then some ({ s with user := user.invited quotaForInviter, invites := s.invites + 1 },
      [.ended])
    else some (s, [.ended])
  | .write w =>
    match if ok then w.apply s.user.quota else none with
    | none => some (s, [.ended])
    | some quota =>
      some ({ s with user := { s.user with quota := quota }, net := s.net + w.delta }, [.ended])
  | .ended => none

/-- The row that is saved was read after every write. -/
def SavesCurrent (p : Pool Shared Thread) (_ : Bool) : Thread → Prop
  | .save user => user = p.shared.user
  | _ => True

instance (p : Pool Shared Thread) (ok : Bool) : (t : Thread) → Decidable (SavesCurrent p ok t)
  | .save user => inferInstanceAs (Decidable (user = p.shared.user))
  | .inviteUser => isTrue trivial
  | .write _ => isTrue trivial
  | .ended => isTrue trivial

/-! ## The ledger -/

/-- A statement that matches a row adds its delta. -/
theorem Write.apply_eq {w : Write} {quota quota' : ℤ} (h : w.apply quota = some quota') :
    quota' = quota + w.delta := by
  cases w with
  | reserveUserQuotaDB | increaseUserQuota =>
    simp only [Write.apply] at h
    split at h
    · cases h
      rfl
    · cases h
  | persistUserQuotaDelta | decreaseUserQuota =>
    cases h
    rfl
  | creditTopUpQuota q =>
    obtain ⟨maxCurrent, -, h⟩ := Option.bind_eq_some_iff.1 h
    split at h
    · cases h
      rfl
    · cases h

/-- The row holds what it held at first, what was committed, and the rewards. -/
structure Balanced (quotaForInviter : ℤ) (first : Inviter) (s : Shared) : Prop where
  quota : s.user.quota = first.quota + s.net
  affCount : s.user.affCount = first.affCount + s.invites
  affQuota : s.user.affQuota = first.affQuota + s.invites * quotaForInviter
  affHistoryQuota :
    s.user.affHistoryQuota = first.affHistoryQuota + s.invites * quotaForInviter

section Steps

variable {quotaForInviter : ℤ} {first : Inviter}

theorem Balanced.invite {s : Shared} (h : Balanced quotaForInviter first s) :
    Balanced quotaForInviter first
      { s with user := s.user.invited quotaForInviter, invites := s.invites + 1 } where
  quota := h.quota
  affCount := by
    have hcount := h.affCount
    show s.user.affCount + 1 = first.affCount + ((s.invites + 1 : ℕ) : ℤ)
    omega
  affQuota := by
    show s.user.affQuota + quotaForInviter = first.affQuota + ((s.invites + 1 : ℕ) : ℤ) * _
    rw [h.affQuota]
    push_cast
    ring
  affHistoryQuota := by
    show s.user.affHistoryQuota + quotaForInviter =
      first.affHistoryQuota + ((s.invites + 1 : ℕ) : ℤ) * _
    rw [h.affHistoryQuota]
    push_cast
    ring

/-- **One statement** keeps the ledger. -/
theorem advance_balanced {p : Pool Shared Thread} {ok : Bool} {t : Thread} {s : Shared}
    {ts : List Thread} (h : Balanced quotaForInviter first p.shared) (hok : SavesCurrent p ok t)
    (hstep : advance quotaForInviter ok p.shared t = some (s, ts)) :
    Balanced quotaForInviter first s := by
  cases t with
  | inviteUser =>
    cases hstep
    exact h
  | save user =>
    obtain rfl : user = p.shared.user := hok
    cases ok with
    | false =>
      cases hstep
      exact h
    | true =>
      cases hstep
      exact h.invite
  | write w =>
    simp only [advance] at hstep
    split at hstep
    · cases hstep
      exact h
    rename_i quota hquota
    cases hstep
    split at hquota
    · refine { h with quota := ?_ }
      have hbefore := h.quota
      have happly := Write.apply_eq hquota
      show quota = first.quota + (p.shared.net + w.delta)
      omega
    · cases hquota
  | ended => cases hstep

end Steps

/-! ## Runs -/

def start (user : Inviter) (calls : List Thread) : Pool Shared Thread := ⟨⟨user, 0, 0⟩, calls⟩

/-- **The ledger of an inviter.** Any invites and any writes of the quota run at the same time. If
each row that is saved is the one that is stored, the quota is the first quota with the credits
and deductions that were committed, and each of the three counters has grown by its step for
every committed invite. -/
theorem inviter_balanced {quotaForInviter : ℤ} {first : Inviter} {calls : List Thread}
    {p : Pool Shared Thread}
    (hrun : Exec (Pool.step (advance quotaForInviter)) (Pool.Meets SavesCurrent)
      (start first calls) p) :
    p.shared.user.quota = first.quota + p.shared.net ∧
      p.shared.user.affCount = first.affCount + p.shared.invites ∧
      p.shared.user.affQuota = first.affQuota + p.shared.invites * quotaForInviter ∧
      p.shared.user.affHistoryQuota =
        first.affHistoryQuota + p.shared.invites * quotaForInviter := by
  have hbalanced : Balanced quotaForInviter first p.shared := by
    refine Pool.invariant (I := fun s _ => Balanced quotaForInviter first s) ?_ ?_ ?_ hrun
    · exact fun s l l' _ h => h
    · exact fun p ok t s ts others hok _ h hstep => advance_balanced h hok hstep
    · exact ⟨by simp [start], by simp [start], by simp [start], by simp [start]⟩
  exact ⟨hbalanced.quota, hbalanced.affCount, hbalanced.affQuota, hbalanced.affHistoryQuota⟩

/-- Two invites of 50, a reservation and a top-up, one after the other. -/
theorem inviter_balanced_in_turn :
    ∃ p, Exec (Pool.step (advance 50)) (Pool.Meets SavesCurrent)
        (start ⟨1000, 0, 0, 0⟩ [.inviteUser, .write (.reserveUserQuotaDB 300), .inviteUser,
          .write (.creditTopUpQuota 500)]) p ∧
      p.shared = ⟨⟨1200, 2, 100, 100⟩, 2, 200⟩ ∧
      (p.shared.user.quota = 1000 + p.shared.net ∧ p.shared.user.affCount = 0 + p.shared.invites ∧
        p.shared.user.affQuota = 0 + p.shared.invites * 50 ∧
        p.shared.user.affHistoryQuota = 0 + p.shared.invites * 50) := by
  exact Exec.exists_and_of_actions [(0, true), (0, true), (1, true), (2, true), (2, true),
    (3, true)] (by decide +kernel) fun _ hrun _ => inviter_balanced hrun

/-- A reservation of 300 is committed between the read and the save of an invite, and a second
invite reads the same row: the reservation and one of the two rewards are lost. -/
theorem reservation_overwritten :
    ∃ p, Exec (Pool.step (advance 50)) (fun _ _ => True)
        (start ⟨1000, 0, 0, 0⟩ [.inviteUser, .inviteUser, .write (.reserveUserQuotaDB 300)]) p ∧
      p.shared = ⟨⟨1000, 1, 50, 50⟩, 2, -300⟩ := by
  exact Exec.exists_of_actions [(0, true), (1, true), (2, true), (0, true), (1, true)]
    (by decide +kernel)

end OmniRouters.Quota.Invite
