import OmniRouters.Lib.Mutex
import OmniRouters.Lib.Threads
import OmniRouters.Payment.TopUp

/-!
# Redemption codes

`Redeem` (model/redemption.go:137-187) locks the row of a code, swaps its status from
enabled to used and credits the user, in one transaction. SQLite has no row lock; there the swap is
the first statement that excludes others. `UpdateRedemption`
(controller/redemption.go:162-206) reads the row, changes it and writes it back with
`Redemption.Update`, the status included.
This is a model of any number of such calls for one code, statement by statement, where any
statement may fail.

* `Sound.step`: one statement keeps the lock and the use of the code.
* `redemption_credited_once`: if no edit writes back the status enabled to a code that has been
  used, the code is credited at most once.
* `redemption_credited_twice`: an edit of the name enables a used code again.
-/

namespace OmniRouters.Payment

open Billing Lib List

/-- The status of a code (common/constants.go:303-305), or another number that an admin
has sent. -/
inductive RedemptionCodeStatus
  | enabled
  | disabled
  | used
  | other (status : ℤ)
deriving DecidableEq

/-- What the calls read and write of a row of `redemptions`. -/
structure Redemption where
  name : String
  status : RedemptionCodeStatus
  quota : ℤ
  redeemedTime : ℤ
  usedUserId : ℕ
  expiredTime : ℤ
deriving DecidableEq

namespace Redemption

/-! ## The calls -/

/-- The request of an admin: the fields, or with `status_only` the status. -/
inductive Edit
  | fields (name : String) (quota expiredTime : ℤ)
  | status (status : RedemptionCodeStatus)
deriving DecidableEq

/-- The row that `UpdateRedemption` writes back, made from the row it has read. -/
def Edit.apply (now : ℤ) (row : Redemption) : Edit → Option Redemption
  | .fields name quota expiredTime =>
    if quota ≤ 0 ∨ maxWalletQuota < quota ∨ expiredTime ≠ 0 ∧ expiredTime < now then none
    else some { row with name := name, quota := quota, expiredTime := expiredTime }
  | .status value => some { row with status := value }

/-- A call, by its next statement. -/
inductive Thread
  /-- `Redeem`: read the row, with a lock. -/
  | redeem (userId : ℕ)
  /-- `Redeem`: the swap of the status. -/
  | swap (userId : ℕ) (row : Redemption)
  /-- `Redeem`: credit the user and commit. -/
  | credit (userId : ℕ) (row : Redemption) (redeemedTime : ℤ)
  /-- `UpdateRedemption`: read the row. -/
  | edit (request : Edit)
  /-- `Redemption.Update`. -/
  | update (row : Redemption)
deriving DecidableEq

/-- The committed row, whether a transaction has locked it, the wallets, and the credits so far. -/
structure Shared where
  row : Redemption
  locked : Bool
  users : ℕ → Option ℤ
  credits : List (ℕ × ℤ)

/-- Whether a statement succeeds, and its time. -/
structure Choice where
  ok : Bool
  now : ℤ

/-- The columns that `Redemption.Update` writes (lines 207-217). -/
def Shared.write (s : Shared) (row : Redemption) : Shared :=
  { s with row := { s.row with
      name := row.name
      status := row.status
      quota := row.quota
      redeemedTime := row.redeemedTime
      expiredTime := row.expiredTime } }

/-- The commit of `Redeem`. -/
def Shared.commit (s : Shared) (userId : ℕ) (quota redeemedTime wallet : ℤ) : Shared where
  row := { s.row with status := .used, redeemedTime := redeemedTime, usedUserId := userId }
  locked := false
  users := Function.update s.users userId (some wallet)
  credits := (userId, quota) :: s.credits

/-- One statement, with row locks or without. A statement that waits for a lock is blocked. -/
def advance (rowLocks : Bool) (c : Choice) (s : Shared) :
    Thread → Option (Shared × List Thread)
  | .redeem userId =>
    if userId = 0 ∨ c.ok = false then some (s, [])
    else if rowLocks ∧ s.locked then none
    else if s.row.status ≠ .enabled then some (s, [])
    else if s.row.expiredTime ≠ 0 ∧ s.row.expiredTime < c.now then some (s, [])
    else some ({ s with locked := s.locked || rowLocks }, [.swap userId s.row])
  | .swap userId row =>
    if c.ok = false then some ({ s with locked := s.locked && !rowLocks }, [])
    else if ¬ rowLocks ∧ s.locked then none
    else if s.row.status ≠ .enabled then some ({ s with locked := false }, [])
    else some ({ s with locked := true }, [.credit userId row c.now])
  | .credit userId row redeemedTime =>
    if c.ok = false then some ({ s with locked := false }, [])
    else match creditTopUpQuota (s.users userId) row.quota with
      | none => some ({ s with locked := false }, [])
      | some wallet => some (s.commit userId row.quota redeemedTime wallet, [])
  | .edit request =>
    if c.ok = false then some (s, [])
    else match request.apply c.now s.row with
      | none => some (s, [])
      | some row => some (s, [.update row])
  | .update row =>
    if c.ok = false ∨ row.quota ≤ 0 ∨ maxWalletQuota < row.quota then some (s, [])
    else if s.locked then none
    else some (s.write row, [])

/-- An edit does not write the status enabled to a code that has been used. -/
def SparesUsed (p : Pool Shared Thread) (_ : Choice) : Thread → Prop
  | .update row => p.shared.row.usedUserId ≠ 0 → row.status ≠ .enabled
  | _ => True

instance (p : Pool Shared Thread) (c : Choice) : (t : Thread) → Decidable (SparesUsed p c t)
  | .update _ => inferInstanceAs (Decidable (_ → _))
  | .redeem _ => isTrue trivial
  | .swap .. => isTrue trivial
  | .credit .. => isTrue trivial
  | .edit _ => isTrue trivial

/-! ## Invariant -/

/-- Whether a call holds the lock of the row. -/
def Thread.held (rowLocks : Bool) : Thread → ℕ
  | .swap .. => rowLocks.toNat
  | .credit .. => 1
  | _ => 0

/-- What a call knows about the row. -/
def Thread.Knows (s : Shared) : Thread → Prop
  | .swap userId _ => userId ≠ 0
  | .credit userId _ _ => userId ≠ 0 ∧ s.row.status = .enabled
  | _ => True

/-- The use of the code. -/
structure Used (users : ℕ → Option ℤ) (s : Shared) : Prop where
  unused : s.row.usedUserId = 0 → s.credits = []
  used : s.row.usedUserId ≠ 0 → s.credits.length = 1 ∧ s.row.status ≠ .enabled
  wallets : ∀ u, s.users u =
    (users u).map (· + ((s.credits.filter (·.1 = u)).map Prod.snd).sum)

/-- The invariant. -/
structure Sound (rowLocks : Bool) (users : ℕ → Option ℤ) (s : Shared) (threads : List Thread) :
    Prop where
  lock : Mutex (Thread.held rowLocks) s.locked threads
  used : Used users s
  knows : ∀ t ∈ threads, t.Knows s

section Step

variable {rowLocks : Bool} {users : ℕ → Option ℤ} {c : Choice} {s s' : Shared} {t : Thread}
  {ts others : List Thread}

/-- A statement that leaves the committed rows. -/
theorem Sound.replace {locked : Bool} (h : Sound rowLocks users s (t :: others))
    (hlock : (ts.map (Thread.held rowLocks)).sum + s.locked.toNat = t.held rowLocks + locked.toNat)
    (hts : ∀ u ∈ ts, u.Knows s) :
    Sound rowLocks users { s with locked := locked } (ts ++ others) := by
  refine ⟨h.lock.exchange hlock, ⟨h.used.unused, h.used.used, h.used.wallets⟩, fun u hu => ?_⟩
  have hknows : u.Knows s := by
    rcases mem_append.1 hu with hu | hu
    · exact hts u hu
    · exact h.knows u (mem_cons_of_mem t hu)
  cases u <;> exact hknows

/-- A call that does not hold the lock knows nothing about the row. -/
theorem Thread.Knows.of_not_held (h : t.Knows s) (ht : t.held rowLocks = 0) : t.Knows s' := by
  cases t with
  | credit => exact absurd ht one_ne_zero
  | swap userId row => exact h
  | _ => trivial

variable {row : Redemption}

theorem Sound.commit {userId : ℕ} {redeemedTime wallet : ℤ}
    (h : Sound rowLocks users s (.credit userId row redeemedTime :: others))
    (hcredit : creditTopUpQuota (s.users userId) row.quota = some wallet) :
    Sound rowLocks users (s.commit userId row.quota redeemedTime wallet) ([] ++ others) := by
  obtain ⟨huser, hstatus⟩ := h.knows _ mem_cons_self
  obtain ⟨hlocked, halone⟩ := h.lock.alone rfl
  -- the code is enabled, so nobody has used it
  have hunused : s.row.usedUserId = 0 := by
    by_contra hused
    exact (h.used.used hused).2 hstatus
  have hcredits := h.used.unused hunused
  refine ⟨h.lock.exchange ?_, ⟨fun hzero => absurd hzero huser, fun _ => ?_, fun u => ?_⟩,
    fun u hu => ?_⟩
  · rw [hlocked]
    rfl
  · refine ⟨?_, by simp [Shared.commit]⟩
    rw [Shared.commit, hcredits, length_singleton]
  · obtain ⟨current, hcurrent, rfl, -⟩ := creditTopUpQuota_eq_some hcredit
    have hwallet := h.used.wallets u
    dsimp only [Shared.commit]
    rw [hcredits] at hwallet ⊢
    by_cases hu : userId = u
    · subst hu
      rw [hcurrent] at hwallet
      obtain ⟨opening, hopening, hsum⟩ := Option.map_eq_some_iff.1 hwallet.symm
      rw [Function.update_self, hopening, ← hsum]
      simp
    · rw [Function.update_of_ne (Ne.symm hu), hwallet]
      simp [hu]
  · exact (h.knows u (mem_cons_of_mem _ hu)).of_not_held (halone u hu)

/-- An edit is written back. -/
theorem Sound.write (h : Sound rowLocks users s (.update row :: others))
    (hfree : s.locked = false) (hspares : s.row.usedUserId ≠ 0 → row.status ≠ .enabled) :
    Sound rowLocks users (s.write row) ([] ++ others) := by
  have hlock := h.lock
  rw [hfree] at hlock
  refine ⟨h.lock.exchange rfl, ⟨h.used.unused, fun hused => ?_, h.used.wallets⟩, fun u hu => ?_⟩
  · exact ⟨(h.used.used hused).1, hspares hused⟩
  · have hu := mem_cons_of_mem (.update row) hu
    exact (h.knows u hu).of_not_held (hlock.not_held u hu)

theorem Sound.held_swap {userId : ℕ}
    (h : Sound rowLocks users s (.swap userId row :: others)) (hlocks : rowLocks = true) :
    s.locked = true :=
  (h.lock.alone (by rw [hlocks]; rfl)).1

/-- **One statement** keeps the lock and the use of the code. -/
theorem Sound.step {p : Pool Shared Thread} (hspares : SparesUsed p c t)
    (h : Sound rowLocks users p.shared (t :: others))
    (hadvance : advance rowLocks c p.shared t = some (s', ts)) :
    Sound rowLocks users s' (ts ++ others) := by
  have hself := h.knows _ mem_cons_self
  revert hadvance
  fun_cases advance rowLocks c p.shared t <;> rintro ⟨⟩
  case case1 | case3 | case4 | case13 | case14 | case16 =>
    exact h.replace rfl (forall_mem_nil _)
  case case5 hvalid hfree _ _ =>
    refine h.replace ?_ fun u hu => ?_
    · cases rowLocks <;> cases hlocked : p.shared.locked <;> simp_all [Thread.held]
    · rw [mem_singleton.1 hu]
      exact fun hzero => hvalid (Or.inl hzero)
  -- without row locks the call holds nothing before its update
  case case6 | case8 =>
    have hheld := h.held_swap
    refine h.replace ?_ (forall_mem_nil _)
    cases rowLocks <;> simp_all [Thread.held]
  case case9 hstatus =>
    have hheld := h.held_swap
    refine h.replace ?_ fun u hu => ?_
    · cases rowLocks <;> simp_all [Thread.held]
    · rw [mem_singleton.1 hu]
      exact ⟨hself, not_not.1 hstatus⟩
  case case10 | case11 =>
    have hlocked := (h.lock.alone rfl).1
    exact h.replace (by rw [hlocked]; rfl) (forall_mem_nil _)
  case case12 hcredit => exact h.commit hcredit
  case case15 =>
    refine h.replace rfl fun u hu => ?_
    rw [mem_singleton.1 hu]
    trivial
  case case18 hfree => exact h.write (by simpa using hfree) hspares

end Step

/-! ## Runs -/

/-- The first statement of a call. -/
def Thread.initial : Thread → Bool
  | .redeem _ | .edit _ => true
  | _ => false

/-- Nobody has used the code, and no call has started. -/
structure Unused (p : Pool Shared Thread) : Prop where
  threads : ∀ t ∈ p.threads, t.initial = true
  locked : p.shared.locked = false
  row : p.shared.row.usedUserId = 0
  credits : p.shared.credits = []

theorem Unused.sound {rowLocks : Bool} {p : Pool Shared Thread} (h : Unused p) :
    Sound rowLocks p.shared.users p.shared p.threads := by
  refine ⟨?_, ⟨fun _ => h.credits, fun hused => absurd h.row hused, fun u => ?_⟩, fun t ht => ?_⟩
  · rw [h.locked]
    refine .free fun t ht => ?_
    have hinitial := h.threads t ht
    cases t with
    | swap | credit => cases hinitial
    | _ => rfl
  · simp [h.credits]
  · have hinitial := h.threads t ht
    cases t with
    | swap | credit => cases hinitial
    | _ => trivial

/-- **A code is used once.** With row locks or without, in every run in which no edit writes the
status enabled to a code that has been used: at most one credit is given for the code, the
wallets have received just that, and a code with a credit is not enabled. -/
theorem redemption_credited_once {rowLocks : Bool} {p q : Pool Shared Thread} (hstart : Unused p)
    (hrun : Exec (Pool.step (advance rowLocks)) (Pool.Meets SparesUsed) p q) :
    q.shared.credits.length ≤ 1 ∧ (q.shared.credits ≠ [] → q.shared.row.status ≠ .enabled) ∧
      ∀ u, q.shared.users u =
        (p.shared.users u).map (· + ((q.shared.credits.filter (·.1 = u)).map Prod.snd).sum) := by
  have hsound : Sound rowLocks p.shared.users q.shared q.threads := by
    refine Pool.invariant (I := Sound rowLocks p.shared.users) ?_ ?_ hstart.sound hrun
    · intro s l l' hperm h
      exact ⟨h.lock.perm hperm, h.used, fun t ht => h.knows t (hperm.mem_iff.2 ht)⟩
    · intro p c t s ts others hspares _ h hadvance
      exact h.step hspares hadvance
  by_cases hzero : q.shared.row.usedUserId = 0
  · have hcredits := hsound.used.unused hzero
    refine ⟨?_, fun hne => absurd hcredits hne, hsound.used.wallets⟩
    rw [hcredits]
    exact Nat.zero_le 1
  · obtain ⟨hlength, hstatus⟩ := hsound.used.used hzero
    exact ⟨hlength.le, fun _ => hstatus, hsound.used.wallets⟩

/-- A code for 500 and two users, with two redemptions and an edit of the name. -/
def twoUsers : Pool Shared Thread :=
  ⟨⟨⟨"gift", .enabled, 500, 0, 0, 0⟩, false, fun u => if u = 1 ∨ u = 2 then some 0 else none, []⟩,
    [.edit (.fields "spring gift" 500 0), .redeem 1, .redeem 2]⟩

/-- The edit is written before the first redemption, and the second one finds the code used. -/
theorem redemption_credited_once_of_two :
    ∃ q, Exec (Pool.step (advance true)) (Pool.Meets SparesUsed) twoUsers q ∧
      q.shared.credits = [(1, 500)] ∧ q.shared.row.name = "spring gift" ∧
      q.shared.credits.length ≤ 1 := by
  have hstart : Unused twoUsers := ⟨by decide, rfl, rfl, rfl⟩
  exact Exec.exists_and_and_of_actions (replicate 5 (0, ⟨true, 100⟩) ++ [(0, ⟨true, 101⟩)])
    (by decide +kernel) fun _ hrun _ _ => (redemption_credited_once hstart hrun).1

/-- The edit of the name has read the row before the first redemption and is written after it. The
code is enabled again, and both users are credited. -/
theorem redemption_credited_twice :
    Unused twoUsers ∧ ∃ q, Exec (Pool.step (advance true)) (fun _ _ => True) twoUsers q ∧
      q.shared.credits = [(2, 500), (1, 500)] := by
  refine ⟨⟨by decide, rfl, rfl, rfl⟩, ?_⟩
  exact Exec.exists_of_actions ([(0, ⟨true, 100⟩)] ++ replicate 3 (1, ⟨true, 101⟩) ++
    replicate 4 (0, ⟨true, 102⟩)) (by decide +kernel)

end Redemption

end OmniRouters.Payment
