import Mathlib.Algebra.Order.Group.Int
import OmniRouters.Lib.Threads

/-!
# Failed attempts of two-factor verification (`model/twofa.go`, lines 124-185 and 280-341)

A verification loads the record of a user, checks the lock on the copy that it has loaded, compares
the code, and then counts a wrong code by a bounded compare-and-swap loop or, for a right one, saves
the record with its counter reset. Nothing keeps other verifications from loading the record before
a wrong code is counted.

* `attempts_bounded`: one verification at a time, without failing statements: at most
  `maxFailAttempts` wrong codes are compared between successes and lock expiries, and no code is
  accepted while the lock is active.
* `attempts_exceeded`: verifications that overlap break both.
-/

namespace OmniRouters.TwoFactor

open Lib List

/-- `MaxFailAttempts` (`common/totp.go`, line 20). -/
def maxFailAttempts : ℕ := 5

/-- `LockoutDuration` (`common/totp.go`, line 21). -/
def lockoutDuration : ℤ := 300

/-- `maxUpdateRetries` (line 137). -/
def maxUpdateRetries : ℕ := 5

/-- The counter and the lock of a `TwoFA` record. -/
structure TwoFA where
  failedAttempts : ℕ := 0
  lockedUntil : Option ℤ := none
deriving DecidableEq

/-- `IsLocked` (lines 179-185). -/
def TwoFA.isLocked (t : TwoFA) (now : ℤ) : Bool :=
  match t.lockedUntil with
  | none => false
  | some u => now < u

/-- The record after one more failure (lines 151-156). -/
def TwoFA.next (t : TwoFA) (now : ℤ) : TwoFA where
  failedAttempts := t.failedAttempts + 1
  lockedUntil := if maxFailAttempts ≤ t.failedAttempts + 1 then some (now + lockoutDuration)
    else t.lockedUntil

/-- The record and the clock. `compared` counts the wrong codes since the last success or expiry of
a lock, and `breached` says whether a code has been accepted while the lock was active. -/
structure Account where
  row : TwoFA := {}
  clock : ℤ
  compared : ℕ := 0
  breached : Bool := false

/-- A verification between its statements. -/
inductive Attempt
  | load
  | validate (t : TwoFA)
  | increment (t : TwoFA) (retries : ℕ)
  | swap (t : TwoFA) (retries : ℕ) (current : TwoFA) (now : ℤ)
  | update
deriving DecidableEq

/-- What is left open about a step: the time before it, the verdict on the code, if it is compared
at all, whether the request goes on to the backup codes after a call that has not accepted the code
(`Verify2FALogin`, controller/twofa.go:471-476), and if the statement fails. -/
structure AttemptChoice where
  elapsed : ℕ := 0
  verdict : Option Bool := none
  again : Bool := false
  fails : Bool := false

/-- Time passes, and a lock may expire. -/
def Account.tick (s : Account) (elapsed : ℕ) : Account :=
  { s with
    clock := s.clock + elapsed
    compared := if s.row.isLocked s.clock ∧ !s.row.isLocked (s.clock + elapsed) then 0
      else s.compared }

/-- The record with one more failure; a lock that is over when it is stored has expired. -/
def Account.store (s : Account) (row : TwoFA) : Account :=
  { s with
    row := row
    compared := if maxFailAttempts ≤ row.failedAttempts ∧ !row.isLocked s.clock then 0
      else s.compared }

/-- One statement of `ValidateTOTPAndUpdateUsage` or `ValidateBackupCodeAndUpdateUsage`, which
differ in how a code is compared. -/
def attemptStatement (c : AttemptChoice) (s : Account) : Attempt → Account × List Attempt
  | .load => (s, if c.fails then [] else [.validate s.row])
  | .validate t =>
    if t.isLocked s.clock then (s, if c.again then [.validate t] else [])
    else
      match c.verdict with
      | none => (s, if c.again then [.validate t] else [])
      | some false => ({ s with compared := s.compared + 1 }, [.increment t maxUpdateRetries])
      | some true =>
        ({ s with compared := 0, breached := s.breached || s.row.isLocked s.clock }, [.update])
  | .increment t 0 => (s, if c.again then [.validate t] else [])
  | .increment t (retries + 1) =>
    if c.fails then (s, if c.again then [.validate t] else [])
    else if s.row.isLocked s.clock then (s, if c.again then [.validate s.row] else [])
    else (s, [.swap t retries s.row s.clock])
  | .swap t retries current now =>
    if c.fails then (s, if c.again then [.validate t] else [])
    else if s.row.failedAttempts = current.failedAttempts ∧ !s.row.isLocked now then
      (s.store (current.next now), if c.again then [.validate (current.next now)] else [])
    else (s, [.increment t retries])
  | .update => (if c.fails then s else { s with row := {} }, [])

def attemptStep (c : AttemptChoice) (s : Account) (t : Attempt) : Option (Account × List Attempt) :=
  some (attemptStatement c (s.tick c.elapsed) t)

/-! ## One verification at a time -/

/-- A verification starts when no other one is under way, and no statement fails. -/
def Serial (p : Pool Account Attempt) (c : AttemptChoice) (t : Attempt) : Prop :=
  (t = .load → ∀ u ∈ p.threads, u = .load) ∧ c.fails = false

instance (p : Pool Account Attempt) (c : AttemptChoice) (t : Attempt) : Decidable (Serial p c t) :=
  inferInstanceAs (Decidable (_ ∧ _))

/-- The wrong codes since the last success or expiry are counted, where `pending` is the one that
has just been compared. -/
structure Counted (s : Account) (pending : ℕ) : Prop where
  breached : s.breached = false
  bound : s.compared ≤ maxFailAttempts
  few : s.row.failedAttempts < maxFailAttempts →
    s.compared ≤ s.row.failedAttempts + pending ∧ s.row.lockedUntil = none
  many : maxFailAttempts ≤ s.row.failedAttempts →
    ∃ u, s.row.lockedUntil = some u ∧ (u ≤ s.clock → s.compared ≤ pending)

/-- What holds between the statements of the verification that is under way. -/
def UnderWay (s : Account) : Attempt → Prop
  | .load => Counted s 0
  | .validate t => t = s.row ∧ Counted s 0
  | .increment _ retries => 0 < retries ∧ s.row.isLocked s.clock = false ∧ Counted s 1
  | .swap _ _ current now => current = s.row ∧ now ≤ s.clock ∧ s.row.isLocked now = false ∧
    Counted s 1
  | .update => s.compared = 0 ∧ Counted s 0

variable {s : Account} {t : Attempt} {c : AttemptChoice}

theorem UnderWay.tick (h : UnderWay s t) (elapsed : ℕ) : UnderWay (s.tick elapsed) t := by
  have hcounted : ∀ pending, Counted s pending → Counted (s.tick elapsed) pending := by
    rintro pending ⟨hbreached, hbound, hfew, hmany⟩
    constructor <;> grind [Account.tick, TwoFA.isLocked]
  cases t <;> grind [UnderWay, Account.tick, TwoFA.isLocked]

/-- A wrong code may be compared when the lock is not active. -/
theorem Counted.compare (h : Counted s 0) (hlock : s.row.isLocked s.clock = false) :
    Counted { s with compared := s.compared + 1 } 1 := by
  obtain ⟨hbreached, hbound, hfew, hmany⟩ := h
  constructor <;> grind [TwoFA.isLocked, maxFailAttempts]

/-- The failure is counted, with a lock if there are enough. -/
theorem Counted.store (h : Counted s 1) (now : ℤ) : Counted (s.store (s.row.next now)) 0 := by
  obtain ⟨hbreached, hbound, hfew, hmany⟩ := h
  constructor <;> grind [TwoFA.isLocked, Account.store, TwoFA.next]

/-- A statement of the verification that is under way keeps the count, and the verification goes on
or ends. -/
theorem attemptStatement_spec (h : UnderWay s t) (hfails : c.fails = false) :
    ((attemptStatement c s t).2 = [] ∧ Counted (attemptStatement c s t).1 0) ∨
      ∃ u, (attemptStatement c s t).2 = [u] ∧ u ≠ .load ∧
        UnderWay (attemptStatement c s t).1 u := by
  cases t with
  | load => exact .inr ⟨.validate s.row, by simp [attemptStatement, hfails], by simp, rfl, h⟩
  | validate t =>
    obtain ⟨rfl, hcounted⟩ := h
    -- without a comparison nothing changes, and the request may go on
    have hrefused : ((if c.again then [.validate s.row] else []) = ([] : List Attempt) ∧
        Counted s 0) ∨ ∃ u, (if c.again then [.validate s.row] else []) = [u] ∧ u ≠ .load ∧
          UnderWay s u := by
      cases c.again with
      | false => exact .inl ⟨rfl, hcounted⟩
      | true => exact .inr ⟨.validate s.row, rfl, by simp, rfl, hcounted⟩
    rw [attemptStatement]
    split
    · exact hrefused
    rename_i hlock
    rw [Bool.not_eq_true] at hlock
    split
    · exact hrefused
    · exact .inr ⟨_, rfl, by simp, by decide, hlock, hcounted.compare hlock⟩
    · obtain ⟨hbreached, hbound, hfew, hmany⟩ := hcounted
      refine .inr ⟨_, rfl, by simp, rfl, ?_⟩
      constructor <;> grind
  | increment t retries =>
    obtain ⟨hpos, hopen, hcounted⟩ := h
    obtain ⟨n, rfl⟩ := Nat.exists_eq_succ_of_ne_zero hpos.ne'
    refine .inr ⟨.swap t n s.row s.clock, by simp [attemptStatement, hfails, hopen], by simp, ?_⟩
    simp [attemptStatement, hfails, hopen, UnderWay, hcounted]
  | swap t retries current now =>
    obtain ⟨rfl, -, hopen, hcounted⟩ := h
    have hstored := hcounted.store now
    cases hagain : c.again with
    | false => exact .inl (by simp [attemptStatement, hfails, hopen, hagain, hstored])
    | true =>
      refine .inr ⟨.validate (s.row.next now), by simp [attemptStatement, hfails, hopen, hagain],
        by simp, ?_⟩
      simp only [attemptStatement, hfails, hopen, UnderWay]
      exact ⟨rfl, hstored⟩
  | update =>
    obtain ⟨hzero, hcounted⟩ := h
    refine .inl ⟨rfl, ?_⟩
    simp only [attemptStatement, hfails]
    exact ⟨hcounted.breached, hcounted.bound, fun _ => ⟨hzero.le, rfl⟩, fun hmany => by cases hmany⟩

/-- At most one verification is under way. -/
def OneAtATime (s : Account) (threads : List Attempt) : Prop :=
  (Counted s 0 ∧ ∀ u ∈ threads, u = .load) ∨
    ∃ t others, threads.Perm (t :: others) ∧ t ≠ .load ∧ UnderWay s t ∧ ∀ u ∈ others, u = .load

/-- A step of the verification that is under way, or of the next one. -/
theorem OneAtATime.step {p : Pool Account Attempt} {ts others : List Attempt}
    (hserial : Serial p c t) (hperm : p.threads.Perm (t :: others))
    (h : OneAtATime p.shared (t :: others)) (hstep : attemptStep c p.shared t = some (s, ts)) :
    OneAtATime s (ts ++ others) := by
  have hcases : UnderWay p.shared t ∧ ∀ u ∈ others, u = .load := by
    rcases h with ⟨hcounted, hall⟩ | ⟨u, rest, hu, hne, hway, hrest⟩
    · rw [hall t mem_cons_self]
      exact ⟨hcounted, fun u hu => hall u (mem_cons_of_mem _ hu)⟩
    by_cases htu : t = u
    · subst htu
      exact ⟨hway, fun u hu' => hrest u ((List.Perm.cons_inv hu).mem_iff.1 hu')⟩
    · -- the verification that is under way keeps the next one from its start
      have ht : t = .load := hrest t (mem_of_ne_of_mem htu (hu.mem_iff.1 mem_cons_self))
      exact absurd (hserial.1 ht u (hperm.mem_iff.2 (hu.mem_iff.2 mem_cons_self))) hne
  obtain ⟨hway, hothers⟩ := hcases
  have hspec := attemptStatement_spec (hway.tick c.elapsed) hserial.2
  have heq : attemptStatement c (p.shared.tick c.elapsed) t = (s, ts) := Option.some.inj hstep
  rw [heq] at hspec
  rcases hspec with ⟨rfl, hcounted⟩ | ⟨u, rfl, hne, hnext⟩
  · exact .inl ⟨hcounted, hothers⟩
  · exact .inr ⟨u, others, .refl _, hne, hnext, hothers⟩

/-- With one verification at a time, at most `maxFailAttempts` wrong codes are compared between two
successes or lock expiries, and no code is accepted while the stored lock is active. -/
theorem attempts_bounded (clock : ℤ) (n : ℕ) {q : Pool Account Attempt}
    (h : Exec (Pool.step attemptStep) (Pool.Meets Serial) ⟨{ clock }, List.replicate n .load⟩ q) :
    q.shared.compared ≤ maxFailAttempts ∧ q.shared.breached = false := by
  have hstart : OneAtATime { clock } (replicate n .load) := by
    refine .inl ⟨⟨rfl, Nat.zero_le _, fun _ => ⟨le_refl _, rfl⟩, fun hmany => by cases hmany⟩, ?_⟩
    exact fun u hu => eq_of_mem_replicate hu
  have hq : OneAtATime q.shared q.threads := by
    refine Pool.invariant (I := OneAtATime) ?_ ?_ hstart h
    · rintro s l l' hperm (⟨hcounted, hall⟩ | ⟨t, others, ht, hrest⟩)
      · exact .inl ⟨hcounted, fun u hu => hall u (hperm.mem_iff.2 hu)⟩
      · exact .inr ⟨t, others, hperm.symm.trans ht, hrest⟩
    · exact fun p c t s ts others hserial hperm h hstep => h.step hserial hperm hstep
  have hany : ∀ t, UnderWay q.shared t → ∃ pending, Counted q.shared pending := by
    intro t ht
    cases t <;> grind [UnderWay]
  obtain ⟨pending, hcounted⟩ : ∃ pending, Counted q.shared pending := by
    rcases hq with ⟨hcounted, -⟩ | ⟨t, -, -, -, hway, -⟩
    · exact ⟨0, hcounted⟩
    · exact hany t hway
  exact ⟨hcounted.bound, hcounted.breached⟩

/-- Five wrong codes, one verification after the other, and then the lock keeps a sixth one out. -/
theorem attempts_bounded_five : ∃ q : Pool Account Attempt,
    Exec (Pool.step attemptStep) (Pool.Meets Serial) ⟨{ clock := 0 }, List.replicate 6 .load⟩ q ∧
      (q.shared.row = ⟨5, some 300⟩ ∧ q.threads = []) ∧
      q.shared.compared ≤ maxFailAttempts ∧ q.shared.breached = false := by
  exact Exec.exists_and_of_actions (replicate 22 (0, { verdict := some false }))
    (by decide +kernel) fun _ hrun _ => attempts_bounded 0 6 hrun

/-- Seven verifications load the record before the first wrong code is counted: six wrong codes can
be compared, and a right one can be accepted while the lock is active. -/
theorem attempts_exceeded :
    (∃ q, Exec (Pool.step attemptStep) (fun _ _ => True)
      ⟨{ clock := 0 }, List.replicate 7 .load⟩ q ∧ q.shared.compared = 6) ∧
    ∃ q, Exec (Pool.step attemptStep) (fun _ _ => True) ⟨{ clock := 0 }, List.replicate 7 .load⟩ q ∧
      q.shared.row.isLocked q.shared.clock = true ∧ q.shared.breached = true := by
  constructor
  · exact Exec.exists_of_actions ((range 7 ++ range 6).map fun i => (i,
      { verdict := some false })) (by decide +kernel)
  · exact Exec.exists_of_actions ((range 7 ++ replicate 15 0 ++ [1]).map fun i => (i,
      { verdict := some (i == 1) })) (by decide +kernel)

end OmniRouters.TwoFactor
