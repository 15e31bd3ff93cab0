import Mathlib.Algebra.Order.Group.Int
import OmniRouters.Lib.Runs

/-!
# Authentication flows

Model of the consumption of an authentication flow (`model/auth_flow.go`). Any number of
`ConsumeAuthFlowWithAction` calls on the token of one flow, and `DeleteExpiredAuthFlows`, statement
by statement. A call claims the row by a conditional update in a transaction: until the transaction
ends its write is visible to itself only, and the statements of others that would write the row
wait.

* `Inv.step`: one statement.
* `consume_once`: at most one call succeeds, with the right fields and checks made before the
  expiry, its effects and no others are committed, and a failed action leaves the flow consumable.
* `commit_after_expiry`: the action may last beyond the expiry.
-/

namespace OmniRouters.AuthFlow

open OmniRouters.Lib

/-- The fields a flow is created with (`AuthFlowCreate`). -/
structure Flow where
  purpose : String
  provider : String := ""
  intent : String := ""
  userId : ℤ := 0
  sessionId : String := ""
  expiresAt : ℤ
deriving DecidableEq

/-- A row of `AuthFlow`. -/
structure Row where
  flow : Flow
  consumedAt : Option ℤ := none
deriving DecidableEq

/-- The update of a row. -/
def Row.consume (row : Row) (now : ℤ) : Row := { row with consumedAt := some now }

/-- `AuthFlowMatch`. -/
structure Match where
  purpose : String
  provider : String := ""
  intent : String := ""
  userId : ℤ := 0
  sessionId : String := ""

/-- The conditions of `applyAuthFlowMatch` on the fields of a row (lines 78-93). -/
def Match.fits (m : Match) (flow : Flow) : Prop :=
  flow.purpose = m.purpose ∧ (m.provider ≠ "" → flow.provider = m.provider) ∧
    (m.intent ≠ "" → flow.intent = m.intent) ∧ (m.userId ≠ 0 → flow.userId = m.userId) ∧
    (m.sessionId ≠ "" → flow.sessionId = m.sessionId)

instance (m : Match) (flow : Flow) : Decidable (m.fits flow) := by
  unfold Match.fits
  infer_instance

/-- The errors of a call. -/
inductive FlowError
  | invalid
  | consumed
  | expired
  | action
  | database
deriving DecidableEq

/-- A call between its statements: its transaction has read the time, has claimed the row or has
found nothing to claim, has made its checks at a time, has run the action; or it has ended. -/
inductive Phase
  | idle
  | begun (now : ℤ)
  | unclaimed
  | claimed (now : ℤ)
  | checked (now time : ℤ)
  | acted (now time : ℤ)
  | succeeded (time : ℤ)
  | failed (error : FlowError)
deriving DecidableEq

/-- The database as it is committed, the transaction that has written the row, the calls and the
calls whose actions have been committed. -/
structure State where
  clock : ℤ
  row : Option Row
  writer : Option ℕ := none
  phase : ℕ → Phase := fun _ => .idle
  effects : List ℕ := []

/-- The next phase of a call. -/
def State.goto (s : State) (i : ℕ) (phase : Phase) : State :=
  { s with phase := fun j => if j = i then phase else s.phase j }

/-- A transaction is rolled back: its write is gone. -/
def State.rollback (s : State) (i : ℕ) (error : FlowError) : State :=
  { s.goto i (.failed error) with writer := if s.writer = some i then none else s.writer }

/-- The condition of the update (lines 206-208). -/
def claimable (m : Match) (now : ℤ) (row : Row) : Bool :=
  m.fits row.flow && row.consumedAt.isNone && now < row.flow.expiresAt

/-- The checks after the update, which has affected the row or not (lines 212-228). -/
def checks (m : Match) (affected : Bool) (clock : ℤ) (row : Option Row) : Option FlowError :=
  match row.filter fun row => m.fits row.flow with
  | none => some .invalid
  | some row =>
    if !affected && row.consumedAt.isSome then some .consumed
    else if ¬ clock < row.flow.expiresAt then some .expired
    else if !affected then some .invalid else none

/-- `AuthFlowDefaultCleanupRetention`, in seconds. -/
def retention : ℤ := 24 * 3600

/-- The condition of `DeleteExpiredAuthFlows` (lines 240-244). -/
def outdated (now : ℤ) (row : Row) : Bool :=
  row.flow.expiresAt < now - retention || row.consumedAt.any (· < now - retention)

/-- What can happen next. -/
inductive Action
  | tick (seconds : ℕ)
  | begin_ (i : ℕ)
  | claim (i : ℕ)
  | check (i : ℕ)
  | act (i : ℕ) (ok : Bool)
  | commit (i : ℕ)
  | abort (i : ℕ)
  | deleteExpired (now : ℤ)

/-- The transaction of the call is open. -/
def Phase.isOpen : Phase → Bool
  | .begun _ | .unclaimed | .claimed _ | .checked _ _ | .acted _ _ => true
  | _ => false

/-- One statement of `ConsumeAuthFlowWithAction` (lines 198-238) or `DeleteExpiredAuthFlows`; `m i`
is the match of the call `i`. -/
def step (m : ℕ → Match) (s : State) : Action → Option State
  | .tick seconds => some { s with clock := s.clock + seconds }
  | .begin_ i =>
    match s.phase i with
    | .idle => some (s.goto i (if (m i).purpose = "" then .failed .invalid else .begun s.clock))
    | _ => none
  | .claim i =>
    match s.phase i with
    | .begun now =>
      match s.row.filter (claimable (m i) now) with
      | none => some (s.goto i .unclaimed)
      | some _ =>
        if s.writer = none then some { s.goto i (.claimed now) with writer := some i } else none
    | _ => none
  | .check i =>
    match s.phase i with
    | .unclaimed => (checks (m i) false s.clock s.row).map (s.rollback i)
    | .claimed now =>
      match checks (m i) true s.clock (s.row.map (·.consume now)) with
      | some error => some (s.rollback i error)
      | none => some (s.goto i (.checked now s.clock))
    | _ => none
  | .act i ok =>
    match s.phase i with
    | .checked now time => some (if ok then s.goto i (.acted now time) else s.rollback i .action)
    | _ => none
  | .commit i =>
    match s.phase i with
    | .acted now time => some { s.goto i (.succeeded time) with
        row := s.row.map (·.consume now)
        writer := none
        effects := s.effects ++ [i] }
    | _ => none
  | .abort i => if (s.phase i).isOpen then some (s.rollback i .database) else none
  | .deleteExpired now =>
    match s.row.filter (outdated now) with
    | none => some s
    | some _ => if s.writer = none then some { s with row := none } else none

/-- The call has written the row in its open transaction. -/
def Phase.writes : Phase → Bool
  | .claimed _ | .checked _ _ | .acted _ _ => true
  | _ => false

/-- The time of the checks that the call has passed. -/
def Phase.checkedAt? : Phase → Option ℤ
  | .checked _ time | .acted _ time | .succeeded time => some time
  | _ => none

/-- The call has succeeded. -/
def Phase.isSuccess : Phase → Bool
  | .succeeded _ => true
  | _ => false

/-- The states of the runs: the row, if it is there, is the flow that was created; the transaction
that has written it found it unconsumed; and either no call has succeeded and the row is
unconsumed, or one has, with its effects, and it is consumed. -/
structure Inv (flow : Flow) (m : ℕ → Match) (s : State) : Prop where
  row : ∀ row, s.row = some row → row.flow = flow
  writer : ∀ i, (s.phase i).writes = true ↔ s.writer = some i
  written : ∀ i, s.writer = some i → s.row = some { flow }
  fits : ∀ i, (s.phase i).writes = true ∨ (s.phase i).isSuccess = true → (m i).fits flow
  checked : ∀ i time, (s.phase i).checkedAt? = some time → time < flow.expiresAt
  winner : ∃ w : Option ℕ, (∀ i, (s.phase i).isSuccess = true ↔ w = some i) ∧
    s.effects = w.toList ∧ ∀ row, s.row = some row → (row.consumedAt.isSome ↔ w.isSome)

section Step

variable {flow : Flow} {m : ℕ → Match} {s s' : State} {i : ℕ}

/-- A call goes on without changing the database. -/
theorem Inv.goto (h : Inv flow m s) {old phase : Phase} (hphase : s.phase i = old)
    (hwrites : phase.writes = old.writes) (hsuccess : phase.isSuccess = old.isSuccess)
    (htime : ∀ time, phase.checkedAt? = some time → time < flow.expiresAt) :
    Inv flow m (s.goto i phase) := by
  subst hphase
  obtain ⟨w, hw, heffects, hconsumed⟩ := h.winner
  refine ⟨h.row, fun j => ?_, h.written, fun j hj => ?_, fun j time hj => ?_, w, fun j => ?_,
    heffects, hconsumed⟩ <;> simp only [State.goto] at * <;> split_ifs at * with hji
  · rw [hwrites, hji]
    exact h.writer i
  · exact h.writer j
  · rw [hwrites, hsuccess, ← hji] at hj
    exact h.fits j hj
  · exact h.fits j hj
  · exact htime time hj
  · exact h.checked j time hj
  · rw [hsuccess, hji]
    exact hw i
  · exact hw j

/-- A transaction that is rolled back leaves the flow as it found it. -/
theorem Inv.rollback (h : Inv flow m s) {old : Phase} (hphase : s.phase i = old)
    (hopen : old.isSuccess = false) (error : FlowError) : Inv flow m (s.rollback i error) := by
  subst hphase
  obtain ⟨w, hw, heffects, hconsumed⟩ := h.winner
  refine ⟨h.row, fun j => ?_, fun j hj => ?_, fun j hj => ?_, fun j time hj => ?_, w, fun j => ?_,
    heffects, hconsumed⟩ <;> simp only [State.rollback, State.goto] at *
  · grind [h.writer j, Phase.writes]
  · grind [h.written j]
  · grind [h.fits j, Phase.writes, Phase.isSuccess]
  · split_ifs at hj
    · simp [Phase.checkedAt?] at hj
    · exact h.checked j time hj
  · grind [Phase.isSuccess]

/-- A call claims the row that no other call has written. -/
theorem Inv.claim (h : Inv flow m s) {row : Row} {now : ℤ} (hphase : s.phase i = .begun now)
    (hfree : s.writer = none) (hrow : s.row = some row) (hclaim : claimable (m i) now row = true) :
    Inv flow m { s.goto i (.claimed now) with writer := some i } := by
  obtain ⟨w, hw, heffects, hconsumed⟩ := h.winner
  have hflow := h.row row hrow
  simp only [claimable, Bool.and_eq_true, decide_eq_true_eq, Option.isNone_iff_eq_none] at hclaim
  refine ⟨h.row, fun j => ?_, fun j _ => ?_, fun j hj => ?_, fun j time hj => ?_, w, fun j => ?_,
    heffects, hconsumed⟩ <;> simp only [State.goto] at *
  · grind [h.writer j, Phase.writes]
  · cases row
    grind
  · grind [h.fits j]
  · split_ifs at hj
    · simp [Phase.checkedAt?] at hj
    · exact h.checked j time hj
  · grind [Phase.isSuccess]

theorem Inv.commit (h : Inv flow m s) {now time : ℤ} (hphase : s.phase i = .acted now time) :
    Inv flow m { s.goto i (.succeeded time) with
      row := s.row.map (·.consume now), writer := none, effects := s.effects ++ [i] } := by
  obtain ⟨w, hw, heffects, hconsumed⟩ := h.winner
  have hwriter : s.writer = some i := (h.writer i).1 (by rw [hphase]; rfl)
  have hrow := h.written i hwriter
  have hnone : w = none := by simpa using hconsumed _ hrow
  refine ⟨fun row hr => ?_, fun j => ?_, fun j hj => ?_, fun j hj => ?_, fun j t hj => ?_, some i,
    fun j => ?_, ?_, fun row hr => ?_⟩ <;> simp only [State.goto] at *
  · grind [Row.consume]
  · grind [h.writer j, Phase.writes]
  · grind
  · grind [h.fits j, Phase.writes]
  · split_ifs at hj
    · exact h.checked i t (by rw [hphase]; exact hj)
    · exact h.checked j t hj
  · grind [Phase.isSuccess]
  · simp [heffects, hnone]
  · grind [Row.consume]

theorem Inv.delete (h : Inv flow m s) (hfree : s.writer = none) :
    Inv flow m { s with row := none } where
  row _ hr := by simp at hr
  writer := h.writer
  written j hj := by simp [hfree] at hj
  fits := h.fits
  checked := h.checked
  winner := by
    obtain ⟨w, hw, heffects, -⟩ := h.winner
    exact ⟨w, hw, heffects, by simp⟩

theorem checks_eq_none {m : Match} {affected : Bool} {clock : ℤ} {row : Option Row}
    (h : checks m affected clock row = none) :
    ∃ r, row = some r ∧ affected = true ∧ clock < r.flow.expiresAt := by
  unfold checks at h
  cases hr : row.filter fun row => m.fits row.flow with
  | none => simp [hr] at h
  | some r =>
    have := Option.filter_eq_some_iff.1 hr
    grind

theorem Inv.step {a : Action} (h : Inv flow m s) (hs : AuthFlow.step m s a = some s') :
    Inv flow m s' := by
  cases a with
  | tick seconds =>
    obtain rfl := Option.some.inj hs
    exact ⟨h.row, h.writer, h.written, h.fits, h.checked, h.winner⟩
  | begin_ i =>
    cases hphase : s.phase i <;> simp only [AuthFlow.step, hphase] at hs <;> try contradiction
    obtain rfl := Option.some.inj hs
    split_ifs <;> exact h.goto hphase rfl rfl (by simp [Phase.checkedAt?])
  | claim i =>
    cases hphase : s.phase i <;> simp only [AuthFlow.step, hphase] at hs <;> try contradiction
    rename_i now
    cases hrow : s.row.filter (claimable (m i) now) <;> simp only [hrow] at hs
    · obtain rfl := Option.some.inj hs
      exact h.goto hphase rfl rfl (by simp [Phase.checkedAt?])
    · obtain ⟨hrow, hclaim⟩ := Option.filter_eq_some_iff.1 hrow
      split_ifs at hs with hfree
      obtain rfl := Option.some.inj hs
      exact h.claim hphase hfree hrow hclaim
  | check i =>
    cases hphase : s.phase i <;> simp only [AuthFlow.step, hphase] at hs <;> try contradiction
    · obtain ⟨error, -, rfl⟩ := Option.map_eq_some_iff.1 hs
      exact h.rollback hphase rfl error
    · rename_i now
      cases hc : checks (m i) true s.clock (s.row.map (·.consume now)) <;> simp only [hc] at hs <;>
        obtain rfl := Option.some.inj hs
      · obtain ⟨r, hr, -, htime⟩ := checks_eq_none hc
        obtain ⟨row, hrow, rfl⟩ := Option.map_eq_some_iff.1 hr
        refine h.goto hphase rfl rfl fun time ht => ?_
        obtain rfl := Option.some.inj ht
        exact h.row row hrow ▸ htime
      · exact h.rollback hphase rfl _
  | act i ok =>
    cases hphase : s.phase i <;> simp only [AuthFlow.step, hphase] at hs <;> try contradiction
    obtain rfl := Option.some.inj hs
    split_ifs
    · exact h.goto hphase rfl rfl fun t ht => h.checked i t (by rw [hphase]; exact ht)
    · exact h.rollback hphase rfl _
  | commit i =>
    cases hphase : s.phase i <;> simp only [AuthFlow.step, hphase] at hs <;> try contradiction
    obtain rfl := Option.some.inj hs
    exact h.commit hphase
  | abort i =>
    simp only [AuthFlow.step] at hs
    split_ifs at hs with hopen
    obtain rfl := Option.some.inj hs
    refine h.rollback rfl ?_ _
    cases hphase : s.phase i <;> simp_all [Phase.isOpen, Phase.isSuccess]
  | deleteExpired now =>
    cases hrow : s.row.filter (outdated now) <;> simp only [AuthFlow.step, hrow] at hs
    · exact Option.some.inj hs ▸ h
    · split_ifs at hs with hfree
      exact Option.some.inj hs ▸ h.delete hfree

end Step

/-- A flow has been created and no call has begun. -/
def created (flow : Flow) (clock : ℤ) : State where
  clock := clock
  row := some { flow }

/-- A run of any calls, in any interleaving. -/
abbrev Run (m : ℕ → Match) : State → State → Prop := Exec (step m) fun _ _ => True

theorem Run.inv {flow : Flow} {m : ℕ → Match} {clock : ℤ} {s : State}
    (h : Run m (created flow clock) s) : Inv flow m s := by
  refine Exec.invariant (fun _ _ _ hinv _ hs => hinv.step hs) ?_ h
  refine ⟨?_, ?_, ?_, ?_, ?_, none, ?_, ?_, ?_⟩ <;>
    simp [created, Phase.writes, Phase.isSuccess, Phase.checkedAt?]

/-- A call for the flow that is not disturbed succeeds. -/
def Consumable (flow : Flow) (m : ℕ → Match) (s : State) : Prop :=
  ∀ i, s.phase i = .idle → (m i).purpose ≠ "" → (m i).fits flow → s.clock < flow.expiresAt →
    ∃ s', run (step m) s [.begin_ i, .claim i, .check i, .act i true, .commit i] = some s' ∧
      (s'.phase i).isSuccess = true

theorem consumable_of_row {flow : Flow} {m : ℕ → Match} {s : State} (hrow : s.row = some { flow })
    (hfree : s.writer = none) : Consumable flow m s := by
  intro i hidle hpurpose hfits hclock
  have hclaim : claimable (m i) s.clock { flow } = true := by simp [claimable, hfits, hclock]
  simp [run, step, State.goto, hidle, hpurpose, hrow, hfree, Option.filter_some, hclaim, hfits,
    hclock.not_ge, checks, Row.consume, Phase.isSuccess]

/-- In every state of every run, for the flow that was created: at most one call has succeeded; it
has made its checks before the expiry, and the fields it asked for are those of the flow; the
effects of this call and of no other are committed; and where an action fails, the flow can be
consumed. -/
theorem consume_once (flow : Flow) (m : ℕ → Match) (clock : ℤ) {s : State}
    (h : Run m (created flow clock) s) :
    (∀ i j, (s.phase i).isSuccess = true → (s.phase j).isSuccess = true → i = j) ∧
    (∀ i time, s.phase i = .succeeded time → time < flow.expiresAt ∧ (m i).fits flow) ∧
    (s.effects.Nodup ∧ ∀ i, i ∈ s.effects ↔ (s.phase i).isSuccess = true) ∧
    ∀ i s', step m s (.act i false) = some s' → Consumable flow m s' := by
  have hinv := h.inv
  obtain ⟨w, hw, heffects, -⟩ := hinv.winner
  refine ⟨fun i j hi hj => ?_, fun i time hi => ?_, ⟨?_, fun i => ?_⟩, fun i s' hs => ?_⟩
  · exact Option.some.inj (((hw i).1 hi).symm.trans ((hw j).1 hj))
  · exact ⟨hinv.checked i time (by rw [hi]; rfl), hinv.fits i (.inr (by rw [hi]; rfl))⟩
  · rw [heffects]
    cases w <;> simp
  · rw [heffects, hw i, Option.mem_toList]
  · cases hphase : s.phase i <;> simp only [step, hphase] at hs <;> try contradiction
    obtain rfl := Option.some.inj hs
    have hwriter : s.writer = some i := (hinv.writer i).1 (by rw [hphase]; rfl)
    exact consumable_of_row (hinv.written i hwriter) (by simp [State.rollback, hwriter])

/-- A flow that expires at `10`. -/
def shortFlow : Flow where
  purpose := "p"
  expiresAt := 10

/-- The calls that ask for the purpose `p` only. -/
def plainMatch (_ : ℕ) : Match where
  purpose := "p"

/-- The action of the first call fails, which leaves the flow consumable, and the second call
succeeds. -/
theorem consume_once_retry :
    (∃ s, Run plainMatch (created shortFlow 0) s ∧ s.effects = [1] ∧
      (s.phase 1).isSuccess = true ∧ ∀ i, (s.phase i).isSuccess = true → i = 1) ∧
    ∃ s, Run plainMatch (created shortFlow 0) s ∧ s.phase 0 = .checked 0 0 ∧
      ∃ s', step plainMatch s (.act 0 false) = some s' ∧ Consumable shortFlow plainMatch s' := by
  constructor
  · refine Exec.exists_and_of_actions [.begin_ 0, .begin_ 1, .claim 0, .check 0, .act 0 false,
      .claim 1, .check 1, .act 1 true, .commit 1] (by decide +kernel) fun s hrun heffects => ?_
    obtain ⟨hone, -, hcommitted, -⟩ := consume_once shortFlow plainMatch 0 hrun
    have hsuccess : (s.phase 1).isSuccess = true := (hcommitted.2 1).1 (by simp [heffects])
    exact ⟨hsuccess, fun i hi => hone i 1 hi hsuccess⟩
  · refine Exec.exists_and_of_actions [.begin_ 0, .claim 0, .check 0] (by decide +kernel)
      fun s hrun hphase => ?_
    have hact : step plainMatch s (.act 0 false) = some (s.rollback 0 .action) := by
      simp only [step, hphase]
      rfl
    exact ⟨_, hact, (consume_once shortFlow plainMatch 0 hrun).2.2.2 0 _ hact⟩

/-- A call that makes its checks in time and whose action ends after the expiry succeeds then. -/
theorem commit_after_expiry : ∃ s, Run plainMatch (created shortFlow 0) s ∧
    (shortFlow.expiresAt < s.clock ∧ s.phase 0 = .acted 0 0) ∧
    ∃ s', step plainMatch s (.commit 0) = some s' ∧ (s'.phase 0).isSuccess = true := by
  refine Exec.exists_and_of_actions [.begin_ 0, .claim 0, .check 0, .tick 20, .act 0 true]
    (by decide +kernel) fun s _ hs => ?_
  refine ⟨_, by simp only [step, hs.2]; rfl, ?_⟩
  simp [State.goto, Phase.isSuccess]

end OmniRouters.AuthFlow
