import OmniRouters.Lib.Frames
import OmniRouters.Midjourney.RowLife

/-!
# Refunds of failed Midjourney tasks

Every step of the system is a step of each row's life, so the invariants of one row hold of
all rows in every run.

* `step_row`: a step of the system is one of `RowStep` for every row.
* `failed_rows_refunded`: a charged row that is stored as a failure has had its charge
  returned exactly once, the account's part and the token's.
* `charge_lost_or_returned_twice`: what the conditions of that theorem are for.
-/

namespace OmniRouters.Mj

open Billing Lib List Function Option State
open OmniRouters.Task (DbAnswer)

/-! ## The rows of a state -/

/-- The refund under way in a pass. -/
def Pass.current (p : Pass) : Option (TaskCopy × RefundStage) :=
  match p.refund with
  | none => none
  | some (mjId, stage) => (p.taskM mjId).map fun copy => (copy, stage)

variable {stage : RefundStage} {ids : List ℕ} {failReason : Option String} {item : MidjourneyDto}
  {db : DbAnswer} {rq : SubmitRequest} {task : Midjourney} {sub : Submission} {a : Action}

theorem Pass.current_some {p : Pass} {copy : TaskCopy} (h : p.current = some (copy, stage)) :
    ∃ mjId, p.taskM mjId = some copy := by
  unfold Pass.current at h
  split at h
  · cases h
  · obtain ⟨copy', hcopy, heq⟩ := map_eq_some_iff.1 h
    cases heq
    exact ⟨_, hcopy⟩

namespace State

/-- The copies of a row in memory. -/
def copies (s : State) (id : ℕ) : Set Midjourney :=
  {task | ∃ pass mjId, (s.passes pass).taskM mjId = some ⟨id, task⟩}

/-- The refunds under way for a row. -/
def refunds (s : State) (id : ℕ) : Set (ℕ × Midjourney × RefundStage) :=
  {refund | (s.passes refund.1).current = some (⟨id, refund.2.1⟩, refund.2.2)}

def rowState (s : State) (id : ℕ) : RowState :=
  ⟨s.rows id, s.subs id, s.ledger id, s.copies id, s.refunds id⟩

/-- Passes that have not begun have no copies, and copies are of rows that exist. -/
structure Allocated (s : State) : Prop where
  passes : ∀ pass, s.passCount ≤ pass → (s.passes pass).taskM = fun _ => none
  copies : ∀ pass mjId copy, (s.passes pass).taskM mjId = some copy → copy.id < s.count

variable {s : State} {pass id : ℕ} {p : Pass}

theorem mem_copies_setPass {task : Midjourney} (h : task ∈ (s.setPass pass p).copies id) :
    task ∈ s.copies id ∨ ∃ mjId, p.taskM mjId = some ⟨id, task⟩ := by
  obtain ⟨pass', mjId, hcopy⟩ := h
  by_cases heq : pass' = pass
  · subst heq
    simp only [setPass, update_self] at hcopy
    exact .inr ⟨mjId, hcopy⟩
  · simp only [setPass, update_of_ne heq] at hcopy
    exact .inl ⟨pass', mjId, hcopy⟩

section

variable {mjId : String} {copy : TaskCopy}
  (hp : p.taskM = Function.update (s.passes pass).taskM mjId (some copy))

include hp

theorem mem_copies_setCopy {task : Midjourney} (h : task ∈ (s.setPass pass p).copies id) :
    task ∈ s.copies id ∨ copy = ⟨id, task⟩ := by
  obtain hold | ⟨mjId', hnew⟩ := mem_copies_setPass h
  · exact .inl hold
  rw [hp] at hnew
  rcases update_eq_some hnew with ⟨-, heq⟩ | ⟨-, hold⟩
  · exact .inr heq.symm
  · exact .inl ⟨pass, mjId', hold⟩

theorem copies_setCopy :
    (s.setPass pass p).copies copy.id ⊆ Insert.insert copy.task (s.copies copy.id) := by
  intro task htask
  obtain hold | hnew := mem_copies_setCopy hp htask
  · exact .inr hold
  · exact .inl (congrArg TaskCopy.task hnew).symm

theorem copies_setCopy_of_ne (hid : id ≠ copy.id) :
    (s.setPass pass p).copies id ⊆ s.copies id := by
  intro task htask
  obtain hold | hnew := mem_copies_setCopy hp htask
  · exact hold
  · exact absurd (congrArg TaskCopy.id hnew).symm hid

end

theorem copies_same (hp : p.taskM = (s.passes pass).taskM) :
    (s.setPass pass p).copies id = s.copies id := by
  have htaskM : ∀ pass', ((s.setPass pass p).passes pass').taskM = (s.passes pass').taskM := by
    intro pass'
    by_cases heq : pass' = pass
    · subst heq
      simp [setPass, hp]
    · simp [setPass, heq]
  ext task
  simp only [copies, htaskM]

/-- Only the refund of the pass that takes the step changes. -/
theorem refunds_setPass : (s.setPass pass p).refunds id =
    {refund | refund ∈ s.refunds id ∧ refund.1 ≠ pass} ∪
      {refund | refund.1 = pass ∧ p.current = some (⟨id, refund.2.1⟩, refund.2.2)} := by
  ext refund
  by_cases heq : refund.1 = pass
  · simp [refunds, setPass, heq]
  · simp [refunds, setPass, heq]

/-- The row has no part in what the pass does. -/
theorem refunds_other
    (hold : ∀ copy stage, (s.passes pass).current = some (copy, stage) → copy.id ≠ id)
    (hnew : ∀ copy stage, p.current = some (copy, stage) → copy.id ≠ id) :
    (s.setPass pass p).refunds id = s.refunds id := by
  rw [refunds_setPass]
  ext refund
  by_cases heq : refund.1 = pass
  · have hleft : p.current ≠ some (⟨id, refund.2.1⟩, refund.2.2) := fun h => hnew _ _ h rfl
    have hright : (s.passes pass).current ≠ some (⟨id, refund.2.1⟩, refund.2.2) :=
      fun h => hold _ _ h rfl
    simp [refunds, heq, hleft, hright]
  · simp [refunds, heq]

theorem refunds_same (hp : p.current = (s.passes pass).current) :
    (s.setPass pass p).refunds id = s.refunds id := by
  rw [refunds_setPass, hp]
  ext refund
  by_cases heq : refund.1 = pass
  · simp [refunds, heq]
  · simp [refunds, heq]

variable {copy : TaskCopy} {stage next : RefundStage}

theorem refunds_begin (hnone : (s.passes pass).current = none)
    (hp : p.current = some (copy, stage)) :
    (s.setPass pass p).refunds copy.id =
      Insert.insert (pass, copy.task, stage) (s.refunds copy.id) := by
  rw [refunds_setPass, hp]
  ext ⟨pass', task, stage'⟩
  by_cases heq : pass' = pass
  · subst heq
    simp [refunds, hnone, TaskCopy.ext_iff, eq_comm]
  · simp [refunds, heq]

section

variable (hold : (s.passes pass).current = some (copy, stage))

include hold

theorem refunds_end
    (hp : p.current = none) :
    (s.setPass pass p).refunds copy.id = s.refunds copy.id \ {(pass, copy.task, stage)} := by
  rw [refunds_setPass, hp]
  ext ⟨pass', task, stage'⟩
  by_cases heq : pass' = pass
  · subst heq
    simp [refunds, hold, TaskCopy.ext_iff, eq_comm]
  · simp [refunds, heq]

theorem refunds_advance
    (hp : p.current = some (copy, next)) :
    (s.setPass pass p).refunds copy.id =
      Insert.insert (pass, copy.task, next) (s.refunds copy.id \ {(pass, copy.task, stage)}) := by
  rw [refunds_setPass, hp]
  ext ⟨pass', task, stage'⟩
  by_cases heq : pass' = pass
  · subst heq
    simp [refunds, hold, TaskCopy.ext_iff, eq_comm]
  · simp [refunds, heq]

end

end State

/-! ## Writes -/

section Writes

variable (s : State) {id id' : ℕ}

@[simp]
theorem State.rowState_setRow (row : Midjourney) :
    (s.setRow id row).rowState id = { s.rowState id with row := row } := by
  show RowState.mk (update s.rows id row id) _ _ _ _ = _
  rw [update_self]
  rfl

@[simp]
theorem State.rowState_setSub (sub : Submission) :
    (s.setSub id sub).rowState id = { s.rowState id with sub := sub } := by
  show RowState.mk _ (update s.subs id sub id) _ _ _ = _
  rw [update_self]
  rfl

@[simp]
theorem State.rowState_setLedger (l : Ledger) :
    (s.setLedger id l).rowState id = { s.rowState id with ledger := l } := by
  show RowState.mk _ _ (update s.ledger id l id) _ _ = _
  rw [update_self]
  rfl

theorem State.rowState_setPass (pass : ℕ) (p : Pass) :
    (s.setPass pass p).rowState id =
      { s.rowState id with
        copies := (s.setPass pass p).copies id, refunds := (s.setPass pass p).refunds id } :=
  rfl

theorem State.rowState_setRow_of_ne (hne : id ≠ id') (row : Midjourney) :
    (s.setRow id' row).rowState id = s.rowState id := by
  show RowState.mk (update s.rows id' row id) _ _ _ _ = _
  rw [update_of_ne hne]
  rfl

theorem State.rowState_setSub_of_ne (hne : id ≠ id') (sub : Submission) :
    (s.setSub id' sub).rowState id = s.rowState id := by
  show RowState.mk _ (update s.subs id' sub id) _ _ _ = _
  rw [update_of_ne hne]
  rfl

theorem State.rowState_setLedger_of_ne (hne : id ≠ id') (l : Ledger) :
    (s.setLedger id' l).rowState id = s.rowState id := by
  show RowState.mk _ _ (update s.ledger id' l id) _ _ = _
  rw [update_of_ne hne]
  rfl

end Writes

/-! ## Submissions -/

variable {s s' : State} {id id' : ℕ} {tokens : Bool}

theorem RowStep.refl (r : RowState) : RowStep tokens r r :=
  .quiet r.copies (Set.subset_insert _ _)

variable (ok : Bool)

theorem chargeFunding_row (hstage : (s.subs id').stage = .funding) :
    RowStep tokens (s.rowState id) ((s.chargeFunding id' ok).rowState id) := by
  by_cases hid : id = id'
  · subst hid
    have hrefuse : RowStep tokens (s.rowState id) _ := .refuse hstage
    dsimp only [State.chargeFunding]
    cases haccount : (s.subs id).info.account with
    | none =>
      rw [rowState_setSub]
      exact hrefuse
    | some account =>
      cases ok with
      | false =>
        rw [rowState_setSub]
        exact hrefuse
      | true =>
        rw [rowState_setLedger, rowState_setSub]
        exact .charge (r := s.rowState id) account hstage haccount
  · have hsame : (s.chargeFunding id' ok).rowState id = s.rowState id := by
      unfold State.chargeFunding
      dsimp only
      split
      · rw [rowState_setLedger_of_ne _ hid, rowState_setSub_of_ne _ hid]
      · rw [rowState_setSub_of_ne _ hid]
    rw [hsame]
    exact .refl _

theorem chargeToken_row (hstage : (s.subs id').stage = .token) :
    RowStep tokens (s.rowState id) ((s.chargeToken id' ok).rowState id) := by
  by_cases hid : id = id'
  · subst hid
    rw [State.chargeToken]
    split
    next hkey =>
      rw [rowState_setLedger, rowState_setSub]
      exact .chargeToken (r := s.rowState id) hstage hkey.1
    · rw [rowState_setSub]
      exact .skipToken (r := s.rowState id) hstage
  · have hsame : (s.chargeToken id' ok).rowState id = s.rowState id := by
      rw [State.chargeToken]
      split
      · rw [rowState_setLedger_of_ne _ hid, rowState_setSub_of_ne _ hid]
      · rw [rowState_setSub_of_ne _ hid]
    rw [hsame]
    exact .refl _

/-- The charge leaves the passes alone. -/
theorem State.chargeFunding_frame (s : State) (id : ℕ) (ok : Bool) :
    (s.chargeFunding id ok).passes = s.passes ∧ (s.chargeFunding id ok).count = s.count ∧
      (s.chargeFunding id ok).passCount = s.passCount := by
  dsimp only [State.chargeFunding]
  split <;> exact ⟨rfl, rfl, rfl⟩

theorem State.chargeToken_frame (s : State) (id : ℕ) (ok : Bool) :
    (s.chargeToken id ok).passes = s.passes ∧ (s.chargeToken id ok).count = s.count ∧
      (s.chargeToken id ok).passCount = s.passCount := by
  dsimp only [State.chargeToken]
  split <;> exact ⟨rfl, rfl, rfl⟩

theorem storeCharge_row (hstage : (s.subs id').stage = .store) :
    RowStep tokens (s.rowState id) ((s.storeCharge id' ok).rowState id) := by
  by_cases hid : id = id'
  · subst hid
    rw [State.storeCharge, rowState_setRow, rowState_setSub]
    exact .storeCharge (r := s.rowState id) ok hstage
  · rw [State.storeCharge, rowState_setRow_of_ne _ hid, rowState_setSub_of_ne _ hid]
    exact .refl _

/-! ## Passes -/

variable {pass : ℕ} {p : Pass}

/-- A pass that keeps its copies and its refund. -/
theorem rowState_setPass_same (htaskM : p.taskM = (s.passes pass).taskM)
    (hrefund : p.refund = (s.passes pass).refund) :
    (s.setPass pass p).rowState id = s.rowState id := by
  have hcurrent : p.current = (s.passes pass).current := by
    rw [Pass.current, Pass.current, htaskM, hrefund]
  rw [rowState_setPass, State.copies_same htaskM, State.refunds_same hcurrent]
  rfl

theorem bulk_row (hspares : ∀ id ∈ ids, (s.rows id).quota = 0) :
    RowStep tokens (s.rowState id) ((s.bulkUpdate ids failReason).rowState id) := by
  by_cases hid : id ∈ ids
  · have hrow : (s.bulkUpdate ids failReason).rows id = (s.rows id).bulkFailed failReason :=
      if_pos hid
    show RowStep tokens (s.rowState id) ⟨(s.bulkUpdate ids failReason).rows id, _, _, _, _⟩
    rw [hrow]
    exact .bulk (r := s.rowState id) failReason (hspares id hid)
  · have hrow : (s.bulkUpdate ids failReason).rows id = s.rows id := if_neg hid
    show RowStep tokens (s.rowState id) ⟨(s.bulkUpdate ids failReason).rows id, _, _, _, _⟩
    rw [hrow]
    exact .refl _

theorem State.loadedCopy_some {mjId : String} {copy : TaskCopy}
    (h : s.loadedCopy ids mjId = some copy) : copy.id ∈ ids ∧ copy.task = s.rows copy.id := by
  unfold State.loadedCopy at h
  split at h
  · cases h
  · obtain ⟨id, hlast, rfl⟩ := map_eq_some_iff.1 h
    exact ⟨(mem_filter.1 (mem_of_getLast? hlast)).1, rfl⟩

theorem State.Allocated.current (h : s.Allocated) (hpass : s.passCount ≤ pass) :
    (s.passes pass).current = none := by
  rw [Pass.current]
  split
  · rfl
  · rw [h.passes pass hpass]
    rfl

theorem load_row (h : s.Allocated) (ids : List ℕ) :
    RowStep tokens (s.rowState id) ((s.load ids).rowState id) := by
  have hcopies : (s.load ids).copies id ⊆ insert (s.rows id) (s.copies id) := by
    intro task htask
    obtain hold | ⟨mjId, hnew⟩ := State.mem_copies_setPass htask
    · exact .inr hold
    · exact .inl (loadedCopy_some hnew).2
  have hrefunds : (s.load ids).refunds id = s.refunds id := by
    refine State.refunds_same ?_
    rw [h.current le_rfl]
    rfl
  show RowStep tokens (s.rowState id) ⟨s.rows id, s.subs id, s.ledger id, _, _⟩
  rw [hrefunds]
  exact .quiet (r := s.rowState id) _ hcopies

variable {mjId : String} {copy : TaskCopy}

/-- The save of a row by a pass that keeps its copy of it is quiet for the others. -/
theorem write_other {row task' : Midjourney}
    (htaskM : p.taskM = update (s.passes pass).taskM mjId (some ⟨copy.id, task'⟩))
    (hid : id ≠ copy.id)
    (hrefunds : ((s.setRow copy.id row).setPass pass p).refunds id = s.refunds id) :
    RowStep tokens (s.rowState id) (((s.setRow copy.id row).setPass pass p).rowState id) := by
  rw [rowState_setPass, hrefunds, rowState_setRow_of_ne _ hid]
  exact .quiet (r := s.rowState id) _
    ((State.copies_setCopy_of_ne (s := s.setRow copy.id row) htaskM hid).trans
      (Set.subset_insert _ _))

theorem perform_row {plan : TaskPlan} (hcopy : (s.passes pass).taskM mjId = some copy)
    (hidle : (s.passes pass).refund = none) (hplan : PlanOk copy.task item plan)
    (hfinished : (s.rows copy.id).progress = "100%" →
      (s.rows copy.id).status = copy.task.status → copy.task.quota = 0 ∧ item.progress = "100%")
    (htoken : tokens = true → copy.task.quota ≠ 0 →
      (s.subs copy.id).stage = .done ∧ copy.task.tokenId = (s.subs copy.id).task.tokenId) :
    RowStep tokens (s.rowState id) ((s.perform pass mjId copy plan db).rowState id) := by
  have hnone : (s.passes pass).current = none := by rw [Pass.current, hidle]
  have hwrite := (s.rows copy.id).updateWithStatus_cases plan.task copy.task.status db
  dsimp only [State.perform]
  generalize hres : (s.rows copy.id).updateWithStatus plan.task copy.task.status db = res
    at hwrite ⊢
  obtain ⟨row, won⟩ := res
  generalize hp : Pass.mk _ _ _ _ _ = p
  have htaskM : p.taskM =
      update (s.passes pass).taskM mjId (some ⟨copy.id, plan.task⟩) := by
    rw [← hp]
    rfl
  have hcurrent : p.current = if won && plan.shouldReturnQuota then
      some (⟨copy.id, plan.task⟩, .funding) else none := by
    rw [← hp]
    cases won && plan.shouldReturnQuota <;> simp [Pass.current, Pass.setCopy]
  by_cases hid : id = copy.id
  · subst hid
    rw [rowState_setPass]
    have hrefunds : ((s.setRow copy.id row).setPass pass p).refunds copy.id =
        if won && plan.shouldReturnQuota then
          insert (pass, plan.task, .funding) (s.refunds copy.id)
        else s.refunds copy.id := by
      by_cases hbegins : (won && plan.shouldReturnQuota) = true
      · rw [if_pos hbegins] at hcurrent ⊢
        exact State.refunds_begin (s := s.setRow copy.id row) hnone hcurrent
      · rw [if_neg hbegins] at hcurrent ⊢
        exact State.refunds_same (s := s.setRow copy.id row) (hcurrent.trans hnone.symm)
    rw [hrefunds, rowState_setRow]
    refine .answer (r := s.rowState copy.id) pass copy.task item plan row won _
      ⟨pass, mjId, hcopy⟩ hplan ?_ ?_ hfinished htoken
    · simp only [Prod.mk.injEq] at hwrite
      exact hwrite
    · exact State.copies_setCopy (s := s.setRow copy.id row) htaskM
  · refine write_other htaskM hid (State.refunds_other (s := s.setRow copy.id row) ?_ ?_)
    · intro copy' stage hsome
      cases hnone.symm.trans hsome
    intro copy' stage hsome
    split at hcurrent
    · cases hcurrent.symm.trans hsome
      exact Ne.symm hid
    · cases hcurrent.symm.trans hsome

theorem Pass.refundAt_some (h : p.refundAt stage = some (mjId, copy)) :
    p.taskM mjId = some copy ∧ p.current = some (copy, stage) := by
  unfold Pass.refundAt at h
  split at h
  · cases h
  rename_i mjId' stage' hrefund
  split at h
  next hstage =>
    obtain ⟨copy', hcopy, heq⟩ := map_eq_some_iff.1 h
    cases heq
    refine ⟨hcopy, ?_⟩
    simp [Pass.current, hrefund, hstage, hcopy]
  · cases h

/-- A step of the refund of another row. -/
theorem State.refunds_of_ne (hid : id ≠ copy.id)
    (hold : (s.passes pass).current = some (copy, stage))
    (hnew : ∀ copy' stage', p.current = some (copy', stage') → copy'.id = copy.id) :
    (s.setPass pass p).refunds id = s.refunds id := by
  refine State.refunds_other ?_ ?_
  · intro copy' stage' hsome
    cases hold.symm.trans hsome
    exact hid.symm
  · intro copy' stage' hsome
    rw [hnew copy' stage' hsome]
    exact hid.symm

/-- A step of a refund that changes the ledger of its row. -/
theorem advance_row {next : RefundStage} (l : Ledger)
    (hold : (s.passes pass).current = some (copy, stage)) (hnew : p.current = some (copy, next))
    (htaskM : p.taskM = (s.passes pass).taskM)
    (hown : RowStep tokens (s.rowState copy.id) { s.rowState copy.id with
      ledger := l
      refunds := Insert.insert (pass, copy.task, next)
        (s.refunds copy.id \ {(pass, copy.task, stage)}) }) :
    RowStep tokens (s.rowState id) (((s.setLedger copy.id l).setPass pass p).rowState id) := by
  rw [rowState_setPass, State.copies_same (s := s.setLedger copy.id l) htaskM]
  by_cases hid : id = copy.id
  · subst hid
    rw [State.refunds_advance (s := s.setLedger copy.id l) hold hnew, rowState_setLedger]
    exact hown
  · have hsame : ∀ copy' stage', p.current = some (copy', stage') → copy'.id = copy.id := by
      simp [hnew]
    rw [refunds_of_ne (s := s.setLedger copy.id l) hid hold hsame,
      rowState_setLedger_of_ne _ hid]
    exact .refl _

theorem refundFunding_row (h : (s.passes pass).refundAt .funding = some (mjId, copy)) :
    RowStep tokens (s.rowState id) ((s.refundFunding pass mjId copy true).rowState id) := by
  obtain ⟨hcopy, hold⟩ := Pass.refundAt_some h
  have hnew : { s.passes pass with refund := some (mjId, .token) }.current =
      some (copy, .token) := by
    simp [Pass.current, hcopy]
  dsimp only [State.refundFunding]
  rw [if_pos rfl]
  exact advance_row _ hold hnew rfl (.refundFunding (r := s.rowState copy.id) pass copy.task hold)

theorem refundToken_row
    (h : (s.passes pass).refundAt .token = some (mjId, copy)) (hok : tokens = true → ok = true) :
    RowStep tokens (s.rowState id) ((s.refundToken pass mjId copy ok).rowState id) := by
  obtain ⟨hcopy, hold⟩ := Pass.refundAt_some h
  have hnew : { s.passes pass with refund := some (mjId, .store) }.current =
      some (copy, .store) := by
    simp [Pass.current, hcopy]
  exact advance_row _ hold hnew rfl
    (.refundToken (r := s.rowState copy.id) pass copy.task ok hold hok)

theorem storeRefund_row
    (h : (s.passes pass).refundAt .store = some (mjId, copy)) :
    RowStep tokens (s.rowState id) ((s.storeRefund pass mjId copy ok).rowState id) := by
  obtain ⟨-, hold⟩ := Pass.refundAt_some h
  dsimp only [State.storeRefund]
  generalize hrow : (if ok = true then _ else s.rows copy.id) = row
  generalize hp : Pass.mk _ _ _ _ _ = p
  have hnew : p.current = none := by simp [← hp, Pass.current]
  have htaskM : p.taskM = update (s.passes pass).taskM mjId
      (some ⟨copy.id, { copy.task with quota := 0 }⟩) := by
    rw [← hp]
    rfl
  by_cases hid : id = copy.id
  · subst hid
    rw [rowState_setPass]
    rw [State.refunds_end (s := s.setRow copy.id row) hold hnew, rowState_setRow]
    exact hrow ▸ .storeRefund (r := s.rowState copy.id) pass copy.task ok _ hold
      (State.copies_setCopy (s := s.setRow copy.id row) htaskM)
  · have hsame : ∀ copy' stage', p.current = some (copy', stage') → copy'.id = copy.id := by
      simp [hnew]
    exact write_other htaskM hid (refunds_of_ne (s := s.setRow copy.id row) hid hold hsame)

/-! ## The rows that are stored -/

/-- A new row is of the request's user, and it is no finished failure. -/
structure NewRow (rq : SubmitRequest) (task : Midjourney) : Prop where
  userId : task.userId = rq.info.userId
  unfinished : task.status = "FAILURE" → task.progress ≠ "100%"

theorem taskExists_new (huser : task.userId = rq.info.userId) (hopen : task.progress ≠ "100%") :
    NewRow rq (taskExists rq task).1 := by
  unfold taskExists
  split
  · split
    · exact ⟨huser, fun _ => hopen⟩
    split
    next hsuccess =>
      refine ⟨huser, fun hfailure => ?_⟩
      exact absurd (hsuccess.symm.trans hfailure) (by decide)
    · exact ⟨huser, fun _ => hopen⟩
  · exact ⟨huser, fun _ => hopen⟩

theorem taskUploaded_new (h : NewRow rq task) (code : ℤ) :
    NewRow rq (taskUploaded rq task code) := by
  unfold taskUploaded
  split
  · exact ⟨h.userId, by simp⟩
  · exact h

theorem handler_new (rq : SubmitRequest) (swapFace : Bool) :
    NewRow rq (if swapFace then relaySwapFace rq else relayMidjourneySubmit rq).1 := by
  cases swapFace with
  | true => exact ⟨rfl, by simp [relaySwapFace, SubmitRequest.newTask]⟩
  | false => exact taskUploaded_new (taskExists_new rfl (by simp [SubmitRequest.newTask])) _

/-- What `PrepareMidjourneyTaskBilling` leaves of a row, and what it sets. -/
structure Prepared (info : SubmitInfo) (task task' : Midjourney) : Prop where
  userId : task'.userId = task.userId
  status : task'.status = task.status
  progress : task'.progress = task.progress
  organizationId : task'.organizationId = info.organizationId
  usagePeriod : task'.organizationUsagePeriod = info.organizationUsagePeriod
  tokenId : task'.tokenId = 0

theorem prepare_ok (info : SubmitInfo) (task : Midjourney) (quota : ℤ) (shouldBill : Bool) :
    Prepared info task (prepareMidjourneyTaskBilling info task quota shouldBill).1 := by
  unfold prepareMidjourneyTaskBilling
  split <;> exact ⟨rfl, rfl, rfl, rfl, rfl, rfl⟩

/-- A submission when its row is stored. -/
structure NewSubmission (rq : SubmitRequest) (sub : Submission) : Prop where
  info : sub.info = rq.info
  marker : sub.marker = sub.task.quota
  payer : sub.task.payer = rq.info.payer
  tokenId : sub.task.tokenId = 0
  stage : sub.stage = .funding ∨ sub.stage = .done
  unfinished : sub.task.status = "FAILURE" → sub.task.progress ≠ "100%"

theorem SubmitRequest.submission_new (rq : SubmitRequest) (swapFace : Bool) :
    NewSubmission rq (rq.submission swapFace) := by
  have hnew := handler_new rq swapFace
  dsimp only [SubmitRequest.submission]
  generalize (if swapFace = true then relaySwapFace rq else relayMidjourneySubmit rq) = handled
    at hnew ⊢
  obtain ⟨task, shouldBill⟩ := handled
  have hprep := prepare_ok rq.info task rq.quota shouldBill
  generalize prepareMidjourneyTaskBilling rq.info task rq.quota shouldBill = prepared at hprep ⊢
  obtain ⟨task', billed⟩ := prepared
  refine ⟨rfl, rfl, ?_, hprep.tokenId, by cases billed <;> simp, ?_⟩
  · have huser : task'.userId = rq.info.userId := hprep.userId.trans hnew.userId
    have horganization : task'.organizationId = rq.info.organizationId := hprep.organizationId
    have hperiod : task'.organizationUsagePeriod = _ := hprep.usagePeriod
    simp only [Midjourney.payer, SubmitInfo.payer, huser, horganization, hperiod]
  · rw [hprep.status, hprep.progress]
    exact hnew.unfinished

/-- A row that is stored is in order. -/
theorem NewSubmission.rowOk (h : NewSubmission rq sub) :
    RowOk ⟨sub.task, sub, ⟨[], [], [], []⟩, ∅, ∅⟩ := by
  have hversion : Version ⟨sub.task, sub, ⟨[], [], [], []⟩, ∅, ∅⟩ sub.task :=
    ⟨h.payer.trans (congrArg SubmitInfo.payer h.info.symm), .inl h.marker.symm⟩
  refine ⟨⟨hversion, hversion, fun _ hcopy => hcopy.elim, fun _ hrefund => hrefund.elim⟩,
    ⟨fun _ => h.marker.symm, fun _ => rfl, .inl rfl⟩, ?_⟩
  refine ⟨.inl rfl, by simp, fun _ hrefund => hrefund.elim, Set.subsingleton_empty,
    fun hstatus hfinal => ?_, .inl rfl⟩
  exact absurd hfinal (h.unfinished hstatus)

theorem NewSubmission.tokenOk (h : NewSubmission rq sub)
    (hkey : rq.info.isPlayground = false → 0 < rq.info.tokenId) :
    TokenOk ⟨sub.task, sub, ⟨[], [], [], []⟩, ∅, ∅⟩ where
  key := h.info ▸ hkey
  before _ := rfl
  after _ := by simp [Submission.tokenCharge, h.tokenId]
  settled := by simp
  known _ hrefund := hrefund.elim
  unreturned _ := rfl
  returned := by simp

/-! ## Copies in memory -/

/-- The copies of `s'` are of rows that the same pass had a copy of in `s`. -/
def CopiesOf (s s' : State) : Prop :=
  ∀ pass mjId copy, (s'.passes pass).taskM mjId = some copy →
    ∃ mjId' copy', (s.passes pass).taskM mjId' = some copy' ∧ copy'.id = copy.id

theorem CopiesOf.of_passes (h : s'.passes = s.passes) : CopiesOf s s' := by
  intro pass mjId copy hcopy
  exact ⟨mjId, copy, h ▸ hcopy, rfl⟩

theorem CopiesOf.trans {s'' : State} (h : CopiesOf s s') (h' : CopiesOf s' s'') :
    CopiesOf s s'' := by
  intro pass mjId copy hcopy
  obtain ⟨mjId', copy', hcopy', hid⟩ := h' pass mjId copy hcopy
  obtain ⟨mjId'', copy'', hcopy'', hid'⟩ := h pass mjId' copy' hcopy'
  exact ⟨mjId'', copy'', hcopy'', hid'.trans hid⟩

theorem CopiesOf.setPass (h : p.taskM = (s.passes pass).taskM) : CopiesOf s (s.setPass pass p) := by
  intro pass' mjId copy hcopy
  by_cases heq : pass' = pass
  · subst heq
    simp only [State.setPass, update_self, h] at hcopy
    exact ⟨mjId, copy, hcopy, rfl⟩
  · simp only [State.setPass, update_of_ne heq] at hcopy
    exact ⟨mjId, copy, hcopy, rfl⟩

theorem CopiesOf.setCopy (hcopy : (s.passes pass).taskM mjId = some copy)
    (hp : p.taskM = update (s.passes pass).taskM mjId (some ⟨copy.id, task⟩)) :
    CopiesOf s (s.setPass pass p) := by
  intro pass' mjId' copy' hcopy'
  by_cases heq : pass' = pass
  · subst heq
    simp only [State.setPass, update_self, hp] at hcopy'
    rcases update_eq_some hcopy' with ⟨-, rfl⟩ | ⟨-, hold⟩
    · exact ⟨mjId, copy, hcopy, rfl⟩
    · exact ⟨mjId', copy', hold, rfl⟩
  · simp only [State.setPass, update_of_ne heq] at hcopy'
    exact ⟨mjId', copy', hcopy', rfl⟩

theorem State.Allocated.of_copies (h : s.Allocated) (hcopies : CopiesOf s s')
    (hcount : s.count ≤ s'.count) (hpasses : s'.passCount = s.passCount) : s'.Allocated where
  passes pass hpass := by
    funext mjId
    rw [← not_isSome_iff_eq_none, isSome_iff_exists]
    rintro ⟨copy, hcopy⟩
    obtain ⟨mjId', copy', hcopy', -⟩ := hcopies pass mjId copy hcopy
    rw [h.passes pass (hpasses ▸ hpass)] at hcopy'
    cases hcopy'
  copies pass mjId copy hcopy := by
    obtain ⟨mjId', copy', hcopy', hid⟩ := hcopies pass mjId copy hcopy
    have hlt := h.copies pass mjId' copy' hcopy'
    omega

/-! ## One step of the system -/

/-- The conditions under which charges are returned exactly once: a bulk update fails no
row that holds a quota, an answer that finds its row finished with the status the pass
holds comes after the pass's own refund, and accounts accept what is returned. -/
def RefundsKept (s : State) (a : Action) : Prop :=
  SparesCharged s a ∧ SparesFinished s a ∧ AcceptsRefund a = true

/-- With the conditions under which the tokens get their part back too. -/
def TokensKept (s : State) (a : Action) : Prop :=
  RefundsKept s a ∧ KnowsToken s a ∧ AcceptsTokenRefund a = true

instance (s : State) (a : Action) : Decidable (RefundsKept s a) :=
  inferInstanceAs (Decidable (_ ∧ _))

instance (s : State) (a : Action) : Decidable (TokensKept s a) :=
  inferInstanceAs (Decidable (_ ∧ _))

/-- What a step does: every row takes a step, and a new row is in order. -/
structure Advances (tokens : Bool) (s s' : State) : Prop where
  allocated : s'.Allocated
  rows : ∀ id < s.count, RowStep tokens (s.rowState id) (s'.rowState id)
  stored : ∀ id, s.count ≤ id → id < s'.count →
    RowOk (s'.rowState id) ∧ TokenOk (s'.rowState id)

section

variable (h : s.Allocated)

include h

theorem Advances.of_rows (hcopies : CopiesOf s s') (hcount : s'.count = s.count)
    (hpasses : s'.passCount = s.passCount)
    (hrows : ∀ id, RowStep tokens (s.rowState id) (s'.rowState id)) : Advances tokens s s' where
  allocated := h.of_copies hcopies hcount.ge hpasses
  rows id _ := hrows id
  stored id hle hlt := by omega

theorem insert_advances (hsub : NewSubmission rq sub)
    (hkey : rq.info.isPlayground = false → 0 < rq.info.tokenId) :
    Advances tokens s (s.insert sub) := by
  have hold : ∀ id < s.count, (s.insert sub).rowState id = s.rowState id := by
    intro id hid
    have hne := hid.ne
    simp only [State.rowState, State.insert, update_of_ne hne]
    rfl
  have hcopies : (s.insert sub).copies s.count = ∅ := by
    refine Set.eq_empty_of_forall_notMem ?_
    rintro task ⟨pass, mjId, hcopy⟩
    exact lt_irrefl _ (h.copies pass mjId _ hcopy)
  have hrefunds : (s.insert sub).refunds s.count = ∅ := by
    refine Set.eq_empty_of_forall_notMem fun refund hrefund => ?_
    obtain ⟨mjId, hcopy⟩ := Pass.current_some hrefund
    exact lt_irrefl _ (h.copies _ mjId _ hcopy)
  have hnew : (s.insert sub).rowState s.count = ⟨sub.task, sub, ⟨[], [], [], []⟩, ∅, ∅⟩ := by
    rw [State.rowState, hcopies, hrefunds]
    simp [State.insert]
  refine ⟨h.of_copies (.of_passes rfl) (Nat.le_succ _) rfl, fun id hid => ?_, ?_⟩
  · rw [hold id hid]
    exact .refl _
  intro id hle hlt
  obtain rfl : id = s.count := Nat.le_antisymm (Nat.lt_succ_iff.1 hlt) hle
  rw [hnew]
  exact ⟨hsub.rowOk, hsub.tokenOk hkey⟩

theorem load_advances (hids : ∀ id ∈ ids, id < s.count) : Advances tokens s (s.load ids) where
  allocated :=
    { passes := fun pass hpass => by
        have hne : pass ≠ s.passCount := Nat.ne_of_gt hpass
        simp only [State.load, update_of_ne hne]
        exact h.passes pass (Nat.le_of_succ_le hpass)
      copies := fun pass mjId copy hcopy => by
        by_cases heq : pass = s.passCount
        · subst heq
          simp only [State.load, update_self] at hcopy
          exact hids _ (loadedCopy_some hcopy).1
        · simp only [State.load, update_of_ne heq] at hcopy
          exact h.copies pass mjId copy hcopy }
  rows id _ := load_row h ids
  stored id hle hlt := absurd hlt (Nat.not_lt.2 hle)

/-- A pass that keeps its copies and its refund. -/
theorem setPass_advances (htaskM : p.taskM = (s.passes pass).taskM)
    (hrefund : p.refund = (s.passes pass).refund) : Advances tokens s (s.setPass pass p) := by
  refine .of_rows h (.setPass htaskM) rfl rfl fun id => ?_
  rw [rowState_setPass_same htaskM hrefund]
  exact .refl _

theorem bulk_advances (ok : Bool) (hspares : ∀ id ∈ ids, (s.rows id).quota = 0)
    (htaskM : p.taskM = (s.passes pass).taskM) (hrefund : p.refund = (s.passes pass).refund) :
    Advances tokens s ((if ok then s.bulkUpdate ids failReason else s).setPass pass p) := by
  cases ok with
  | true =>
    refine .of_rows h (CopiesOf.setPass (s := s.bulkUpdate ids failReason) htaskM) rfl rfl ?_
    intro id
    rw [if_pos rfl, rowState_setPass_same (s := s.bulkUpdate ids failReason) htaskM hrefund]
    exact bulk_row hspares
  | false => exact setPass_advances h htaskM hrefund

theorem answer_advances {items : List MidjourneyDto} {now : ℤ}
    (hitems : (s.passes pass).items = item :: items) (hidle : (s.passes pass).refund = none)
    (hfinished : SparesFinished s (.answer pass now db))
    (htoken : tokens = true → KnowsToken s (.answer pass now db)) : Advances tokens s
      ((s.setPass pass { s.passes pass with items := items }).handle pass item now db) := by
  generalize hp : { s.passes pass with items := items } = p
  have htaskM : p.taskM = (s.passes pass).taskM := by rw [← hp]
  have hrefund : p.refund = (s.passes pass).refund := by rw [← hp]
  have hpasses : (s.setPass pass p).passes pass = p := update_self _ _ _
  have hfirst : CopiesOf s (s.setPass pass p) := .setPass htaskM
  have hrow : ∀ id, (s.setPass pass p).rowState id = s.rowState id :=
    fun id => rowState_setPass_same htaskM hrefund
  have hskip : Advances tokens s (s.setPass pass p) := setPass_advances h htaskM hrefund
  unfold State.handle
  split
  · exact hskip
  rename_i copy hcopy
  split
  · exact hskip
  rename_i plan hplan
  have hanswered : answeredCopy s (.answer pass now db) = some (copy, item) := by
    rw [hpasses, htaskM] at hcopy
    simp [answeredCopy, hitems, hcopy]
  have hperform : ∀ id, RowStep tokens ((s.setPass pass p).rowState id)
      (((s.setPass pass p).perform pass item.mjId copy plan db).rowState id) := fun id =>
    perform_row hcopy (by rw [hpasses, hrefund, hidle]) (updateTask_ok hplan)
      (hfinished copy item hanswered) fun htok => htoken htok copy item hanswered
  refine .of_rows h (hfirst.trans ?_) rfl rfl fun id => hrow id ▸ hperform id
  exact CopiesOf.setCopy (s := (s.setPass pass p).setRow copy.id _) hcopy rfl

theorem step_row (hkept : RefundsKept s a)
    (htokens : tokens = true → KnowsToken s a ∧ AcceptsTokenRefund a = true)
    (hstep : step s a = some s') : Advances tokens s s' := by
  obtain ⟨hspares, hfinished, haccepts⟩ := hkept
  cases a with
  | submit rq swapFace =>
    obtain ⟨hkey, heq⟩ := ite_none_right_eq_some.1 hstep
    cases heq
    exact insert_advances h (rq.submission_new swapFace) hkey
  | chargeFunding id' ok =>
    obtain ⟨⟨-, hstage⟩, heq⟩ := ite_none_right_eq_some.1 hstep
    cases heq
    obtain ⟨hpasses, hcount, hpassCount⟩ := s.chargeFunding_frame id' ok
    exact .of_rows h (.of_passes hpasses) hcount hpassCount fun _ => chargeFunding_row ok hstage
  | chargeToken id' ok =>
    obtain ⟨⟨-, hstage⟩, heq⟩ := ite_none_right_eq_some.1 hstep
    cases heq
    obtain ⟨hpasses, hcount, hpassCount⟩ := s.chargeToken_frame id' ok
    exact .of_rows h (.of_passes hpasses) hcount hpassCount fun _ => chargeToken_row ok hstage
  | storeCharge id' ok =>
    obtain ⟨⟨-, hstage⟩, heq⟩ := ite_none_right_eq_some.1 hstep
    cases heq
    exact .of_rows h (.of_passes rfl) rfl rfl fun _ => storeCharge_row ok hstage
  | load ids =>
    obtain ⟨hids, heq⟩ := ite_none_right_eq_some.1 hstep
    cases heq
    refine load_advances h fun id hid => ?_
    have hmem := mem_filter.1 (hids.mem_iff.1 hid)
    exact mem_range.1 hmem.1
  | failNullTasks pass ok =>
    cases hstep
    exact bulk_advances h ok hspares rfl rfl
  | channelMissing pass channel failReason ok =>
    obtain ⟨-, hmap⟩ := ite_none_right_eq_some.1 hstep
    obtain ⟨mjIds, hchannel, heq⟩ := map_eq_some_iff.1 hmap
    cases heq
    refine bulk_advances h ok (fun id hid => hspares id ?_) rfl rfl
    simpa [bulkIds, hchannel] using hid
  | openChannel pass channel items =>
    obtain ⟨-, hmap⟩ := ite_none_right_eq_some.1 hstep
    obtain ⟨mjIds, -, heq⟩ := map_eq_some_iff.1 hmap
    cases heq
    exact setPass_advances h rfl rfl
  | answer pass now db =>
    simp only [step] at hstep
    split at hstep
    next item items hitems hidle =>
      cases hstep
      exact answer_advances h hitems hidle hfinished fun htok => (htokens htok).1
    · cases hstep
  | refundFunding pass ok =>
    obtain ⟨⟨mjId, copy⟩, hat, heq⟩ := map_eq_some_iff.1 hstep
    cases heq
    obtain rfl : ok = true := haccepts
    exact .of_rows h (.setPass rfl) rfl rfl fun _ => refundFunding_row hat
  | refundToken pass ok =>
    obtain ⟨⟨mjId, copy⟩, hat, heq⟩ := map_eq_some_iff.1 hstep
    cases heq
    exact .of_rows h (.setPass rfl) rfl rfl fun _ =>
      refundToken_row ok hat fun htok => (htokens htok).2
  | storeRefund pass ok =>
    obtain ⟨⟨mjId, copy⟩, hat, heq⟩ := map_eq_some_iff.1 hstep
    cases heq
    refine .of_rows h ?_ rfl rfl fun _ => storeRefund_row ok hat
    exact CopiesOf.setCopy (s := s.setRow copy.id _) (Pass.refundAt_some hat).1 rfl

end

/-! ## Runs -/

/-- Every row is in order. -/
structure RowsOk (s : State) : Prop where
  allocated : s.Allocated
  rows : ∀ id < s.count, RowOk (s.rowState id)

theorem RowsOk.init : RowsOk State.init where
  allocated := ⟨fun _ _ => rfl, fun _ _ _ hcopy => absurd hcopy.symm (some_ne_none _)⟩
  rows _ hid := absurd hid (Nat.not_lt_zero _)

theorem RowsOk.step (h : RowsOk s) (hkept : RefundsKept s a) (hstep : step s a = some s') :
    RowsOk s' := by
  have hadv : Advances false s s' := step_row h.allocated hkept nofun hstep
  refine ⟨hadv.allocated, fun id hid => ?_⟩
  by_cases hold : id < s.count
  · exact (h.rows id hold).step (hadv.rows id hold)
  · exact (hadv.stored id (Nat.not_lt.1 hold) hid).1

theorem RowsOk.step_tokens (h : RowsOk s) (htokens : ∀ id < s.count, TokenOk (s.rowState id))
    (hkept : TokensKept s a) (hstep : Mj.step s a = some s') :
    ∀ id < s'.count, TokenOk (s'.rowState id) := by
  have hadv : Advances true s s' := step_row h.allocated hkept.1 (fun _ => hkept.2) hstep
  intro id hid
  by_cases hold : id < s.count
  · exact (htokens id hold).step (h.rows id hold) (hadv.rows id hold)
  · exact (hadv.stored id (Nat.not_lt.1 hold) hid).2

/-- In every state of a run under these conditions no row's charge has been returned more
than once, and a charged row that is stored as `FAILURE` with progress `100%` and has no
refund under way has had its charge returned to the account it was taken from. If the run
also meets the conditions on tokens, the token has its part back too. -/
theorem failed_rows_refunded {s : State} (hrun : Exec step RefundsKept State.init s) (id : ℕ)
    (hid : id < s.count) :
    (s.ledger id).refunds.length ≤ 1 ∧ (s.ledger id).tokenRefunds.length ≤ 1 ∧
      ((s.ledger id).charges ≠ [] → (s.rows id).status = "FAILURE" →
        (s.rows id).progress = "100%" → s.refunds id = ∅ →
          (s.ledger id).refunds = (s.ledger id).charges ∧ (Exec step TokensKept State.init s →
              (s.ledger id).tokenRefunds = (s.ledger id).tokenCharges)) := by
  have hrows : RowsOk s := hrun.invariant (fun _ _ _ h hkept hstep => h.step hkept hstep) .init
  obtain ⟨hrefunds, htokens, hreturned⟩ := (hrows.rows id hid).returned_once
  refine ⟨hrefunds, htokens, fun hcharged hstatus hfinal hnone => ?_⟩
  have hsame : (s.ledger id).refunds = (s.ledger id).charges :=
    hreturned hcharged hstatus hfinal hnone
  refine ⟨hsame, fun hrun' => ?_⟩
  have htoken := hrun'.invariant_of (J := fun t => ∀ id < t.count, TokenOk (t.rowState id))
    (fun _ _ _ h hkept hstep => RowsOk.step h hkept.1 hstep)
    (fun _ _ _ h hj hkept hstep => RowsOk.step_tokens h hj hkept hstep) .init nofun
  exact (htoken.2 id hid).returned_token (hsame ▸ hcharged) hnone

/-- A submission of 100 units by user 1 with token 5, on channel 7. -/
def imagineRequest : SubmitRequest where
  info := ⟨1, 0, "", none, 7, 5, false⟩
  action := "IMAGINE"
  channelId := 7
  quota := 100
  requestTime := 0
  now := 0
  reply := ⟨true, 1, "", "m-1", none⟩

/-- An answer about the task. -/
def taskAnswer (status progress failReason : String) : MidjourneyDto where
  mjId := "m-1"
  promptEn := ""
  state := ""
  submitTime := 0
  startTime := 0
  finishTime := 0
  imageUrl := ""
  videoUrl := ""
  videoUrls := none
  status := status
  progress := progress
  failReason := failReason
  buttons := none
  properties := none

def settled : List Action := [.chargeFunding 0 true, .chargeToken 0 true, .storeCharge 0 true]

def refunded (pass : ℕ) : List Action :=
  [.refundFunding pass true, .refundToken pass true, .storeRefund pass true]

/-- Two passes read the task; the first is told that it has failed, the second finds the
row changed. -/
def failedRun : List Action :=
  .submit imagineRequest false :: settled ++
  [.load [0], .load [0], .openChannel 0 7 [taskAnswer "FAILURE" "100%" "banned"],
   .openChannel 1 7 [taskAnswer "FAILURE" "100%" "banned"],
   .answer 0 1000 (.ok false)] ++ refunded 0 ++ [.answer 1 1000 (.ok false)]

/-- No pass has a refund under way. -/
def State.quiet (s : State) : Bool :=
  (List.range s.passCount).all fun pass => (s.passes pass).refund.isNone

theorem State.Allocated.refunds_eq_empty {s : State} (h : s.Allocated) (hquiet : s.quiet = true)
    (id : ℕ) : s.refunds id = ∅ := by
  refine Set.eq_empty_of_forall_notMem fun refund hrefund => ?_
  have hnone : (s.passes refund.1).current = none := by
    by_cases hpass : refund.1 < s.passCount
    · have hidle := List.all_eq_true.1 hquiet refund.1 (mem_range.2 hpass)
      rw [Pass.current, isNone_iff_eq_none.1 hidle]
    · exact h.current (Nat.not_lt.1 hpass)
  cases hnone.symm.trans hrefund

theorem failedRun_refunds_row : ∃ s, Exec step TokensKept State.init s ∧
    (s.ledger 0).refunds = [(.wallet 1, 100)] ∧ (s.ledger 0).tokenRefunds = [(5, 100)] := by
  obtain ⟨s, hrun, hcount, hcharges, htokens, hstatus, hfinal, hquiet⟩ :
      ∃ s, Exec step TokensKept State.init s ∧ 0 < s.count ∧
        (s.ledger 0).charges = [(.wallet 1, 100)] ∧ (s.ledger 0).tokenCharges = [(5, 100)] ∧
        (s.rows 0).status = "FAILURE" ∧ (s.rows 0).progress = "100%" ∧ s.quiet = true :=
    Exec.exists_of_actions failedRun (by decide +kernel)
  have hrun' : Exec step RefundsKept State.init s := hrun.mono fun _ _ hkept => hkept.1
  have hrows : RowsOk s := hrun'.invariant (fun _ _ _ h hkept hstep => h.step hkept hstep) .init
  obtain ⟨-, -, hreturned⟩ := failed_rows_refunded hrun' 0 hcount
  obtain ⟨hsame, htoken⟩ := hreturned (by simp [hcharges]) hstatus hfinal
    (hrows.allocated.refunds_eq_empty hquiet 0)
  exact ⟨s, hrun, hsame.trans hcharges, (htoken hrun).trans htokens⟩

/-- The channel of the task is gone. -/
def missingChannelRun : List Action :=
  .submit imagineRequest false :: settled ++ [.load [0], .channelMissing 0 7 "gone" true]

/-- Two passes are told of a failure, and the status is not `FAILURE`. -/
def repeatedFailureRun : List Action :=
  .submit imagineRequest false :: settled ++
  [.load [0], .load [0], .openChannel 0 7 [taskAnswer "" "50%" "banned"],
   .openChannel 1 7 [taskAnswer "FAILURE" "100%" "banned"],
   .answer 0 1000 (.ok false)] ++ refunded 0 ++ .answer 1 1000 (.ok false) :: refunded 1

/-- A pass reads the task before it is charged. -/
def earlyLoadRun : List Action :=
  [.submit imagineRequest false, .load [0]] ++ settled ++
  [.openChannel 0 7 [taskAnswer "FAILURE" "100%" "banned"], .answer 0 1000 (.ok false)] ++
  refunded 0

/-- Without any fault, a task whose channel is gone keeps its charge; two passes that are
told of a failure return the charge twice if the first does not change the status; and a
pass that reads the task before it is charged does not return the token's part. -/
theorem charge_lost_or_returned_twice :
    (∃ s, Exec step (fun _ a => Faultless a = true) State.init s ∧ s.quiet = true ∧
      (s.rows 0).status = "FAILURE" ∧ (s.rows 0).progress = "100%" ∧
      (s.ledger 0).charges = [(.wallet 1, 100)] ∧ (s.ledger 0).refunds = []) ∧
    (∃ s, Exec step (fun _ a => Faultless a = true) State.init s ∧ s.quiet = true ∧
      (s.rows 0).status = "FAILURE" ∧ (s.rows 0).progress = "100%" ∧
      (s.ledger 0).charges = [(.wallet 1, 100)] ∧
      (s.ledger 0).refunds = [(.wallet 1, 100), (.wallet 1, 100)]) ∧
    (∃ s, Exec step (fun _ a => Faultless a = true) State.init s ∧ s.quiet = true ∧
      (s.rows 0).status = "FAILURE" ∧ (s.rows 0).progress = "100%" ∧
      (s.ledger 0).tokenCharges = [(5, 100)] ∧ (s.ledger 0).tokenRefunds = []) := by
  refine ⟨?_, ?_, ?_⟩
  · exact Exec.exists_of_actions missingChannelRun (by decide +kernel)
  · exact Exec.exists_of_actions repeatedFailureRun (by decide +kernel)
  · exact Exec.exists_of_actions earlyLoadRun (by decide +kernel)

end OmniRouters.Mj
