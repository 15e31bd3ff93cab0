import OmniRouters.Lib.Frames
import OmniRouters.Task.Polling

/-!
# What holds in every state of the pollers

The invariant of all passes and sweeps, and what follows from it for the finalization of a
task.

* `TaskPlan.Regular`: what every plan for an unfinished copy has in common.
* `perform_cases`: what a poll of an unfinished copy can do.
* `Coherent.step`: the invariant is kept by every step of a run in which no pass polls one
  task object twice.
-/

namespace OmniRouters.Task

open Lib List Function Option Pass State

/-! ## Plans for unfinished copies -/

/-- A plan for the copy `snap`, which is unfinished: every write is guarded by the status of
the copy, only a terminal status is finalized, and the quota is kept unless a legacy
task is timed out. -/
structure TaskPlan.Regular (snap : PolledTask) (plan : TaskPlan) : Prop where
  guard : ∀ status, plan.guard = some status → status = snap.status
  undone : plan.task.status.isDone = false →
    plan.finalize = .never ∧ plan.task.quota = snap.quota
  done : plan.task.status.isDone = true →
    plan.guard = some snap.status ∧
      (plan.finalize = .ifWon ∧ plan.task.quota = snap.quota ∨
        plan.finalize = .never ∧ plan.task.status = .failure ∧ plan.task.isLegacy = true)

@[simp] theorem isDone_failure : TaskStatus.failure.isDone = true := rfl

@[simp] theorem isDone_success : TaskStatus.success.isDone = true := rfl

section Regular

variable {snap task : PolledTask} (env : PollEnv)

theorem failTaskFromPoll_regular (hquota : task.quota = snap.quota) (reason : String) :
    (failTaskFromPoll env task snap.status reason).Regular snap where
  guard _ h := (some.inj h).symm
  undone h := absurd h (by simp [failTaskFromPoll])
  done _ := ⟨rfl, .inl ⟨rfl, hquota⟩⟩

section

variable (hopen : snap.status.isDone = false)

include hopen

theorem recordPollFailure_regular (hstatus : task.status = snap.status)
    (hquota : task.quota = snap.quota) (failure : PollFailure) (statusCode : ℕ) :
    (recordPollFailure env task snap.status failure statusCode).Regular snap := by
  unfold recordPollFailure
  dsimp only
  split
  · apply failTaskFromPoll_regular
    exact hquota
  · refine ⟨fun _ h => (some.inj h).symm, fun _ => ⟨rfl, hquota⟩, fun h => ?_⟩
    have hdone : snap.status.isDone = true := hstatus ▸ h
    simp [hopen] at hdone

/-- The copy was unfinished, so a terminal status is a new one. -/
theorem storePolled_regular (hquota : task.quota = snap.quota) (usage : CompletionUsage) :
    (storePolled snap task usage).Regular snap := by
  unfold storePolled
  split
  next hnew =>
    exact ⟨fun _ h => (some.inj h).symm, fun h => by simp [h] at hnew,
      fun _ => ⟨rfl, .inl ⟨rfl, hquota⟩⟩⟩
  next hold =>
    have hundone : task.status.isDone = false := by
      by_contra hdone
      refine hold ⟨by simpa using hdone, fun heq => hdone ?_⟩
      rw [← heq]
      exact hopen
    refine ⟨fun status h => ?_, fun _ => ⟨by simp [hundone], hquota⟩, fun h => ?_⟩
    · split at h
      · cases h
      · exact (some.inj h).symm
    · simp [hundone] at h

theorem updateVideoSingleTask_regular (fetch : Fetch) :
    (updateVideoSingleTask env snap fetch).Regular snap := by
  cases fetch with
  | transport statusCode => exact recordPollFailure_regular env hopen rfl rfl _ _
  | response statusCode body ownData parsed =>
    simp only [updateVideoSingleTask]
    split
    · exact failTaskFromPoll_regular env rfl _
    · exact recordPollFailure_regular env hopen rfl rfl _ _
    · exact recordPollFailure_regular env hopen rfl rfl _ _
    all_goals
      split
      · apply recordPollFailure_regular env hopen <;> rfl
      split
      · apply recordPollFailure_regular env hopen <;> rfl
      · apply storePolled_regular hopen
        rfl

theorem updateBatchTask_regular (statusCode : ℕ) (item : BatchItem) :
    (updateBatchTask env snap statusCode item).Regular snap := by
  unfold updateBatchTask
  split
  · exact recordPollFailure_regular _ hopen rfl rfl _ _
  rename_i status _
  refine ⟨fun _ h => (some.inj h).symm, fun h => ⟨?_, rfl⟩, fun h => ⟨rfl, .inl ⟨?_, rfl⟩⟩⟩
  · apply if_neg
    intro hdone
    simp [hdone.1] at h
  · apply if_pos
    refine ⟨h, fun heq => ?_⟩
    rw [← heq, hopen] at h
    cases h

theorem BatchWork.plan_regular (work : BatchWork) : (work.plan env snap).Regular snap := by
  cases work with
  | record failure statusCode => exact recordPollFailure_regular env hopen rfl rfl _ _
  | fail statusCode => exact failTaskFromPoll_regular env rfl _
  | item statusCode entry => exact updateBatchTask_regular env hopen _ _

end

theorem sweepTimedOutTask_regular (now minutes : ℤ) :
    (sweepTimedOutTask now minutes snap).Regular snap := by
  unfold sweepTimedOutTask
  split
  next hlegacy =>
    exact ⟨fun _ h => (some.inj h).symm, nofun, fun _ => ⟨rfl, .inr ⟨rfl, rfl, hlegacy⟩⟩⟩
  · exact ⟨fun _ h => (some.inj h).symm, nofun, fun _ => ⟨rfl, .inl ⟨rfl, rfl⟩⟩⟩

end Regular

/-! ## What a poll can do -/

/-- How the copy and the row of a won write end: still unfinished, terminal and about to be
finalized, or a legacy task that is not. -/
inductive TaskPlan.Ends (snap : PolledTask) (plan : TaskPlan) : Option Stage → ℕ → Prop
  | undone (h : plan.task.status.isDone = false) (hquota : plan.task.quota = snap.quota) :
      plan.Ends snap none 0
  | finalized (h : plan.task.status.isDone = true) (hquota : plan.task.quota = snap.quota) :
      plan.Ends snap (some (.settle plan.usage)) 1
  | legacy (h : plan.task.status = .failure) (hlegacy : plan.task.isLegacy = true) :
      plan.Ends snap none 0

/-- The rows and the finalizations of a state after a won write. -/
def State.stored (s : State) (addr : Addr) (id : ℕ) (task : PolledTask) (stage : Option Stage)
    (n : ℕ) : State :=
  { s with
    rows := Function.update s.rows id task
    mem := Function.update s.mem addr (some ⟨id, task, stage⟩)
    finals := Function.update s.finals id (s.finals id + n) }

def State.setCopy (s : State) (addr : Addr) (copy : TaskCopy) : State :=
  { s with mem := Function.update s.mem addr (some copy) }

variable {s : State} {addr : Addr} {copy : TaskCopy} {row : PolledTask}

/-- A write that is lost changes the copy only. -/
theorem perform_lost {plan : TaskPlan} {db : DbAnswer}
    (hwritten : State.written (s.rows copy.id) plan db = (s.rows copy.id, false))
    (hfinalize : plan.finalize ≠ .always) :
    s.perform addr copy plan db = s.setCopy addr ⟨copy.id, plan.task, none⟩ := by
  have hfinalizes : plan.finalizes false = false := by
    unfold TaskPlan.finalizes
    cases hf : plan.finalize with
    | never => rfl
    | ifWon => rfl
    | always => exact absurd hf hfinalize
  simp [State.perform, hwritten, hfinalizes, State.setCopy]

/-- A poll of an unfinished copy either changes the copy only, or the row was in the status
of the copy and now is the changed copy. -/
theorem perform_cases {plan : TaskPlan} (hplan : plan.Regular copy.task)
    (hopen : copy.task.status.isDone = false) (db : DbAnswer) :
    s.perform addr copy plan db = s.setCopy addr ⟨copy.id, plan.task, none⟩ ∨
    ((s.rows copy.id).status = copy.task.status ∧ ∃ stage n, plan.Ends copy.task stage n ∧
        s.perform addr copy plan db = s.stored addr copy.id plan.task stage n) := by
  have hfinalize : plan.finalize ≠ .always := by
    cases hd : plan.task.status.isDone with
    | false => simp [(hplan.undone hd).1]
    | true => rcases (hplan.done hd).2 with h | h <;> simp [h.1]
  cases hguard : plan.guard with
  | none => exact .inl (perform_lost (by simp [State.written, hguard]) hfinalize)
  | some status =>
    obtain rfl := hplan.guard status hguard
    cases db with
    | error =>
      exact .inl (perform_lost (by simp [State.written, hguard, State.updateWithStatus]) hfinalize)
    | ok reportsMatched =>
      by_cases hmatch : (s.rows copy.id).status = copy.task.status
      · refine .inr ⟨hmatch, ?_⟩
        have hwritten : State.written (s.rows copy.id) plan (.ok reportsMatched) =
            (plan.task, plan.task ≠ s.rows copy.id || reportsMatched) := by
          simp [State.written, hguard, State.updateWithStatus, hmatch]
        cases hd : plan.task.status.isDone with
        | false =>
          obtain ⟨hnever, hquota⟩ := hplan.undone hd
          refine ⟨none, 0, .undone hd hquota, ?_⟩
          simp [State.perform, hwritten, stored, TaskPlan.finalizes, hnever]
        | true =>
          -- the row was unfinished, so the write changes it and is reported as won
          have hne : plan.task ≠ s.rows copy.id := by
            rintro heq
            rw [heq, hmatch, hopen] at hd
            cases hd
          rcases (hplan.done hd).2 with ⟨hwon, hquota⟩ | ⟨hnever, hfailure, hlegacy⟩
          · refine ⟨_, 1, .finalized hd hquota, ?_⟩
            simp [State.perform, hwritten, stored, TaskPlan.finalizes, hwon, hne]
          · refine ⟨none, 0, .legacy hfailure hlegacy, ?_⟩
            simp [State.perform, hwritten, stored, TaskPlan.finalizes, hnever]
      · refine .inl (perform_lost ?_ hfinalize)
        simp [State.written, hguard, State.updateWithStatus, hmatch]

/-! ## The invariant -/

/-- An unfinished row still has its charge and has not been settled; a finished one is
finalized and adjusted at most once. -/
structure RowOk (row : PolledTask) (charge : ℤ) (moves : List ℤ) (finals : ℕ) : Prop where
  undone : row.status.isDone = false → row.quota = charge ∧ moves = [] ∧ finals = 0
  finals_le : finals ≤ 1
  moves_le : moves.length ≤ 1

/-- An unfinished copy has the charge of its row. A copy that is being finalized is terminal,
as its row is, and is the only one that has adjusted the funding or will. -/
structure CopyOk (row : PolledTask) (charge : ℤ) (moves : List ℤ) (copy : TaskCopy) : Prop where
  undone : copy.task.status.isDone = false → copy.task.quota = charge ∧ copy.stage = none
  settle : ∀ usage, copy.stage = some (.settle usage) →
    row.status.isDone = true ∧ copy.task.status.isDone = true ∧ copy.task.quota = charge ∧
      moves = []
  write : copy.stage = some .write →
    row.status.isDone = true ∧ copy.task.status.isDone = true ∧
      moves = [copy.task.quota - charge]

/-- The upstream ids a pass has still to deal with. -/
def Pass.live (p : Pass) : List String :=
  p.channels.flatMap Prod.snd ++ p.todo ++ p.queue.map Prod.fst

/-- The task objects that are still to be looked at. -/
def State.IsLive (s : State) : Addr → Prop
  | .poll pass upstreamId => upstreamId ∈ (s.passes pass).live
  | .sweep sweep id => id ∈ s.sweeps sweep

/-- The addresses handed out so far. -/
def State.Allocated (s : State) : Addr → Prop
  | .poll pass _ => pass < s.passCount
  | .sweep sweep _ => sweep < s.sweepCount

/-- The invariant of all passes and sweeps. -/
structure Coherent (s : State) : Prop where
  allocated : ∀ addr copy, s.mem addr = some copy → s.Allocated addr
  rows : ∀ id < s.count, RowOk (s.rows id) (s.charge id) (s.moves id) (s.finals id)
  ids : ∀ addr copy, s.mem addr = some copy → copy.id < s.count
  copies : ∀ addr copy, s.mem addr = some copy →
    CopyOk (s.rows copy.id) (s.charge copy.id) (s.moves copy.id) copy
  unique : ∀ addr addr' copy copy', s.mem addr = some copy → s.mem addr' = some copy' →
    copy.id = copy'.id → copy.stage.isSome → copy'.stage.isSome → addr = addr'
  live : ∀ addr copy, s.IsLive addr → s.mem addr = some copy →
    copy.task.status.isDone = false
  passNodup : ∀ pass, (s.passes pass).live.Nodup
  sweepNodup : ∀ sweep, (s.sweeps sweep).Nodup

theorem Coherent.init : Coherent State.init where
  allocated _ _ h := nomatch h
  rows _ h := absurd h (Nat.not_lt_zero _)
  ids _ _ h := nomatch h
  copies _ _ h := nomatch h
  unique _ _ _ _ h := nomatch h
  live _ _ _ h := nomatch h
  passNodup _ := nodup_nil
  sweepNodup _ := nodup_nil

variable {charge : ℤ} {moves : List ℤ}

/-- The row of a copy that is being finalized is terminal. -/
theorem CopyOk.row_done (h : CopyOk row charge moves copy)
    (hstage : copy.stage.isSome) : row.status.isDone = true := by
  cases hs : copy.stage with
  | none => simp [hs] at hstage
  | some stage =>
    cases stage with
    | settle usage => exact (h.settle usage hs).1
    | write => exact (h.write hs).1

/-- A row that stays terminal, or does not change, keeps its copies in order. -/
theorem CopyOk.of_row {row' : PolledTask} (h : CopyOk row charge moves copy)
    (hrow : row.status.isDone = true → row'.status.isDone = true) :
    CopyOk row' charge moves copy where
  undone := h.undone
  settle usage hs :=
    let ⟨hdone, hrest⟩ := h.settle usage hs
    ⟨hrow hdone, hrest⟩
  write hs :=
    let ⟨hdone, hrest⟩ := h.write hs
    ⟨hrow hdone, hrest⟩

/-- A copy without a finalization is in order if it has its charge while unfinished. -/
theorem CopyOk.idle {id : ℕ} {task : PolledTask}
    (h : task.status.isDone = false → task.quota = charge) :
    CopyOk row charge moves ⟨id, task, none⟩ where
  undone hd := ⟨h hd, rfl⟩
  settle _ hs := nomatch hs
  write hs := nomatch hs

theorem CopyOk.of_idle {row' : PolledTask} {moves' : List ℤ}
    (h : CopyOk row charge moves copy) (hidle : copy.stage = none) :
    CopyOk row' charge moves' copy where
  undone := h.undone
  settle usage hs := by simp [hidle] at hs
  write hs := by simp [hidle] at hs

namespace Coherent

variable {s : State}

/-- What is live can shrink. -/
theorem setPass (h : Coherent s) (pass : ℕ) {p : Pass} (hnodup : p.live.Nodup)
    (hsub : ∀ u ∈ p.live, u ∈ (s.passes pass).live) : Coherent (s.setPass pass p) := by
  refine { h with live := ?_, passNodup := ?_ }
  · intro addr copy hlive hmem
    refine h.live addr copy ?_ hmem
    cases addr with
    | sweep sweep id => exact hlive
    | poll pass' upstreamId =>
      by_cases heq : pass' = pass
      · subst heq
        exact hsub _ (by simpa [State.IsLive, State.setPass] using hlive)
      · simpa [State.IsLive, State.setPass, heq] using hlive
  · exact (forall_update_iff s.passes fun _ p => p.live.Nodup).2
      ⟨hnodup, fun pass' _ => h.passNodup pass'⟩

theorem insert (h : Coherent s) (task : PolledTask) : Coherent (s.insert task) := by
  have hold : ∀ {id}, id < s.count → id ≠ s.count := fun hid => hid.ne
  refine { h with rows := ?_, ids := ?_, copies := ?_ }
  · intro id hid
    rcases Nat.lt_succ_iff_lt_or_eq.1 hid with hlt | rfl
    · simpa [State.insert, hold hlt] using h.rows id hlt
    · simp only [State.insert, update_self]
      exact ⟨fun _ => ⟨rfl, rfl, rfl⟩, Nat.zero_le 1, Nat.zero_le 1⟩
  · intro addr copy hmem
    exact (h.ids addr copy hmem).trans (Nat.lt_succ_self _)
  · intro addr copy hmem
    simpa [State.insert, hold (h.ids addr copy hmem)] using h.copies addr copy hmem

/-- A write without a guard makes rows terminal and leaves the rest. -/
theorem bulk (h : Coherent s) (ids : List ℕ) (failReason : Option String) :
    Coherent (s.taskBulkUpdateByID ids failReason) := by
  refine { h with rows := ?_, copies := ?_ }
  · intro id hid
    by_cases hmem : id ∈ ids
    · have hrow := h.rows id hid
      simp only [State.taskBulkUpdateByID, if_pos hmem]
      exact ⟨nofun, hrow.finals_le, hrow.moves_le⟩
    · simpa only [State.taskBulkUpdateByID, if_neg hmem] using h.rows id hid
  · intro addr copy hcopy
    refine (h.copies addr copy hcopy).of_row fun hdone => ?_
    by_cases hmem : copy.id ∈ ids
    · simp [State.taskBulkUpdateByID, hmem]
    · simpa [State.taskBulkUpdateByID, hmem] using hdone

variable {addr : Addr} {copy : TaskCopy}

section

variable (h : Coherent s) (hmem : s.mem addr = some copy)

include h hmem

/-- A step that changes one copy, which is not live, and its row: what is left to show is that both
are in order, and that the other copies of the row are and do not compete. -/
theorem of_copy {rows : ℕ → PolledTask} {moves : ℕ → List ℤ} {finals : ℕ → ℕ} {task : PolledTask}
    {stage : Option Stage} (hdead : ¬ s.IsLive addr)
    (hsame : ∀ id, id ≠ copy.id →
      rows id = s.rows id ∧ moves id = s.moves id ∧ finals id = s.finals id)
    (hrow : RowOk (rows copy.id) (s.charge copy.id) (moves copy.id) (finals copy.id))
    (hnew : CopyOk (rows copy.id) (s.charge copy.id) (moves copy.id) ⟨copy.id, task, stage⟩)
    (hothers : ∀ a c, a ≠ addr → s.mem a = some c → c.id = copy.id →
      CopyOk (rows c.id) (s.charge c.id) (moves c.id) c ∧ (stage.isSome → c.stage = none)) :
    Coherent { s with
      rows := rows, moves := moves, finals := finals
      mem := update s.mem addr (some ⟨copy.id, task, stage⟩) } := by
  refine { h with allocated := ?_, rows := ?_, ids := ?_, copies := ?_, unique := ?_, live := ?_ }
  · intro a c ha
    rcases update_eq_some ha with ⟨rfl, -⟩ | ⟨-, hold⟩
    · exact h.allocated a copy hmem
    · exact h.allocated a c hold
  · intro id hid
    by_cases heq : id = copy.id
    · subst heq
      exact hrow
    · obtain ⟨hr, hm, hf⟩ := hsame id heq
      simp only [hr, hm, hf]
      exact h.rows id hid
  · intro a c ha
    rcases update_eq_some ha with ⟨-, rfl⟩ | ⟨-, hold⟩
    · exact h.ids addr copy hmem
    · exact h.ids a c hold
  · intro a c ha
    rcases update_eq_some ha with ⟨-, rfl⟩ | ⟨hne, hold⟩
    · exact hnew
    by_cases heq : c.id = copy.id
    · exact (hothers a c hne hold heq).1
    · obtain ⟨hr, hm, -⟩ := hsame c.id heq
      simp only [hr, hm]
      exact h.copies a c hold
  · intro a b ca cb ha hb heq hsa hsb
    rcases update_eq_some ha with ⟨rfl, rfl⟩ | ⟨hna, hma⟩ <;>
      rcases update_eq_some hb with ⟨rfl, rfl⟩ | ⟨hnb, hmb⟩
    · rfl
    · simp [(hothers b cb hnb hmb heq.symm).2 hsa] at hsb
    · simp [(hothers a ca hna hma heq).2 hsb] at hsa
    · exact h.unique a b ca cb hma hmb heq hsa hsb
  · intro a c ha hcopy
    rcases update_eq_some hcopy with ⟨rfl, -⟩ | ⟨-, hcopy⟩
    · exact absurd ha hdead
    · exact h.live a c ha hcopy

/-- A copy that is not being finalized any more. -/
theorem setCopy {task : PolledTask} (hdead : ¬ s.IsLive addr)
    (hquota : task.status.isDone = false → task.quota = s.charge copy.id) :
    Coherent (s.setCopy addr ⟨copy.id, task, none⟩) :=
  h.of_copy hmem hdead (fun _ _ => ⟨rfl, rfl, rfl⟩) (h.rows _ (h.ids addr copy hmem)) (.idle hquota)
    fun a c _ hc _ => ⟨h.copies a c hc, fun hsome => absurd hsome Bool.false_ne_true⟩

/-- A poll of an unfinished copy whose turn has come. -/
theorem perform {plan : TaskPlan} (hopen : copy.task.status.isDone = false)
    (hdead : ¬ s.IsLive addr) (hplan : plan.Regular copy.task) (db : DbAnswer) :
    Coherent (s.perform addr copy plan db) := by
  have hquota := ((h.copies addr copy hmem).undone hopen).1
  rcases perform_cases hplan hopen db with heq | ⟨hmatch, stage, n, hends, heq⟩ <;> rw [heq]
  · exact h.setCopy hmem hdead fun hd => (hplan.undone hd).2.trans hquota
  -- the row was unfinished: nothing has been settled and nobody is finalizing it
  have hrowOpen : (s.rows copy.id).status.isDone = false := by rw [hmatch, hopen]
  obtain ⟨-, hmoves, hfinals⟩ := (h.rows copy.id (h.ids addr copy hmem)).undone hrowOpen
  have hfree : ∀ a c, s.mem a = some c → c.id = copy.id → c.stage = none := by
    intro a c hc hcid
    by_contra hstage
    have hdone := (h.copies a c hc).row_done (isSome_iff_ne_none.2 hstage)
    rw [hcid, hrowOpen] at hdone
    cases hdone
  refine h.of_copy hmem hdead (fun id hne => by simp [hne]) ?_ ?_ fun a c _ hc hcid =>
    ⟨(h.copies a c hc).of_idle (hfree a c hc hcid), fun _ => hfree a c hc hcid⟩
  · rw [update_self, update_self, hmoves, hfinals, Nat.zero_add]
    cases hends with
    | undone hd hq => exact ⟨fun _ => ⟨hq.trans hquota, rfl, rfl⟩, Nat.zero_le 1, Nat.zero_le 1⟩
    | finalized hd hq => exact ⟨fun hnot => by simp [hd] at hnot, le_rfl, Nat.zero_le 1⟩
    | legacy hf _ => exact ⟨fun hnot => by simp [hf] at hnot, Nat.zero_le 1, Nat.zero_le 1⟩
  · rw [update_self]
    cases hends with
    | undone hd hq => exact .idle fun _ => hq.trans hquota
    | legacy hf _ => exact .idle fun hnot => by simp [hf] at hnot
    | finalized hd hq =>
      exact ⟨fun hnot => by simp [hd] at hnot, fun _ _ => ⟨hd, hd, hq.trans hquota, hmoves⟩, nofun⟩

/-- Only one copy of a row is being finalized. -/
theorem others_idle {row : PolledTask} {p : Prop} (hstage : copy.stage.isSome)
    {a : Addr} {c : TaskCopy} (hne : a ≠ addr) (hc : s.mem a = some c) (hid : c.id = copy.id) :
    CopyOk row (s.charge c.id) moves c ∧ (p → c.stage = none) := by
  have hidle : c.stage = none := by
    by_contra hsome
    exact hne (h.unique a addr c copy hc hmem hid (isSome_iff_ne_none.2 hsome) hstage)
  exact ⟨(h.copies a c hc).of_idle hidle, fun _ => hidle⟩

/-- A copy that is being finalized is not polled again. -/
theorem not_live (hdone : copy.task.status.isDone = true) : ¬ s.IsLive addr := by
  intro hlive
  rw [h.live addr copy hlive hmem] at hdone
  cases hdone

theorem settle {usage : CompletionUsage} (hstage : copy.stage = some (.settle usage))
    (funded : Bool) : Coherent (s.settle addr copy usage funded) := by
  obtain ⟨hrowDone, hdone, hquota, hmoves⟩ := (h.copies addr copy hmem).settle usage hstage
  have hdead := h.not_live hmem hdone
  unfold State.settle
  split
  · refine h.of_copy hmem hdead (fun id hne => by simp [hne]) ?_ ?_
      fun a c => h.others_idle hmem (by simp [hstage])
    · rw [update_self, hmoves]
      exact ⟨fun hnot => by simp [hrowDone] at hnot, (h.rows _ (h.ids addr copy hmem)).finals_le,
        le_rfl⟩
    · rw [update_self, hmoves, hquota]
      exact ⟨fun hnot => by simp [hdone] at hnot, nofun, fun _ => ⟨hrowDone, hdone, rfl⟩⟩
  · exact h.setCopy hmem hdead fun hnot => by simp [hdone] at hnot

theorem writeQuota (hstage : copy.stage = some .write) (stored : Bool) :
    Coherent (s.writeQuota addr copy stored) := by
  obtain ⟨hrowDone, hdone, -⟩ := (h.copies addr copy hmem).write hstage
  have hrow := h.rows _ (h.ids addr copy hmem)
  refine h.of_copy hmem (h.not_live hmem hdone) (fun id hne => ?_)
    ⟨fun hnot => ?_, hrow.finals_le, hrow.moves_le⟩ (.idle fun hnot => by simp [hdone] at hnot)
    fun a c => h.others_idle hmem (by simp [hstage])
  · cases stored <;> simp [hne]
  · cases stored <;> simp [hrowDone] at hnot

end

end Coherent

/-! ## Loading -/

/-- The part of the state that settlement is about: the rows, what was moved for them, and
the copies that are being finalized. -/
structure Core where
  count : ℕ
  rows : ℕ → PolledTask
  charge : ℕ → ℤ
  moves : ℕ → List ℤ
  pending : Addr → Option TaskCopy

def State.pending (s : State) (addr : Addr) : Option TaskCopy :=
  (s.mem addr).filter (·.stage.isSome)

def State.core (s : State) : Core :=
  ⟨s.count, s.rows, s.charge, s.moves, s.pending⟩

theorem pending_eq_none (h : s.mem addr = some copy) (hstage : copy.stage = none) :
    s.pending addr = none := by
  simp [State.pending, h, hstage, Option.filter]

section Load

variable {s : State}

/-- The rows a query returns: stored and unfinished. -/
def State.Unfinished (s : State) (ids : List ℕ) : Prop :=
  ∀ id ∈ ids, id < s.count ∧ (s.rows id).status.isDone = false

theorem PolledTask.not_done_of_unfinished {task : PolledTask} (h : task.unfinished = true) :
    task.status.isDone = false := by
  simp only [PolledTask.unfinished, Bool.and_eq_true, Bool.not_eq_true'] at h
  exact h.2

theorem unfinishedIds_unfinished (platform : String) (limit : ℕ) :
    s.Unfinished (s.unfinishedIds platform limit) := by
  intro id hid
  have hmem := mem_of_mem_take (mem_of_mem_filter hid)
  rw [mem_filter, mem_range] at hmem
  exact ⟨hmem.1, PolledTask.not_done_of_unfinished hmem.2⟩

theorem timedOutIds_unfinished (cutoff : ℤ) (limit : ℕ) :
    s.Unfinished (s.timedOutIds cutoff limit) := by
  intro id hid
  have hmem := (perm_insertionSort _ _).mem_iff.1 (mem_of_mem_take hid)
  rw [mem_filter, mem_range, Bool.and_eq_true] at hmem
  exact ⟨hmem.1, PolledTask.not_done_of_unfinished hmem.2.1⟩

theorem timedOutIds_nodup (cutoff : ℤ) (limit : ℕ) : (s.timedOutIds cutoff limit).Nodup := by
  apply List.Nodup.sublist (take_sublist _ _)
  rw [(perm_insertionSort _ _).nodup_iff]
  exact nodup_range.filter _

variable {ids : List ℕ}

theorem taskM_mem {u : String} {copy : TaskCopy} (h : s.taskM ids u = some copy) :
    copy.id ∈ ids ∧ (s.rows copy.id).upstreamId = u ∧ copy = ⟨copy.id, s.rows copy.id, none⟩ := by
  unfold State.taskM at h
  split at h
  · cases h
  · obtain ⟨id, hid, rfl⟩ := map_eq_some_iff.1 h
    obtain ⟨hmem, hu⟩ := mem_filter.1 (mem_of_getLast? hid)
    exact ⟨hmem, by simpa using hu, rfl⟩

theorem taskChannelM_nodup
    (h : ((ids.filter fun id => (s.rows id).upstreamId != "").map fun id =>
      (s.rows id).upstreamId).Nodup) : ((s.taskChannelM ids).flatMap Prod.snd).Nodup := by
  unfold State.taskChannelM
  generalize ids.filter (fun id => (s.rows id).upstreamId != "") = named at h ⊢
  have hinj := inj_on_of_nodup_map h
  rw [flatMap_map, nodup_flatMap]
  constructor
  · intro channel _
    exact h.sublist ((filter_sublist).map _)
  refine (nodup_dedup _).imp fun {c c'} hne => ?_
  intro upstreamId hc hc'
  obtain ⟨id, hid, rfl⟩ := List.mem_map.1 hc
  obtain ⟨id', hid', heq⟩ := List.mem_map.1 hc'
  rw [mem_filter, beq_iff_eq] at hid hid'
  obtain rfl := hinj hid'.1 hid.1 heq
  exact hne (hid.2.symm.trans hid'.2)

/-- New copies of unfinished rows, at addresses that were not in use, keep the invariant and the
core. -/
theorem Coherent.of_loaded {s' : State} (h : Coherent s) (hcount : s'.count = s.count)
    (hrows : s'.rows = s.rows) (hcharge : s'.charge = s.charge) (hmoves : s'.moves = s.moves)
    (hfinals : s'.finals = s.finals)
    (hold : ∀ a, s.Allocated a → s'.mem a = s.mem a ∧ s'.Allocated a ∧ (s'.IsLive a → s.IsLive a))
    (hnew : ∀ a copy, ¬ s.Allocated a → s'.mem a = some copy → s'.Allocated a ∧
      ∃ id, (id < s.count ∧ (s.rows id).status.isDone = false) ∧ copy = ⟨id, s.rows id, none⟩)
    (hpass : ∀ pass, (s'.passes pass).live.Nodup) (hsweep : ∀ sweep, (s'.sweeps sweep).Nodup) :
    Coherent s' ∧ s'.core = s.core := by
  have hcopy : ∀ {a copy}, s'.mem a = some copy → s'.Allocated a ∧
      (s.mem a = some copy ∧ (s'.IsLive a → s.IsLive a) ∨
        ∃ id, (id < s.count ∧ (s.rows id).status.isDone = false) ∧
          copy = ⟨id, s.rows id, none⟩) := by
    intro a copy ha
    by_cases hused : s.Allocated a
    · obtain ⟨hmem, haddr, hlive⟩ := hold a hused
      exact ⟨haddr, .inl ⟨hmem ▸ ha, hlive⟩⟩
    · obtain ⟨haddr, hid⟩ := hnew a copy hused ha
      exact ⟨haddr, .inr hid⟩
  have hpending : s'.pending = s.pending := by
    funext a
    by_cases hused : s.Allocated a
    · rw [State.pending, (hold a hused).1, State.pending]
    have hnone : s.mem a = none :=
      eq_none_iff_forall_ne_some.2 fun copy hc => hused (h.allocated a copy hc)
    cases hc : s'.mem a with
    | none => rw [State.pending, State.pending, hc, hnone]
    | some copy =>
      obtain ⟨-, id, -, rfl⟩ := hnew a copy hused hc
      rw [pending_eq_none hc rfl, State.pending, hnone]
      rfl
  refine ⟨⟨fun a copy ha => (hcopy ha).1, ?_, ?_, ?_, ?_, ?_, hpass, hsweep⟩, ?_⟩
  · rw [hcount, hrows, hcharge, hmoves, hfinals]
    exact h.rows
  · intro a copy ha
    rw [hcount]
    rcases (hcopy ha).2 with ⟨hmem, -⟩ | ⟨id, hid, rfl⟩
    · exact h.ids a copy hmem
    · exact hid.1
  · intro a copy ha
    rw [hrows, hcharge, hmoves]
    rcases (hcopy ha).2 with ⟨hmem, -⟩ | ⟨id, hid, rfl⟩
    · exact h.copies a copy hmem
    · exact .idle fun _ => ((h.rows id hid.1).undone hid.2).1
  · intro a b ca cb ha hb hid hsa hsb
    rcases (hcopy ha).2 with ⟨hma, -⟩ | ⟨_, -, rfl⟩
    · rcases (hcopy hb).2 with ⟨hmb, -⟩ | ⟨_, -, rfl⟩
      · exact h.unique a b ca cb hma hmb hid hsa hsb
      · cases hsb
    · cases hsa
  · intro a copy hlive ha
    rcases (hcopy ha).2 with ⟨hmem, hl⟩ | ⟨id, hid, rfl⟩
    · exact h.live a copy (hl hlive) hmem
    · exact hid.2
  · rw [core, hcount, hrows, hcharge, hmoves, hpending]
    rfl

theorem Coherent.load (h : Coherent s) (hids : s.Unfinished ids)
    (hdistinct : ((ids.filter fun id => (s.rows id).upstreamId != "").map fun id =>
      (s.rows id).upstreamId).Nodup) : Coherent (s.load ids) ∧ (s.load ids).core = s.core := by
  refine h.of_loaded rfl rfl rfl rfl rfl ?_ ?_ ?_ h.sweepNodup
  · intro a hused
    cases a with
    | sweep sweep row => exact ⟨rfl, hused, id⟩
    | poll pass upstreamId =>
      have hne : pass ≠ s.passCount := Nat.ne_of_lt hused
      exact ⟨if_neg hne, Nat.lt_succ_of_lt hused, by simp [State.load, State.IsLive, hne]⟩
  · intro a copy hfree ha
    cases a with
    | sweep sweep row => exact absurd (h.allocated _ copy ha) hfree
    | poll pass upstreamId =>
      unfold State.load at ha
      dsimp only at ha
      split at ha
      next hpass =>
        obtain ⟨hid, -, hcopy⟩ := taskM_mem ha
        exact ⟨hpass.trans_lt (Nat.lt_succ_self _), copy.id, hids _ hid, hcopy⟩
      · exact absurd (h.allocated _ copy ha) hfree
  · refine (forall_update_iff s.passes fun _ p => p.live.Nodup).2
      ⟨?_, fun pass _ => h.passNodup pass⟩
    simpa [Pass.live] using taskChannelM_nodup hdistinct

theorem Coherent.sweepLoad (h : Coherent s) (hids : s.Unfinished ids) (hnodup : ids.Nodup) :
    Coherent (s.sweepLoad ids) ∧ (s.sweepLoad ids).core = s.core := by
  refine h.of_loaded rfl rfl rfl rfl rfl ?_ ?_ h.passNodup ?_
  · intro a hused
    cases a with
    | poll pass upstreamId => exact ⟨rfl, hused, id⟩
    | sweep sweep row =>
      have hne : sweep ≠ s.sweepCount := Nat.ne_of_lt hused
      exact ⟨if_neg hne, Nat.lt_succ_of_lt hused, by simp [State.sweepLoad, State.IsLive, hne]⟩
  · intro a copy hfree ha
    cases a with
    | poll pass upstreamId => exact absurd (h.allocated _ copy ha) hfree
    | sweep sweep row =>
      unfold State.sweepLoad at ha
      dsimp only at ha
      split at ha
      next hsweep =>
        split at ha
        next hid =>
          cases ha
          exact ⟨hsweep.trans_lt (Nat.lt_succ_self _), row, hids row hid, rfl⟩
        · cases ha
      · exact absurd (h.allocated _ copy ha) hfree
  · exact (forall_update_iff s.sweeps fun _ ids => ids.Nodup).2
      ⟨hnodup, fun sweep _ => h.sweepNodup sweep⟩

end Load

/-! ## The work lists of a pass -/

section Work

variable {p : Pass}

theorem Pass.count_live (p : Pass) (u : String) :
    p.live.count u = (p.channels.flatMap Prod.snd).count u + p.todo.count u +
      (p.queue.map Prod.fst).count u := by
  simp only [Pass.live, count_append]

variable {upstreamIds : List String}

/-- The ids of a channel leave the channels that are still to be begun. -/
theorem Pass.count_dropChannel {channel : ℕ}
    (h : p.channel? channel = some upstreamIds) (u : String) :
    upstreamIds.count u + ((p.dropChannel channel).channels.flatMap Prod.snd).count u ≤
      (p.channels.flatMap Prod.snd).count u := by
  obtain ⟨entry, hfind, rfl⟩ := map_eq_some_iff.1 h
  simp only [dropChannel]
  clear h
  generalize p.channels = channels at hfind ⊢
  induction channels with
  | nil => cases hfind
  | cons head tail ih =>
    by_cases hhead : head.1 = channel
    · obtain rfl : head = entry := by simpa [List.find?, hhead] using hfind
      have hle : ((tail.filter (·.1 != channel)).flatMap Prod.snd).count u ≤
          (tail.flatMap Prod.snd).count u :=
        List.Sublist.count_le u (List.Sublist.flatMap filter_sublist _)
      simp only [filter, hhead, bne_self_eq_false, flatMap_cons, count_append]
      omega
    · have hrest := ih (by rwa [find?_cons_of_neg (by simpa using hhead)] at hfind)
      simp only [filter_cons, bne_iff_ne, ne_eq, hhead, not_false_eq_true, if_true,
        flatMap_cons, count_append]
      omega

/-- A reply is about all tasks that were asked, or about those that it names. -/
theorem BatchReply.work_keys (us : List String) (reply : BatchReply) :
    (reply.work us).map Prod.fst = us ∨ (reply.work us).map Prod.fst = reply.keys := by
  have hus : ∀ w : BatchWork, (us.map (·, w)).map Prod.fst = us := fun w => by
    rw [List.map_map]
    exact List.map_id us
  unfold BatchReply.work
  cases reply with
  | transport code => exact .inl (hus _)
  | response code parsed =>
    dsimp only
    split
    · exact .inl (hus _)
    · exact .inl (hus _)
    · exact .inl (hus _)
    all_goals
      cases parsed with
      | none => exact .inl (hus _)
      | some items => exact .inr (by rw [List.map_map]; rfl)

/-- The tasks a reply leaves to do are among those the pass asked for. -/
theorem BatchReply.count_work {reply : BatchReply}
    (hkeys : reply.keys.Nodup) (hasked : ∀ u ∈ reply.keys, u ∈ upstreamIds) (u : String) :
    ((reply.work upstreamIds).map Prod.fst).count u ≤ upstreamIds.count u := by
  rcases reply.work_keys upstreamIds with hwork | hwork
  · rw [hwork]
  · rw [hwork]
    exact (subperm_of_subset hkeys hasked).count_le u

/-- A pass that lists nothing it did not list before. -/
theorem Coherent.setPass_of_count {s : State} (h : Coherent s) (pass : ℕ) {p : Pass}
    (hcount : ∀ u, p.live.count u ≤ (s.passes pass).live.count u) :
    Coherent (s.setPass pass p) := by
  apply h.setPass pass
  · rw [nodup_iff_count_le_one]
    intro u
    exact (hcount u).trans (nodup_iff_count_le_one.1 (h.passNodup pass) u)
  · intro u hu
    have hpos := (count_pos_iff.2 hu).trans_le (hcount u)
    exact count_pos_iff.1 hpos

end Work

/-! ## What a step changes -/

/-- How a write ends that moves a row out of an unfinished status: see
`TaskPlan.Ends`. -/
inductive Stores (charge : ℤ) (id : ℕ) (task : PolledTask) : Option TaskCopy → Prop
  | undone (h : task.status.isDone = false) (hquota : task.quota = charge) :
      Stores charge id task none
  | finalized (usage : CompletionUsage) (h : task.status.isDone = true)
      (hquota : task.quota = charge) :
      Stores charge id task (some ⟨id, task, some (.settle usage)⟩)
  | legacy (h : task.status = .failure) (hlegacy : task.isLegacy = true) :
      Stores charge id task none

/-- All that a step `a` can change of the core, where `ids` are the rows it writes without a
guard. -/
inductive Change (a : Action) (ids : List ℕ) (c : Core) : Core → Prop
  | quiet : Change a ids c c
  | insert (task : PolledTask) (h : Insertable task) :
      Change a ids c { c with
        count := c.count + 1
        rows := Function.update c.rows c.count task
        charge := Function.update c.charge c.count task.quota
        moves := Function.update c.moves c.count [] }
  | bulk (rows : ℕ → PolledTask)
      (hout : ∀ id, id ∉ ids → rows id = c.rows id)
      (hin : ∀ id ∈ ids, (rows id).status = .failure ∧ (rows id).quota = (c.rows id).quota ∧
        (rows id).isLegacy = (c.rows id).isLegacy) :
      Change a ids c { c with rows := rows }
  | store (addr : Addr) (id : ℕ) (task : PolledTask) (pending : Option TaskCopy)
      (hid : id < c.count) (hopen : (c.rows id).status.isDone = false)
      (hidle : c.pending addr = none) (hstores : Stores (c.charge id) id task pending) :
      Change a ids c { c with
        rows := Function.update c.rows id task
        pending := Function.update c.pending addr pending }
  | settle (addr : Addr) (copy : TaskCopy) (usage : CompletionUsage) (quota : ℤ)
      (hpending : c.pending addr = some copy) (hstage : copy.stage = some (.settle usage))
      (haction : a = .settle addr true) (hquota : finalQuota copy.task usage = some quota) :
      Change a ids c { c with
        moves := Function.update c.moves copy.id
          (c.moves copy.id ++ [quota - copy.task.quota])
        pending := Function.update c.pending addr
          (some ⟨copy.id, { copy.task with quota := quota }, some .write⟩) }
  | close (addr : Addr) (copy : TaskCopy) (usage : CompletionUsage) (funded : Bool)
      (hpending : c.pending addr = some copy) (hstage : copy.stage = some (.settle usage))
      (haction : a = .settle addr funded)
      (hkeep : finalQuota copy.task usage = none ∨ funded = false) :
      Change a ids c { c with pending := Function.update c.pending addr none }
  | write (addr : Addr) (copy : TaskCopy) (stored : Bool)
      (hpending : c.pending addr = some copy) (hstage : copy.stage = some .write) :
      Change a ids c { c with
        rows :=
          if stored then
            Function.update c.rows copy.id { c.rows copy.id with quota := copy.task.quota }
          else c.rows
        pending := Function.update c.pending addr none }

/-- The finalizations after one task object has changed. -/
theorem pending_of_update (s' : State) (addr : Addr) (copy : TaskCopy)
    (h : s'.mem = update s.mem addr (some copy)) :
    s'.pending =
      update s.pending addr (if copy.stage.isSome then some copy else none) := by
  funext a
  by_cases heq : a = addr
  · subst heq
    simp [State.pending, h, Option.filter]
  · simp [State.pending, h, heq]

theorem pending_eq_some (h : s.mem addr = some copy) (hstage : copy.stage.isSome) :
    s.pending addr = some copy := by
  simp [State.pending, h, hstage, Option.filter]

theorem pending_iff :
    s.pending addr = some copy ↔ s.mem addr = some copy ∧ copy.stage.isSome = true :=
  filter_eq_some_iff

section Changes

variable {s : State} {addr : Addr} {copy : TaskCopy} {a : Action} {ids : List ℕ}

/-- A task object that is not being finalized, before and after, is no part of the core. -/
theorem core_setCopy (hmem : s.mem addr = some copy) (hstage : copy.stage = none) (id : ℕ)
    (task : PolledTask) : (s.setCopy addr ⟨id, task, none⟩).core = s.core := by
  have hpending : (s.setCopy addr ⟨id, task, none⟩).pending = s.pending := by
    rw [pending_of_update (s := s) _ addr ⟨id, task, none⟩ rfl]
    simp [← pending_eq_none hmem hstage]
  simp only [core, hpending]
  rfl

theorem perform_change (h : Coherent s) {plan : TaskPlan} (hmem : s.mem addr = some copy)
    (hopen : copy.task.status.isDone = false) (hplan : plan.Regular copy.task)
    (db : DbAnswer) : Change a ids s.core (s.perform addr copy plan db).core := by
  obtain ⟨hquota, hstage⟩ := (h.copies addr copy hmem).undone hopen
  rcases perform_cases hplan hopen db with heq | ⟨hmatch, stage, n, hends, heq⟩ <;> rw [heq]
  · rw [core_setCopy hmem hstage]
    exact .quiet
  have hrow : (s.rows copy.id).status.isDone = false := by rw [hmatch, hopen]
  have hcore : (s.stored addr copy.id plan.task stage n).core =
      { s.core with
        rows := update s.rows copy.id plan.task
        pending := update s.pending addr
          (if stage.isSome then some ⟨copy.id, plan.task, stage⟩ else none) } := by
    rw [← pending_of_update (s.stored addr copy.id plan.task stage n) addr
      ⟨copy.id, plan.task, stage⟩ rfl]
    rfl
  rw [hcore]
  refine .store addr copy.id plan.task _ (h.ids addr copy hmem) hrow
    (pending_eq_none hmem hstage) ?_
  cases hends with
  | undone hd hq => exact .undone hd (hq.trans hquota)
  | finalized hd hq => exact .finalized plan.usage hd (hq.trans hquota)
  | legacy hf hl => exact .legacy hf hl

variable {usage : CompletionUsage}

/-- Nothing is adjusted: the finalization is over. -/
theorem settle_of_keep {funded : Bool}
    (h : finalQuota copy.task usage = none ∨ funded = false) :
    s.settle addr copy usage funded = s.setCopy addr { copy with stage := none } := by
  rcases h with h | rfl
  · simp [State.settle, h, State.setCopy]
  · cases hquota : finalQuota copy.task usage <;> simp [State.settle, hquota, State.setCopy]

theorem settle_change (hmem : s.mem addr = some copy)
    (hstage : copy.stage = some (.settle usage)) (funded : Bool) :
    Change (.settle addr funded) ids s.core (s.settle addr copy usage funded).core := by
  have hpending := pending_eq_some hmem (by simp [hstage])
  by_cases hkeep : finalQuota copy.task usage = none ∨ funded = false
  · have hp := pending_of_update (s := s) (s.setCopy addr { copy with stage := none }) addr
      { copy with stage := none } rfl
    rw [settle_of_keep hkeep]
    simp only [core, hp]
    exact .close addr copy usage funded hpending hstage rfl hkeep
  · obtain ⟨hsome, hfunded⟩ := not_or.1 hkeep
    obtain ⟨quota, hquota⟩ := ne_none_iff_exists'.1 hsome
    obtain rfl : funded = true := by simpa using hfunded
    have hp := pending_of_update (s := s) (s.settle addr copy usage true) addr
      ⟨copy.id, { copy.task with quota := quota }, some .write⟩ (by simp [State.settle, hquota])
    simp only [core, hp]
    simp only [State.settle, hquota]
    exact .settle addr copy usage quota hpending hstage rfl hquota

theorem writeQuota_change (hmem : s.mem addr = some copy) (hstage : copy.stage = some .write)
    (stored : Bool) : Change a ids s.core (s.writeQuota addr copy stored).core := by
  have hpending := pending_eq_some hmem (by simp [hstage])
  have hcore : (s.writeQuota addr copy stored).core =
      { s.core with
        rows :=
          if stored then
            update s.rows copy.id { s.rows copy.id with quota := copy.task.quota }
          else s.rows
        pending := update s.pending addr none } := by
    have hp := pending_of_update (s := s) (s.writeQuota addr copy stored) addr
      { copy with stage := none } rfl
    simp only [core, hp]
    rfl
  rw [hcore]
  exact .write addr copy stored hpending hstage

theorem bulk_change (failReason : Option String) :
    Change a ids s.core (s.taskBulkUpdateByID ids failReason).core := by
  refine .bulk (s.taskBulkUpdateByID ids failReason).rows ?_ ?_
  · intro id hid
    exact if_neg hid
  · intro id hid
    rw [show (s.taskBulkUpdateByID ids failReason).rows id = _ from if_pos hid]
    exact ⟨rfl, rfl, rfl⟩

end Changes

/-! ## Every step -/

section Step

variable {s s' : State} {a : Action} {ids : List ℕ}

variable {plan : PolledTask → TaskPlan}

section

variable (h : Coherent s)

include h

theorem Coherent.performAt {addr : Addr}
    {db : DbAnswer} (hdead : ¬ s.IsLive addr)
    (hopen : ∀ copy, s.mem addr = some copy → copy.task.status.isDone = false)
    (hplan : ∀ task : PolledTask, task.status.isDone = false → (plan task).Regular task)
    (hstep : s.performAt addr plan db = some s') : Coherent s' ∧ Change a ids s.core s'.core := by
  unfold State.performAt at hstep
  split at hstep
  · cases hstep
    exact ⟨h, .quiet⟩
  rename_i copy hmem
  split at hstep
  · cases hstep
  cases hstep
  have hcopy := hopen copy hmem
  have hregular := hplan _ hcopy
  exact ⟨h.perform hmem hcopy hdead hregular db, perform_change h hmem hcopy hregular db⟩

/-- A pass takes a task from its lists and polls it: the lists name each task once, so the
copy is unfinished and its turn does not come again. -/
theorem Coherent.pollNext {pass : ℕ} {upstreamId : String} {p : Pass}
    {db : DbAnswer}
    (hcount : ∀ u, p.live.count u + [upstreamId].count u ≤ (s.passes pass).live.count u)
    (hplan : ∀ task : PolledTask, task.status.isDone = false → (plan task).Regular task)
    (hstep : (s.setPass pass p).performAt (.poll pass upstreamId) plan db = some s') :
    Coherent s' ∧ Change a ids s.core s'.core := by
  have hself : p.live.count upstreamId + 1 ≤ (s.passes pass).live.count upstreamId := by
    simpa using hcount upstreamId
  have hone := nodup_iff_count_le_one.1 (h.passNodup pass) upstreamId
  have hrest : Coherent (s.setPass pass p) :=
    h.setPass_of_count pass fun u => (Nat.le_add_right _ _).trans (hcount u)
  refine hrest.performAt ?_ ?_ hplan hstep
  · intro hlive
    have hmem : upstreamId ∈ p.live := by simpa [State.IsLive, State.setPass] using hlive
    have hpos := count_pos_iff.2 hmem
    omega
  · intro copy hmem
    refine h.live (.poll pass upstreamId) copy ?_ hmem
    apply count_pos_iff.1
    omega

/-- A sweep goes on to its next task. -/
theorem Coherent.sweepNext {sweep id : ℕ} {ids : List ℕ}
    (hids : s.sweeps sweep = id :: ids) :
    Coherent { s with sweeps := update s.sweeps sweep ids } := by
  refine { h with live := ?_, sweepNodup := ?_ }
  · intro addr copy hlive hmem
    refine h.live addr copy ?_ hmem
    cases addr with
    | poll pass upstreamId => exact hlive
    | sweep sweep' id' =>
      by_cases heq : sweep' = sweep
      · subst heq
        have hmem' : id' ∈ ids := by simpa [State.IsLive] using hlive
        simp [State.IsLive, hids, hmem']
      · simpa [State.IsLive, heq] using hlive
  · have hnodup : (id :: ids).Nodup := hids ▸ h.sweepNodup sweep
    exact (forall_update_iff s.sweeps fun _ ids => ids.Nodup).2
      ⟨(nodup_cons.1 hnodup).2, fun sweep' _ => h.sweepNodup sweep'⟩

/-- Every step keeps the invariant, and what it changes is one of a few things. -/
theorem Coherent.step (hdistinct : DistinctIds s a)
    (hasked : AnswersAsked s a) (hstep : step s a = some s') :
    Coherent s' ∧ Change a (bulkIds s a) s.core s'.core := by
  cases a with
  | insert task =>
    obtain ⟨hinsert, rfl⟩ : Insertable task ∧ s.insert task = s' := by
      simpa [Task.step] using hstep
    exact ⟨h.insert task, .insert task hinsert⟩
  | load platform limit =>
    cases hstep
    obtain ⟨hcoherent, hcore⟩ := h.load (unfinishedIds_unfinished platform limit) hdistinct
    rw [hcore]
    exact ⟨hcoherent, .quiet⟩
  | failNullTasks pass =>
    cases hstep
    exact ⟨(h.bulk _ _).setPass_of_count pass fun u => le_rfl, bulk_change none⟩
  | channelMissing pass channel failReason =>
    obtain ⟨upstreamIds, hchannel, rfl⟩ := map_eq_some_iff.1 hstep
    have hids : bulkIds s (.channelMissing pass channel failReason) =
        s.channelIds pass upstreamIds := by simp [bulkIds, hchannel]
    refine ⟨(h.bulk _ _).setPass_of_count pass fun u => ?_, hids ▸ bulk_change (some failReason)⟩
    have hdrop := count_dropChannel hchannel u
    rw [count_live, count_live]
    simp only [State.taskBulkUpdateByID, dropChannel] at hdrop ⊢
    omega
  | openChannel pass channel =>
    obtain ⟨upstreamIds, hchannel, rfl⟩ := map_eq_some_iff.1 hstep
    refine ⟨h.setPass_of_count pass fun u => ?_, .quiet⟩
    have hdrop := count_dropChannel hchannel u
    rw [count_live, count_live]
    simp only [dropChannel, count_append] at hdrop ⊢
    omega
  | poll pass upstreamId env fetch db =>
    obtain ⟨hmem, hstep⟩ : upstreamId ∈ (s.passes pass).todo ∧ (s.setPass pass { s.passes pass with
          todo := (s.passes pass).todo.erase upstreamId }).performAt (.poll pass upstreamId)
          (fun task => updateVideoSingleTask env task fetch) db = some s' := by
      simpa [Task.step] using hstep
    refine h.pollNext (fun u => ?_)
      (fun task hopen => updateVideoSingleTask_regular env hopen fetch)
      hstep
    have hperm := (perm_cons_erase hmem).count_eq u
    rw [count_live, count_live]
    simp only [count_cons, count_nil] at hperm ⊢
    omega
  | openBatch pass channel reply =>
    obtain ⟨hkeys, upstreamIds, hchannel, rfl⟩ : reply.keys.Nodup ∧
        ∃ upstreamIds, (s.passes pass).channel? channel = some upstreamIds ∧
          s.setPass pass { (s.passes pass).dropChannel channel with
            queue := (s.passes pass).queue ++ reply.work upstreamIds } = s' := by
      simpa [Task.step] using hstep
    refine ⟨h.setPass_of_count pass fun u => ?_, .quiet⟩
    have hdrop := count_dropChannel hchannel u
    have hwork := BatchReply.count_work hkeys
      (fun u hu => by simpa [hchannel] using hasked u hu) u
    rw [count_live, count_live]
    simp only [dropChannel, map_append, count_append] at hdrop ⊢
    omega
  | batchTask pass env db =>
    simp only [Task.step] at hstep
    split at hstep
    · cases hstep
    rename_i upstreamId work queue hqueue
    refine h.pollNext (fun u => ?_) (fun task hopen => work.plan_regular env hopen) hstep
    rw [count_live, count_live, hqueue]
    simp only [map_cons, count_cons, count_nil]
    omega
  | sweepLoad cutoff =>
    cases hstep
    obtain ⟨hcoherent, hcore⟩ :=
      h.sweepLoad (timedOutIds_unfinished cutoff 100) (timedOutIds_nodup cutoff 100)
    rw [hcore]
    exact ⟨hcoherent, .quiet⟩
  | sweepTask sweep now minutes db =>
    simp only [Task.step] at hstep
    split at hstep
    · cases hstep
    rename_i id ids hids
    have hnodup : (id :: ids).Nodup := hids ▸ h.sweepNodup sweep
    refine (h.sweepNext hids).performAt ?_ ?_
      (fun task _ => sweepTimedOutTask_regular now minutes) hstep
    · simpa [State.IsLive] using (nodup_cons.1 hnodup).1
    · intro copy hmem
      refine h.live (.sweep sweep id) copy ?_ hmem
      simp [State.IsLive, hids]
  | settle addr funded =>
    simp only [Task.step] at hstep
    split at hstep
    next hmem =>
      cases hstep
      exact ⟨h.settle hmem rfl funded, settle_change hmem rfl funded⟩
    · cases hstep
  | writeQuota addr stored =>
    simp only [Task.step] at hstep
    split at hstep
    next hmem =>
      cases hstep
      exact ⟨h.writeQuota hmem rfl stored, writeQuota_change hmem rfl stored⟩
    · cases hstep

end

end Step

end OmniRouters.Task
