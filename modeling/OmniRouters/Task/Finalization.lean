import OmniRouters.Task.PollingInv

/-!
# Finished tasks are settled once

What the invariant of the pollers says about a task that has reached a terminal status.

* `failed_tasks_refunded`: a failed task with a charge has it returned exactly once, in
  every run in which no row with a quota is written without a guard and no pass polls one
  task object twice.
* `success_is_final`: a task is finalized at most once, and one stored as `SUCCESS` keeps
  its status and its funds, in every run in which no such row is written without a guard.
* `missing_channel_keeps_charge`, `missing_channel_overwrites_success`: a channel that is
  gone makes a pass break both.
-/

namespace OmniRouters.Task

open Lib Function

/-! ## Refunds -/

/-- A task that failed without usage is refunded. -/
theorem finalQuota_failure {task : PolledTask} {usage : CompletionUsage}
    (hstatus : task.status = .failure) (hquota : task.quota ≠ 0)
    (hsilent : usage.silent = true) : finalQuota task usage = some 0 := by
  obtain ⟨hadaptor, htoken⟩ : usage.adaptorQuota ≤ 0 ∧ usage.tokenQuota = none := by
    simpa [CompletionUsage.silent] using hsilent
  have hsettle : settleTaskBillingOnComplete task usage = .notSettled := by
    unfold settleTaskBillingOnComplete
    cases task.billing with
    | tiered => exact if_pos hstatus
    | perCall => rfl
    | usage => simp [not_lt.2 hadaptor, htoken]
  simp [finalQuota, hsettle, hstatus, hquota]

/-- A finalization of row `id` as a failure that has not moved funds yet. -/
def Core.Refunding (c : Core) (id : ℕ) : Prop :=
  ∃ addr copy usage, c.pending addr = some copy ∧ copy.id = id ∧
    copy.stage = some (.settle usage) ∧ copy.task.status = .failure

/-- What is known about the funds of terminal rows. A `SUCCESS` row has its charge, or its
quota says what was moved; the charge of a `FAILURE` row has been returned, or a
finalization is about to do it. -/
structure Refunds (c : Core) : Prop where
  success : ∀ id < c.count, (c.rows id).status = .success →
    (c.rows id).quota = c.charge id ∨ c.moves id = [(c.rows id).quota - c.charge id]
  failure : ∀ id < c.count, (c.rows id).status = .failure → (c.rows id).isLegacy = false →
    0 < c.charge id → c.Refunding id ∨ c.moves id = [-c.charge id]

theorem Refunds.init : Refunds State.init.core where
  success _ h := absurd h (Nat.not_lt_zero _)
  failure _ h := absurd h (Nat.not_lt_zero _)

variable {c c' : Core} {id : ℕ} {addr : Addr} {copy : Option TaskCopy}

/-- A refund under way stays under way while its task object does not change. -/
theorem Core.Refunding.of_update (h : c.Refunding id)
    (hpending : c'.pending = Function.update c.pending addr copy)
    (hother : ∀ old, c.pending addr = some old → old.id ≠ id) : c'.Refunding id := by
  obtain ⟨addr', copy', usage, hp, hid, hrest⟩ := h
  have hne : addr' ≠ addr := by
    rintro rfl
    exact hother copy' hp hid
  refine ⟨addr', copy', usage, ?_, hid, hrest⟩
  rw [hpending, update_of_ne hne]
  exact hp

section Refunds

variable {s : State}

variable {id : ℕ} {addr : Addr} {copy : TaskCopy}

/-- The refund of a row is the finalization in progress for it. -/
theorem Coherent.refunding_copy (h : Coherent s) (hrefund : s.core.Refunding id)
    (hpending : s.core.pending addr = some copy) (hid : copy.id = id) :
    (∃ usage, copy.stage = some (.settle usage)) ∧ copy.task.status = .failure := by
  obtain ⟨addr', copy', usage, hp, hid', hstage, hstatus⟩ := hrefund
  obtain ⟨hmem, hsome⟩ := pending_iff.1 hpending
  obtain ⟨hmem', hsome'⟩ := pending_iff.1 hp
  obtain rfl := h.unique addr addr' copy copy' hmem hmem' (hid.trans hid'.symm) hsome hsome'
  rw [hmem] at hmem'
  cases hmem'
  exact ⟨⟨usage, hstage⟩, hstatus⟩

/-- A finalization of another row. -/
theorem pending_other (hpending : s.core.pending addr = some copy) (hne : id ≠ copy.id) :
    ∀ old, s.core.pending addr = some old → old.id ≠ id := by
  intro old hold
  rw [hpending] at hold
  cases hold
  exact hne.symm

/-- A refund that is settled without usage returns the whole charge. -/
theorem Coherent.refund_quota (h : Coherent s) {usage : CompletionUsage} {funded : Bool}
    (hrefund : s.core.Refunding copy.id) (hpending : s.core.pending addr = some copy)
    (hstage : copy.stage = some (.settle usage))
    (hplain : SettlesPlainly s (.settle addr funded) = true) (hcharge : s.charge copy.id ≠ 0) :
    finalQuota copy.task usage = some 0 := by
  obtain ⟨hmem, -⟩ := pending_iff.1 hpending
  obtain ⟨-, hstatus⟩ := h.refunding_copy hrefund hpending rfl
  obtain ⟨-, -, hquota, -⟩ := (h.copies addr copy hmem).settle usage hstage
  refine finalQuota_failure hstatus (hquota ▸ hcharge) ?_
  obtain ⟨-, hsilent⟩ : funded = true ∧ usage.silent = true := by
    simpa [SettlesPlainly, hmem, TaskCopy.settlesPlainly, hstage, hstatus] using hplain
  exact hsilent

/-- The refunds of one row are in order. -/
def Core.RowInOrder (c : Core) (id : ℕ) : Prop :=
  ((c.rows id).status = .success →
    (c.rows id).quota = c.charge id ∨ c.moves id = [(c.rows id).quota - c.charge id]) ∧
  ((c.rows id).status = .failure → (c.rows id).isLegacy = false → 0 < c.charge id →
    c.Refunding id ∨ c.moves id = [-c.charge id])

/-- Rows whose state, moves and finalizations are as before. -/
theorem Refunds.of_same {c' : Core} (h : Refunds s.core) (hid : id < s.count)
    (hrow : c'.rows id = s.rows id) (hcharge : c'.charge id = s.charge id)
    (hmoves : c'.moves id = s.moves id) (hrefund : s.core.Refunding id → c'.Refunding id) :
    c'.RowInOrder id := by
  unfold Core.RowInOrder
  rw [hrow, hcharge, hmoves]
  exact ⟨h.success id hid, fun hf hl hc => (h.failure id hid hf hl hc).imp_left hrefund⟩

/-- A charged row without a quota has had its charge returned, or is about to. -/
theorem Refunds.of_zero_quota (h : Refunds s.core) (hcoh : Coherent s) (hid : id < s.count)
    (hzero : (s.rows id).quota = 0) (hlegacy : (s.rows id).isLegacy = false)
    (hpos : 0 < s.charge id) : s.core.Refunding id ∨ s.moves id = [-s.charge id] := by
  cases hdone : (s.rows id).status.isDone with
  | false =>
    -- an unfinished row would still hold its charge
    have hcharge : (s.rows id).quota = s.charge id := ((hcoh.rows id hid).undone hdone).1
    omega
  | true =>
    have hstatus : (s.rows id).status = .success ∨ (s.rows id).status = .failure := by
      simpa [TaskStatus.isDone] using hdone
    rcases hstatus with hsuccess | hfailure
    · rcases h.success id hid hsuccess with hquota | hmoves
      · have hcharge : (s.rows id).quota = s.charge id := hquota
        omega
      · right
        rw [show s.core.rows id = s.rows id from rfl, hzero, zero_sub] at hmoves
        exact hmoves
    · exact h.failure id hid hfailure hlegacy hpos

variable {a : Action} {ids : List ℕ} {c' : Core}

/-- Every change keeps the refunds in order, as long as no row that holds a quota is written
without a guard and failed tasks are settled without usage. -/
theorem Refunds.change_row (h : Refunds s.core) (hcoh : Coherent s)
    (hspares : ∀ id ∈ ids, (s.rows id).quota = 0) (hplain : SettlesPlainly s a = true)
    (hchange : Change a ids s.core c') (hid : id < c'.count) : c'.RowInOrder id := by
  cases hchange with
  | quiet => exact h.of_same hid rfl rfl rfl fun hr => hr
  | insert task hinsert =>
    by_cases hnew : id = s.count
    · subst hnew
      simp only [Core.RowInOrder, State.core, update_self]
      refine ⟨fun _ => .inl trivial, fun hf _ hpos => ?_⟩
      rw [hinsert.2 hf] at hpos
      exact absurd hpos (lt_irrefl 0)
    · have hlt : id < s.count := by
        have hle : id < s.count + 1 := hid
        omega
      exact h.of_same hlt (update_of_ne hnew _ _) (update_of_ne hnew _ _)
        (update_of_ne hnew _ _) fun hr => hr
  | bulk rows hout hin =>
    by_cases hmem : id ∈ ids
    · obtain ⟨hfailure, hquota, hlegacy⟩ := hin id hmem
      refine ⟨fun hs => by simp [hfailure] at hs, fun _ hl hpos => ?_⟩
      exact h.of_zero_quota hcoh hid (hspares id hmem) (hlegacy.symm.trans hl) hpos
    · exact h.of_same hid (hout id hmem) rfl rfl fun hr => hr
  | store addr id' task pending _ hopen hidle hstores =>
    by_cases hsame : id = id'
    · subst hsame
      simp only [Core.RowInOrder, State.core, update_self]
      cases hstores with
      | undone hd hq => constructor <;> intro hs <;> simp [hs] at hd
      | legacy hf hl => exact ⟨fun hs => by simp [hf] at hs, fun _ hl' => by simp [hl] at hl'⟩
      | finalized usage hd hq =>
        exact ⟨fun _ => .inl hq, fun hf _ _ => .inl ⟨addr, _, usage, update_self .., rfl, rfl, hf⟩⟩
    · refine h.of_same hid (update_of_ne hsame _ _) rfl rfl fun hr => ?_
      exact hr.of_update rfl fun old hold => by simp [hidle] at hold
  | settle addr copy usage quota hpending hstage haction hquota =>
    obtain ⟨hmem, -⟩ := pending_iff.1 hpending
    obtain ⟨-, -, hcharge, hmoves⟩ := (hcoh.copies addr copy hmem).settle usage hstage
    by_cases hsame : id = copy.id
    · subst hsame
      simp only [Core.RowInOrder, State.core, update_self, hmoves, List.nil_append]
      refine ⟨fun hs => ?_, fun hf hl hpos => .inr ?_⟩
      · exact .inl ((h.success copy.id hid hs).resolve_right (by simp [State.core, hmoves]))
      have hrefund := (h.failure copy.id hid hf hl hpos).resolve_right
        (by simp [State.core, hmoves])
      have hzero := hcoh.refund_quota hrefund hpending hstage (haction ▸ hplain) hpos.ne'
      rw [hquota] at hzero
      cases hzero
      rw [hcharge, zero_sub]
    · exact h.of_same hid rfl rfl (update_of_ne hsame _ _)
        fun hr => hr.of_update rfl (pending_other hpending hsame)
  | close addr copy usage funded hpending hstage haction hkeep =>
    by_cases hsame : id = copy.id
    · subst hsame
      refine ⟨h.success copy.id hid, fun hf hl hpos => ?_⟩
      rcases h.failure copy.id hid hf hl hpos with hrefund | hmoves
      · -- a refund is not skipped
        subst haction
        have hzero := hcoh.refund_quota hrefund hpending hstage hplain hpos.ne'
        rcases hkeep with hnone | rfl
        · simp [hnone] at hzero
        · simp [SettlesPlainly] at hplain
      · exact .inr hmoves
    · exact h.of_same hid rfl rfl rfl
        fun hr => hr.of_update rfl (pending_other hpending hsame)
  | write addr copy stored hpending hstage =>
    obtain ⟨hmem, -⟩ := pending_iff.1 hpending
    obtain ⟨-, -, hmoves⟩ := (hcoh.copies addr copy hmem).write hstage
    by_cases hsame : id = copy.id
    · subst hsame
      have hfailure : (s.rows copy.id).status = .failure → (s.rows copy.id).isLegacy = false →
          0 < s.charge copy.id → s.moves copy.id = [-s.charge copy.id] := by
        intro hf hl hpos
        refine (h.failure copy.id hid hf hl hpos).resolve_left fun hrefund => ?_
        obtain ⟨⟨usage, hsettle⟩, -⟩ := hcoh.refunding_copy hrefund hpending rfl
        simp [hstage] at hsettle
      cases stored with
      | false =>
        exact ⟨h.success copy.id hid, fun hf hl hpos => .inr (hfailure hf hl hpos)⟩
      | true =>
        simp only [Core.RowInOrder, if_true, State.core, update_self]
        exact ⟨fun _ => .inr hmoves, fun hf hl hpos => .inr (hfailure hf hl hpos)⟩
    · have hrow : (if stored then Function.update s.rows copy.id
          { s.rows copy.id with quota := copy.task.quota } else s.rows) id = s.rows id := by
        cases stored <;> simp [hsame]
      exact h.of_same hid hrow rfl rfl
        fun hr => hr.of_update rfl (pending_other hpending hsame)

end Refunds

/-- The conditions under which refunds are in order: the rows loaded by a pass have
different upstream ids, batch answers name tasks of the channel that was asked, no row
with a quota is written without a guard, and settling goes without funding errors and
without usage of failed tasks. -/
def RefundsKept (s : State) (a : Action) : Prop :=
  DistinctIds s a ∧ AnswersAsked s a ∧ SparesCharged s a ∧ SettlesPlainly s a = true

instance (s : State) (a : Action) : Decidable (RefundsKept s a) :=
  inferInstanceAs (Decidable (_ ∧ _))

/-- In every state of a run under these conditions the charge of a failed task has been
returned by exactly one adjustment, or the finalization that will return it has not
moved any funds yet. -/
theorem failed_tasks_refunded {s : State} (hrun : Exec step RefundsKept State.init s) (id : ℕ)
    (hid : id < s.count) (hfailure : (s.rows id).status = .failure)
    (hlegacy : (s.rows id).isLegacy = false) (hcharge : 0 < s.charge id) :
    s.moves id = [-s.charge id] ∨
      (s.moves id = [] ∧ ∃ addr copy, s.pending addr = some copy ∧ copy.id = id) := by
  have hinv : Coherent s ∧ Refunds s.core := by
    refine hrun.invariant_of (I := Coherent) (J := fun s => Refunds s.core) ?_ ?_ .init .init
    · intro t a u hcoh hok hstep
      exact (hcoh.step hok.1 hok.2.1 hstep).1
    intro t a u hcoh hrefunds hok hstep
    have hrow : ∀ id < u.core.count, u.core.RowInOrder id := fun _ =>
      hrefunds.change_row hcoh hok.2.2.1 hok.2.2.2 (hcoh.step hok.1 hok.2.1 hstep).2
    exact ⟨fun id hid => (hrow id hid).1, fun id hid => (hrow id hid).2⟩
  obtain ⟨hcoh, hrefunds⟩ := hinv
  rcases hrefunds.failure id hid hfailure hlegacy hcharge with hrefund | hmoves
  · obtain ⟨addr, copy, usage, hpending, rfl, hstage, -⟩ := hrefund
    have hmem := (pending_iff.1 hpending).1
    obtain ⟨-, -, -, hmoves⟩ := (hcoh.copies addr copy hmem).settle usage hstage
    exact .inr ⟨hmoves, addr, copy, hpending, rfl⟩
  · exact .inl hmoves

/-! ## Runs of one task -/

def chargedTask : PolledTask :=
  { blankTask with
    status := .submitted, progress := "10%", quota := 100, submitTime := 1800000000
    platform := "video", channelId := 7, upstreamId := "u-1" }

/-- A poll at some time, without a limit on failures. -/
def pollEnv : PollEnv := ⟨1800000060, 0, "", 0, "proxy"⟩

/-- An answer with a status and nothing else. -/
def answered (status : TaskStatus) : Fetch :=
  .response 200 "body" none (some ⟨some status, "", "", "", "", ⟨none, 0, none⟩⟩)

/-- The task is submitted, a pass reads it and is told that it failed; the pass refunds
it. -/
def failedRun : List Action :=
  [.insert chargedTask, .load "video" 1000, .openChannel 0 7,
   .poll 0 "u-1" pollEnv (answered .failure) (.ok false),
   .settle (.poll 0 "u-1") true, .writeQuota (.poll 0 "u-1") true]

theorem failedRun_refunded : ∃ s, Exec step RefundsKept State.init s ∧
    (s.rows 0).status = .failure ∧ s.charge 0 = 100 ∧
    (s.moves 0 = [-s.charge 0] ∨
      (s.moves 0 = [] ∧ ∃ addr copy, s.pending addr = some copy ∧ copy.id = 0)) := by
  refine Exec.exists_imp_of_actions (P := fun s => 0 < s.count ∧ (s.rows 0).status = .failure ∧
      (s.rows 0).isLegacy = false ∧ s.charge 0 = 100)
    failedRun (by decide +kernel) fun s hrun hs => ?_
  obtain ⟨hcount, hfailure, hlegacy, hcharge⟩ := hs
  refine ⟨hfailure, hcharge, ?_⟩
  exact failed_tasks_refunded hrun 0 hcount hfailure hlegacy (by omega)

/-- The conditions of `RefundsKept` apart from the one on writes without a guard. -/
def RefundsAssumed (s : State) (a : Action) : Prop :=
  DistinctIds s a ∧ AnswersAsked s a ∧ SettlesPlainly s a = true

instance (s : State) (a : Action) : Decidable (RefundsAssumed s a) :=
  inferInstanceAs (Decidable (_ ∧ _))

/-- The channel of the task is gone when a pass comes to it. -/
def missingChannelRun : List Action :=
  [.insert chargedTask, .load "video" 1000,
   .channelMissing 0 7 "Failed to get channel info, channel ID: 7"]

/-- A channel that no longer exists: its task is failed without a finalization, and the
charge is kept. -/
theorem missing_channel_keeps_charge :
    ∃ s, Exec step RefundsAssumed State.init s ∧ 0 < s.count ∧
      (s.rows 0).status = .failure ∧ (s.rows 0).isLegacy = false ∧
      s.charge 0 = 100 ∧ s.moves 0 = [] ∧ s.finals 0 = 0 := by
  exact Exec.exists_of_actions missingChannelRun (by decide +kernel)

/-! ## Success is final -/

/-- No finalization of row `id` is under way. -/
def Core.Idle (c : Core) (id : ℕ) : Prop :=
  ∀ addr copy, c.pending addr = some copy → copy.id ≠ id

theorem Core.Idle.of_update (h : c.Idle id)
    (hpending : c'.pending = Function.update c.pending addr copy)
    (hcopy : ∀ new, copy = some new → new.id ≠ id) : c'.Idle id := by
  unfold Core.Idle
  rw [hpending]
  exact (forall_update_iff c.pending fun _ copy => ∀ new, copy = some new → new.id ≠ id).2
    ⟨hcopy, fun addr _ => h addr⟩

/-- A row stored as `SUCCESS` is left as it is, except for the finalization that is under
way for it. -/
theorem Change.success {a : Action} {ids : List ℕ} (h : Change a ids c c') (hid : id < c.count)
    (hsuccess : (c.rows id).status = .success) (hspares : id ∉ ids) :
    id < c'.count ∧ (c'.rows id).status = .success ∧
      (c.Idle id → c'.Idle id ∧ c'.moves id = c.moves id) := by
  cases h with
  | quiet => exact ⟨hid, hsuccess, fun hidle => ⟨hidle, rfl⟩⟩
  | insert task _ =>
    have hne : id ≠ c.count := hid.ne
    refine ⟨Nat.lt_succ_of_lt hid, ?_, fun hidle => ⟨hidle, update_of_ne hne _ _⟩⟩
    simpa [hne] using hsuccess
  | bulk rows hout _ =>
    refine ⟨hid, ?_, fun hidle => ⟨hidle, rfl⟩⟩
    show (rows id).status = .success
    rw [hout id hspares]
    exact hsuccess
  | store addr id' task pending _ hopen _ hstores =>
    have hne : id ≠ id' := by
      rintro rfl
      simp [hsuccess] at hopen
    refine ⟨hid, ?_, fun hidle => ⟨hidle.of_update rfl ?_, rfl⟩⟩
    · simpa [hne] using hsuccess
    intro new hnew
    cases hstores with
    | undone | legacy => cases hnew
    | finalized =>
      cases hnew
      exact hne.symm
  | settle addr copy usage quota hpending =>
    refine ⟨hid, hsuccess, fun hidle => ?_⟩
    have hother : copy.id ≠ id := hidle addr copy hpending
    refine ⟨hidle.of_update rfl ?_, update_of_ne hother.symm _ _⟩
    intro new hnew
    cases hnew
    exact hother
  | close addr copy usage funded hpending =>
    refine ⟨hid, hsuccess, fun hidle => ⟨hidle.of_update rfl ?_, rfl⟩⟩
    intro new hnew
    cases hnew
  | write addr copy stored hpending =>
    refine ⟨hid, ?_, fun hidle => ⟨hidle.of_update rfl ?_, rfl⟩⟩
    · cases stored with
      | false => exact hsuccess
      | true =>
        by_cases heq : id = copy.id
        · subst heq
          simpa using hsuccess
        · simpa [heq] using hsuccess
    · intro new hnew
      cases hnew

/-- The conditions under which a stored success is final: the rows loaded by a pass have
different upstream ids, batch answers name tasks of the channel that was asked, and no row
stored as `SUCCESS` is written without a guard. -/
def SuccessKept (s : State) (a : Action) : Prop :=
  DistinctIds s a ∧ AnswersAsked s a ∧ SparesSuccess s a

instance (s : State) (a : Action) : Decidable (SuccessKept s a) :=
  inferInstanceAs (Decidable (_ ∧ _))

/-- In every state of a run under these conditions each task has been finalized at most
once and its funds were moved at most once. From then on a task stored as `SUCCESS` keeps
its status, and its funds do not move unless its one finalization is still under way. -/
theorem success_is_final {s : State} (hrun : Exec step SuccessKept State.init s) (id : ℕ)
    (hid : id < s.count) :
    s.finals id ≤ 1 ∧ (s.moves id).length ≤ 1 ∧
      ∀ s', Exec step SuccessKept s s' → (s.rows id).status = .success →
        (s'.rows id).status = .success ∧ s'.finals id ≤ 1 ∧ (s'.moves id).length ≤ 1 ∧
          ((∀ addr copy, s.pending addr = some copy → copy.id ≠ id) →
            s'.moves id = s.moves id) := by
  have hcoherent : ∀ t a u, Coherent t → SuccessKept t a → step t a = some u → Coherent u :=
    fun t a u hcoh hok hstep => (hcoh.step hok.1 hok.2.1 hstep).1
  have hcoh : Coherent s := hrun.invariant hcoherent .init
  have hrow := hcoh.rows id hid
  refine ⟨hrow.finals_le, hrow.moves_le, fun s' hrun' hsuccess => ?_⟩
  have hstays := hrun'.invariant_of
    (J := fun u => id < u.core.count ∧ (u.core.rows id).status = .success ∧
      (s.core.Idle id → u.core.Idle id ∧ u.core.moves id = s.core.moves id))
    hcoherent ?_ hcoh ⟨hid, hsuccess, fun hidle => ⟨hidle, rfl⟩⟩
  · obtain ⟨hcoh', hid', hsuccess', hidle'⟩ := hstays
    have hrow' := hcoh'.rows id hid'
    exact ⟨hsuccess', hrow'.finals_le, hrow'.moves_le, fun hidle => (hidle' hidle).2⟩
  · intro t a u hcoht ⟨hidt, hsuccesst, hidlet⟩ hok hstep
    have hspares : id ∉ bulkIds t a := fun hmem => hok.2.2 id hmem hsuccesst
    obtain ⟨hidu, hsuccessu, hidleu⟩ :=
      (hcoht.step hok.1 hok.2.1 hstep).2.success hidt hsuccesst hspares
    refine ⟨hidu, hsuccessu, fun hidle => ?_⟩
    obtain ⟨hidle', hmoves'⟩ := hidlet hidle
    obtain ⟨hidle'', hmoves''⟩ := hidleu hidle'
    exact ⟨hidle'', hmoves''.trans hmoves'⟩

/-- The task is submitted, two passes read it, and one is told that it succeeded. -/
def succeededRun : List Action :=
  [.insert chargedTask, .load "video" 1000, .load "video" 1000, .openChannel 0 7,
   .poll 0 "u-1" pollEnv (answered .success) (.ok false), .settle (.poll 0 "u-1") true]

theorem succeededRun_final : ∃ s, Exec step SuccessKept State.init s ∧
    (s.rows 0).status = .success ∧ s.finals 0 ≤ 1 ∧ (s.moves 0).length ≤ 1 ∧
      ∀ s', Exec step SuccessKept s s' → (s.rows 0).status = .success →
        (s'.rows 0).status = .success ∧ s'.finals 0 ≤ 1 ∧ (s'.moves 0).length ≤ 1 ∧
          ((∀ addr copy, s.pending addr = some copy → copy.id ≠ 0) → s'.moves 0 = s.moves 0) := by
  refine Exec.exists_imp_of_actions (P := fun s => 0 < s.count ∧ (s.rows 0).status = .success)
    succeededRun (by decide +kernel) fun s hrun hs => ?_
  exact ⟨hs.2, success_is_final hrun 0 hs.1⟩

/-- The conditions of `SuccessKept` apart from the one on writes without a guard. -/
def SuccessAssumed (s : State) (a : Action) : Prop :=
  DistinctIds s a ∧ AnswersAsked s a

instance (s : State) (a : Action) : Decidable (SuccessAssumed s a) :=
  inferInstanceAs (Decidable (_ ∧ _))

/-- A task stored as `SUCCESS` by one pass is turned into a failure by another one that
read it before and finds its channel gone. -/
theorem missing_channel_overwrites_success :
    ∃ s s', Exec step SuccessAssumed State.init s ∧ Exec step SuccessAssumed s s' ∧
      (s.rows 0).status = .success ∧ (s'.rows 0).status = .failure := by
  -- the other pass of `succeededRun` finds the channel gone
  obtain ⟨s, hrun, hsuccess, hrest⟩ : ∃ s, Exec step SuccessAssumed State.init s ∧
      (s.rows 0).status = .success ∧ (run (guarded step SuccessAssumed) s
        [.channelMissing 1 7 "Failed to get channel info, channel ID: 7"]).any
          (fun s' => decide ((s'.rows 0).status = .failure)) = true :=
    Exec.exists_of_actions succeededRun (by decide +kernel)
  obtain ⟨s', hrun', hfailure⟩ := Exec.exists_of_actions _ hrest
  exact ⟨s, s', hrun, hrun', hsuccess, hfailure⟩

end OmniRouters.Task
