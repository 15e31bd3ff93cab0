import OmniRouters.Midjourney.Polling

/-!
# The life of one Midjourney row

What all submissions and passes together can do to one row, as a relation on the row, its
submission, the copies of it in memory and the refunds under way for it. The steps of the
system are steps of this relation for every row; the two invariants of a row are proved here.

* `RowStep`: the steps of one row.
* `RowOk`: at most one refund is ever begun for a row, and a row stored as a failure
  that has been charged has one.
* `TokenOk`: with a refund the token gets back what it was charged.
-/

namespace OmniRouters.Mj

open OmniRouters.Task (DbAnswer)

/-! ## What an answer does to a copy -/

/-- The columns that say who pays for a task. -/
def Midjourney.payer (task : Midjourney) : ℕ × ℕ × String :=
  (task.userId, task.organizationId, task.organizationUsagePeriod)

def SubmitInfo.payer (info : SubmitInfo) : ℕ × ℕ × String :=
  (info.userId, info.organizationId, info.organizationUsagePeriod)

def accountOf (payer : ℕ × ℕ × String) : Account :=
  if 0 < payer.2.1 then .organization payer.2.1 payer.1 payer.2.2 else .wallet payer.1

theorem Midjourney.account_eq (task : Midjourney) : task.account = accountOf task.payer := rfl

/-- The account that is charged is the one a refund goes to. -/
theorem SubmitInfo.account_eq {info : SubmitInfo} {account : Account}
    (h : info.account = some account) : account = accountOf info.payer := by
  by_cases hid : 0 < info.organizationId
  · rw [SubmitInfo.account, if_pos (.inl hid), if_pos hid] at h
    rw [← Option.some.inj h]
    exact (if_pos hid).symm
  · by_cases hsource : info.billingSource = some .organization
    · simp [SubmitInfo.account, hid, hsource] at h
    · rw [SubmitInfo.account, if_neg (by simp [hid, hsource])] at h
      rw [← Option.some.inj h]
      exact (if_neg hid).symm

/-- What every plan has in common: the billing columns are those of the copy, a plan that
returns the quota finishes the row, and one that fails it for good without a return is
for a task without quota. -/
structure PlanOk (task : Midjourney) (item : MidjourneyDto) (plan : TaskPlan) : Prop where
  payer : plan.task.payer = task.payer
  quota : plan.task.quota = task.quota
  tokenId : plan.task.tokenId = task.tokenId
  returns : plan.shouldReturnQuota = true → plan.task.quota ≠ 0 ∧ plan.task.progress = "100%"
  keeps : plan.shouldReturnQuota = false → plan.task.status = "FAILURE" →
    plan.task.progress = "100%" → task.quota = 0
  finished : item.progress = "100%" → plan.task.progress = "100%"

theorem MidjourneyDto.timedOut_progress (item : MidjourneyDto) (now : ℤ) (task : Midjourney) :
    (item.timedOut now task).progress = item.progress := by
  rw [MidjourneyDto.timedOut]
  split <;> rfl

variable {task : Midjourney}

theorem updateTask_ok {now : ℤ} {item : MidjourneyDto} {plan : TaskPlan}
    (h : updateTask now task item = some plan) : PlanOk task item plan := by
  simp only [updateTask] at h
  split at h
  · cases h
  split at h
  · cases h
    refine ⟨rfl, rfl, rfl, ?_, ?_, fun _ => rfl⟩
    · intro hreturns
      exact ⟨of_decide_eq_true hreturns, rfl⟩
    · intro hkeeps _ _
      exact not_not.1 (of_decide_eq_false hkeeps)
  next hfails =>
    cases h
    refine ⟨rfl, rfl, rfl, nofun, ?_, ?_⟩
    · intro _ hstatus hprogress
      exact absurd (.inr ⟨hprogress, hstatus⟩) hfails
    · intro hprogress
      exact (item.timedOut_progress now task).trans hprogress

/-- A write that is won stores the copy; one that is lost leaves the row as it is. -/
theorem Midjourney.updateWithStatus_cases (row task : Midjourney) (fromStatus : String)
    (db : DbAnswer) :
    row.updateWithStatus task fromStatus db = (row, false) ∨
      row.status = fromStatus ∧ row.updateWithStatus task fromStatus db = (task, true) := by
  cases db with
  | error => exact .inl rfl
  | ok reportsMatched =>
    by_cases hstatus : row.status = fromStatus
    · by_cases hchanged : task = row
      · subst hchanged
        cases reportsMatched <;> simp [Midjourney.updateWithStatus, hstatus]
      · right
        simp [Midjourney.updateWithStatus, hstatus, hchanged]
    · left
      simp [Midjourney.updateWithStatus, hstatus]

/-! ## Steps of one row -/

/-- All there is about one row. A refund under way is known by its pass, the copy it is
for and how far it has come. -/
structure RowState where
  row : Midjourney
  sub : Submission
  ledger : Ledger
  copies : Set Midjourney
  refunds : Set (ℕ × Midjourney × RefundStage)

/-- The steps of one row under the conditions of `SparesCharged`, `SparesFinished` and
`AcceptsRefund`; `tokens` tells whether those of `KnowsToken` and `AcceptsTokenRefund`
are met too. Copies may be dropped in any step. -/
inductive RowStep (tokens : Bool) (r : RowState) : RowState → Prop
  | quiet (copies : Set Midjourney) (hcopies : copies ⊆ insert r.row r.copies) :
      RowStep tokens r { r with copies := copies }
  | charge (account : Account) (hstage : r.sub.stage = .funding)
      (haccount : r.sub.info.account = some account) :
      RowStep tokens r { r with
        sub := { r.sub with stage := .token }
        ledger := { r.ledger with
          charges := r.ledger.charges ++ moved account r.sub.task.quota } }
  | refuse (hstage : r.sub.stage = .funding) :
      RowStep tokens r { r with
        sub := { r.sub with
          task := { r.sub.task with quota := 0, tokenId := 0, billingChannelId := 0 }
          stage := .store } }
  | chargeToken (hstage : r.sub.stage = .token) (hkey : r.sub.info.isPlayground = false) :
      RowStep tokens r { r with
        sub := { r.sub with
          task := { r.sub.task with tokenId := r.sub.info.tokenId }, stage := .store }
        ledger := { r.ledger with
          tokenCharges := r.ledger.tokenCharges ++ moved r.sub.info.tokenId r.sub.task.quota } }
  | skipToken (hstage : r.sub.stage = .token) :
      RowStep tokens r { r with
        sub := { r.sub with task := { r.sub.task with tokenId := 0 }, stage := .store } }
  | storeCharge (ok : Bool) (hstage : r.sub.stage = .store) :
      RowStep tokens r { r with
        sub := { r.sub with stage := .done }
        row := if ok then r.row.updateBillingState r.sub.task else r.row }
  | bulk (failReason : Option String) (hquota : r.row.quota = 0) :
      RowStep tokens r { r with row := r.row.bulkFailed failReason }
  | answer (pass : ℕ) (task : Midjourney) (item : MidjourneyDto) (plan : TaskPlan)
      (row : Midjourney) (won : Bool) (copies : Set Midjourney) (htask : task ∈ r.copies)
      (hplan : PlanOk task item plan)
      (hwrite : row = r.row ∧ won = false ∨
        r.row.status = task.status ∧ row = plan.task ∧ won = true)
      (hcopies : copies ⊆ insert plan.task r.copies)
      (hfinished : r.row.progress = "100%" → r.row.status = task.status →
        task.quota = 0 ∧ item.progress = "100%")
      (htoken : tokens = true → task.quota ≠ 0 →
        r.sub.stage = .done ∧ task.tokenId = r.sub.task.tokenId) :
      RowStep tokens r { r with
        row := row
        copies := copies
        refunds :=
          if won && plan.shouldReturnQuota then insert (pass, plan.task, .funding) r.refunds
          else r.refunds }
  | refundFunding (pass : ℕ) (task : Midjourney) (htask : (pass, task, .funding) ∈ r.refunds) :
      RowStep tokens r { r with
        ledger := { r.ledger with
          refunds := r.ledger.refunds ++ moved task.account task.quota }
        refunds := insert (pass, task, .token) (r.refunds \ {(pass, task, .funding)}) }
  | refundToken (pass : ℕ) (task : Midjourney) (ok : Bool)
      (htask : (pass, task, .token) ∈ r.refunds) (hok : tokens = true → ok = true) :
      RowStep tokens r { r with
        ledger :=
          if 0 < task.tokenId ∧ ok then
            { r.ledger with
              tokenRefunds := r.ledger.tokenRefunds ++ moved task.tokenId task.quota }
          else r.ledger
        refunds := insert (pass, task, .store) (r.refunds \ {(pass, task, .token)}) }
  | storeRefund (pass : ℕ) (task : Midjourney) (ok : Bool) (copies : Set Midjourney)
      (htask : (pass, task, .store) ∈ r.refunds)
      (hcopies : copies ⊆ insert { task with quota := 0 } r.copies) :
      RowStep tokens r { r with
        row :=
          if ok then r.row.updateBillingState { task with quota := 0 } else r.row
        copies := copies
        refunds := r.refunds \ {(pass, task, .store)} }

variable {tokens : Bool} {r r' : RowState}

/-- The row is never charged, or its charge has been returned. -/
def RowState.Clear (r : RowState) : Prop :=
  r.sub.marker = 0 ∨ r.ledger.charges = [] ∧ r.sub.stage ≠ .funding ∨ r.ledger.refunds ≠ []

/-- A version of the row, in the database or in memory: it names the payer, and it has the
quota the row was stored with, unless that quota is of no use any more. -/
structure Version (r : RowState) (task : Midjourney) : Prop where
  payer : task.payer = r.sub.info.payer
  quota : task.quota = r.sub.marker ∨ task.quota = 0 ∧ r.Clear

namespace RowStep

section

variable (h : RowStep tokens r r')

include h

theorem info_eq : r'.sub.info = r.sub.info := by
  cases h <;> rfl

theorem marker_eq : r'.sub.marker = r.sub.marker := by
  cases h <;> rfl

theorem refunds_ne_nil (hne : r.ledger.refunds ≠ []) : r'.ledger.refunds ≠ [] := by
  cases h with
  | refundFunding => simp [hne]
  | refundToken =>
    split <;> exact hne
  | _ => exact hne

/-- What needs no refund now needs none later. -/
theorem clear (hclear : r.Clear) : r'.Clear := by
  obtain hmarker | ⟨hcharges, hstage⟩ | hrefunds := hclear
  · exact .inl (h.marker_eq.trans hmarker)
  · refine .inr ?_
    cases h with
    | charge account hfunding _ => exact absurd hfunding hstage
    | refuse hfunding => exact absurd hfunding hstage
    | refundToken =>
      left
      split <;> exact ⟨hcharges, hstage⟩
    | chargeToken | skipToken | storeCharge => exact .inl ⟨hcharges, nofun⟩
    | quiet | bulk | answer | refundFunding | storeRefund => exact .inl ⟨hcharges, hstage⟩
  · exact .inr (.inr (h.refunds_ne_nil hrefunds))

theorem version (hv : Version r task) : Version r' task where
  payer := by rw [h.info_eq, hv.payer]
  quota := by
    rw [h.marker_eq]
    exact hv.quota.imp_right fun hzero => ⟨hzero.1, h.clear hzero.2⟩

end

end RowStep

namespace Version

variable {task task' : Midjourney}

section

variable (h : Version r task)

include h

theorem of_eq (hpayer : task'.payer = task.payer) (hquota : task'.quota = task.quota) :
    Version r task' :=
  ⟨hpayer.trans h.payer, hquota ▸ h.quota⟩

theorem clear_of_zero (hzero : task.quota = 0) : r.Clear := by
  obtain hmarker | ⟨_, hclear⟩ := h.quota
  · exact .inl (hmarker.symm.trans hzero)
  · exact hclear

theorem eq_marker (hne : task.quota ≠ 0) : task.quota = r.sub.marker :=
  h.quota.resolve_right fun hzero => hne hzero.1

theorem zero (hclear : r.Clear) : Version r { task with quota := 0 } :=
  ⟨h.payer, .inr ⟨rfl, hclear⟩⟩

end

/-- The billing columns of one version in another one. -/
theorem updateBillingState {row : Midjourney} (hrow : Version r row) (h : Version r task) :
    Version r (row.updateBillingState task) := by
  refine ⟨?_, h.quota⟩
  have huser : row.userId = task.userId := by
    have hpayers := hrow.payer.trans h.payer.symm
    exact congrArg Prod.fst hpayers
  rw [← h.payer]
  simp [Midjourney.payer, Midjourney.updateBillingState, huser]

end Version

/-! ## Refunds -/

/-- The account that pays for the row. -/
def RowState.account (r : RowState) : Account := accountOf r.sub.info.payer

theorem RowStep.account_eq (h : RowStep tokens r r') : r'.account = r.account := by
  rw [RowState.account, h.info_eq, RowState.account]

theorem Version.account_eq (h : Version r task) : task.account = r.account := by
  rw [Midjourney.account_eq, h.payer, RowState.account]

/-- Every version of the row that can be written or refunded is one. -/
structure Versions (r : RowState) : Prop where
  row : Version r r.row
  sub : Version r r.sub.task
  copies : ∀ task ∈ r.copies, Version r task
  refunds : ∀ refund ∈ r.refunds, Version r refund.2.1 ∧ refund.2.1.quota ≠ 0

/-- The charge is made once, of the quota the row was stored with. -/
structure Charging (r : RowState) : Prop where
  marker : r.sub.stage = .funding ∨ r.sub.stage = .token → r.sub.task.quota = r.sub.marker
  uncharged : r.sub.stage = .funding → r.ledger.charges = []
  charges : r.ledger.charges = [] ∨
    r.sub.marker ≠ 0 ∧ r.sub.stage ≠ .funding ∧
      r.ledger.charges = [(r.account, r.sub.marker)]

/-- At most one refund is begun, when the row is finished; a row stored as a failure is
refunded, unless there is nothing to refund. -/
structure Refunding (r : RowState) : Prop where
  refunds : r.ledger.refunds = [] ∨ r.ledger.refunds = [(r.account, r.sub.marker)]
  finished : r.ledger.refunds ≠ [] → r.row.progress = "100%"
  underway : ∀ refund ∈ r.refunds, r.row.progress = "100%" ∧
    (refund.2.2 = .funding ↔ r.ledger.refunds = [])
  one : r.refunds.Subsingleton
  failed : r.row.status = "FAILURE" → r.row.progress = "100%" → r.Clear ∨ r.refunds.Nonempty
  tokenOnce : r.ledger.tokenRefunds = [] ∨ r.ledger.tokenRefunds.length = 1 ∧
    r.ledger.refunds ≠ [] ∧ ∀ refund ∈ r.refunds, refund.2.2 = .store

structure RowOk (r : RowState) : Prop where
  versions : Versions r
  charging : Charging r
  refunding : Refunding r

theorem RowOk.step_versions (hok : RowOk r) (hstep : RowStep tokens r r') : Versions r' := by
  have h := hok.versions
  have hrow : Version r' r.row := hstep.version h.row
  have hsub : Version r' r.sub.task := hstep.version h.sub
  have hcopies : ∀ task ∈ r.copies, Version r' task :=
    fun task htask => hstep.version (h.copies task htask)
  have hrefunds : ∀ refund ∈ r.refunds, Version r' refund.2.1 ∧ refund.2.1.quota ≠ 0 :=
    fun refund hrefund => (h.refunds refund hrefund).imp_left hstep.version
  cases hstep with
  | quiet copies hcopies' =>
    refine ⟨hrow, hsub, fun task htask => ?_, hrefunds⟩
    obtain heq | hmem := hcopies' htask
    · exact heq ▸ hrow
    · exact hcopies task hmem
  | charge account hstage haccount => exact ⟨hrow, hsub, hcopies, hrefunds⟩
  | refuse hstage =>
    have hcharges := hok.charging.uncharged hstage
    have hzero := hsub.zero (.inr (.inl ⟨hcharges, nofun⟩))
    exact ⟨hrow, hzero.of_eq rfl rfl, hcopies, hrefunds⟩
  | chargeToken | skipToken => exact ⟨hrow, hsub.of_eq rfl rfl, hcopies, hrefunds⟩
  | storeCharge ok hstage =>
    refine ⟨?_, hsub, hcopies, hrefunds⟩
    cases ok with
    | false => exact hrow
    | true => exact hrow.updateBillingState hsub
  | bulk failReason hquota => exact ⟨hrow.of_eq rfl rfl, hsub, hcopies, hrefunds⟩
  | answer pass task item plan row won copies htask hplan hwrite hcopies' _ _ =>
    have hnew := (hcopies task htask).of_eq hplan.payer hplan.quota
    refine ⟨?_, hsub, fun task' htask' => ?_, fun refund hrefund => ?_⟩
    · obtain ⟨rfl, -⟩ | ⟨-, rfl, -⟩ := hwrite
      · exact hrow
      · exact hnew
    · obtain heq | hmem := hcopies' htask'
      · exact heq ▸ hnew
      · exact hcopies task' hmem
    · split at hrefund
      next hbegins =>
        obtain heq | hmem := hrefund
        · subst heq
          exact ⟨hnew, (hplan.returns (Bool.and_eq_true_iff.1 hbegins).2).1⟩
        · exact hrefunds refund hmem
      · exact hrefunds refund hrefund
  | refundFunding pass task htask =>
    have hold := hrefunds _ htask
    refine ⟨hrow, hsub, hcopies, fun refund hrefund => ?_⟩
    obtain heq | hmem := hrefund
    · subst heq
      exact hold
    · exact hrefunds refund hmem.1
  | refundToken pass task ok htask _ =>
    have hold := hrefunds _ htask
    refine ⟨hrow, hsub, hcopies, fun refund hrefund => ?_⟩
    obtain heq | hmem := hrefund
    · subst heq
      exact hold
    · exact hrefunds refund hmem.1
  | storeRefund pass task ok copies htask hcopies' =>
    have hreturned : r.ledger.refunds ≠ [] := fun hnil =>
      nomatch (hok.refunding.underway _ htask).2.2 hnil
    have hzero := (hrefunds _ htask).1.zero (.inr (.inr hreturned))
    refine ⟨?_, hsub, fun task' htask' => ?_, fun refund hrefund => hrefunds refund hrefund.1⟩
    · cases ok with
      | false => exact hrow
      | true => exact hrow.updateBillingState hzero
    · obtain heq | hmem := hcopies' htask'
      · exact heq ▸ hzero
      · exact hcopies task' hmem

theorem RowOk.step_charging (hok : RowOk r) (hstep : RowStep tokens r r') : Charging r' := by
  have h := hok.charging
  cases hstep with
  | charge account hstage hcharged =>
    have hquota := h.marker (.inl hstage)
    refine ⟨fun _ => hquota, nofun, ?_⟩
    rw [h.uncharged hstage, hquota, List.nil_append, SubmitInfo.account_eq hcharged]
    by_cases hzero : r.sub.marker = 0
    · left
      simp [moved, hzero]
    right
    refine ⟨hzero, nofun, ?_⟩
    rw [moved, if_neg hzero]
    rfl
  | refuse hstage => exact ⟨by simp, nofun, .inl (h.uncharged hstage)⟩
  | chargeToken hstage | skipToken hstage | storeCharge _ hstage =>
    exact ⟨by simp, nofun, h.charges.imp_right fun hc => ⟨hc.1, nofun, hc.2.2⟩⟩
  | refundToken =>
    split <;> exact { h with }
  | quiet | bulk | answer | refundFunding | storeRefund =>
    exact { h with }

theorem Refunding.not_begun (h : Refunding r) (hopen : r.row.progress ≠ "100%") :
    r.ledger.refunds = [] ∧ r.refunds = ∅ := by
  constructor
  · by_contra hne
    exact hopen (h.finished hne)
  · refine Set.eq_empty_of_forall_notMem fun refund hrefund => ?_
    exact hopen (h.underway refund hrefund).1

/-- A step that leaves the refunds alone, and the row finished if it was. -/
theorem Refunding.of_same (h : Refunding r) (hstep : RowStep tokens r r')
    (hledger : r'.ledger.refunds = r.ledger.refunds) (hrefunds : r'.refunds = r.refunds)
    (htoken : r'.ledger.tokenRefunds = r.ledger.tokenRefunds)
    (hprogress : r.row.progress = "100%" → r'.row.progress = "100%")
    (hfailed : r'.row.status = "FAILURE" → r'.row.progress = "100%" →
      r'.Clear ∨ r.row.status = "FAILURE" ∧ r.row.progress = "100%") : Refunding r' where
  refunds := by
    rw [hledger, hstep.account_eq, hstep.marker_eq]
    exact h.refunds
  finished hne := hprogress (h.finished (hledger ▸ hne))
  underway refund hrefund := by
    rw [hrefunds] at hrefund
    rw [hledger]
    exact (h.underway refund hrefund).imp_left hprogress
  one := by
    rw [hrefunds]
    exact h.one
  failed hstatus hfinal := by
    obtain hclear | ⟨hstatus', hfinal'⟩ := hfailed hstatus hfinal
    · exact .inl hclear
    · rw [hrefunds]
      exact (h.failed hstatus' hfinal').imp_left hstep.clear
  tokenOnce := by
    rw [hledger, hrefunds, htoken]
    exact h.tokenOnce

theorem Refunding.advance (h : Refunding r) {pass : ℕ}
    {stage next : RefundStage}
    (htask : (pass, task, stage) ∈ r.refunds) :
    insert (pass, task, next) (r.refunds \ {(pass, task, stage)}) = {(pass, task, next)} := by
  rw [h.one.eq_singleton_of_mem htask]
  simp

theorem RowOk.step_refunding (hok : RowOk r) (hstep : RowStep tokens r r') : Refunding r' := by
  have h := hok.refunding
  have hsame := h.of_same hstep
  have hclear' := hstep.clear
  cases hstep with
  | quiet | charge | refuse | chargeToken | skipToken =>
    exact hsame rfl rfl rfl id fun hstatus hfinal => .inr ⟨hstatus, hfinal⟩
  | storeCharge ok hstage =>
    cases ok with
    | _ => exact hsame rfl rfl rfl id fun hstatus hfinal => .inr ⟨hstatus, hfinal⟩
  | bulk failReason hquota =>
    have hclear := hok.versions.row.clear_of_zero hquota
    exact hsame rfl rfl rfl (fun _ => rfl) fun _ _ => .inl (hclear' hclear)
  | answer pass task item plan row won copies htask hplan hwrite _ hfinished _ =>
    obtain ⟨rfl, rfl⟩ | ⟨hstatus, rfl, rfl⟩ := hwrite
    · exact hsame rfl rfl rfl id fun hstatus hfinal => .inr ⟨hstatus, hfinal⟩
    have htaskv := hok.versions.copies task htask
    by_cases hfinal : r.row.progress = "100%"
    · -- The row was finished: only the pass that returned the quota writes it again.
      obtain ⟨hzero, hprogress⟩ := hfinished hfinal hstatus
      have hreturns : plan.shouldReturnQuota = false := by
        by_contra hreturns
        exact (hplan.returns (by simpa using hreturns)).1 (hplan.quota.trans hzero)
      refine hsame rfl ?_ rfl (fun _ => hplan.finished hprogress) fun _ _ => ?_
      · simp [hreturns]
      · exact .inl (hclear' (htaskv.clear_of_zero hzero))
    · obtain ⟨hledger, hnone⟩ := h.not_begun hfinal
      by_cases hreturns : plan.shouldReturnQuota = false
      · refine hsame rfl ?_ rfl (fun hfinal' => absurd hfinal' hfinal) fun hfailure hend => ?_
        · simp [hreturns]
        · have hzero := hplan.keeps hreturns hfailure hend
          exact .inl (hclear' (htaskv.clear_of_zero hzero))
      · rw [Bool.not_eq_false] at hreturns
        have hend := (hplan.returns hreturns).2
        simp only [hnone, hreturns, Bool.and_self, if_true]
        have htoken := h.tokenOnce.resolve_right fun hone => hone.2.1 hledger
        refine ⟨.inl hledger, fun _ => hend, ?_, by simp, fun _ _ => .inr (by simp), .inl htoken⟩
        intro refund hrefund
        have heq : refund = (pass, plan.task, .funding) := by simpa using hrefund
        subst heq
        exact ⟨hend, by simp [hledger]⟩
  | refundFunding pass task htask =>
    obtain ⟨hversion, hquota⟩ := hok.versions.refunds _ htask
    obtain ⟨hend, hfunding⟩ := h.underway _ htask
    have hreturned : r.ledger.refunds ++ moved task.account task.quota =
        [(r.account, r.sub.marker)] := by
      rw [hfunding.1 rfl, moved, if_neg hquota, hversion.account_eq, hversion.eq_marker hquota]
      rfl
    have htoken := h.tokenOnce.resolve_right fun hone => hone.2.1 (hfunding.1 rfl)
    rw [hreturned, h.advance htask]
    refine ⟨.inr rfl, fun _ => hend, ?_, by simp, fun _ _ => .inr (by simp), .inl htoken⟩
    intro refund hrefund
    cases hrefund
    exact ⟨hend, by simp⟩
  | refundToken pass task ok htask _ =>
    obtain ⟨hend, hfunding⟩ := h.underway _ htask
    have hreturned : r.ledger.refunds ≠ [] := fun hnil => nomatch hfunding.2 hnil
    have htoken : r.ledger.tokenRefunds = [] :=
      h.tokenOnce.resolve_right fun hone => nomatch hone.2.2 _ htask
    rw [h.advance htask]
    refine ⟨?_, fun _ => hend, ?_, by simp, fun _ _ => .inr (by simp), ?_⟩
    · split <;> exact h.refunds
    · intro refund hrefund
      cases hrefund
      refine ⟨hend, ?_⟩
      split <;> simp [hreturned]
    · split
      · right
        refine ⟨?_, hreturned, by simp⟩
        rw [htoken, moved, if_neg (hok.versions.refunds _ htask).2]
        rfl
      · exact .inl htoken
  | storeRefund pass task ok copies htask _ =>
    obtain ⟨hend, hfunding⟩ := h.underway _ htask
    have hreturned : r.ledger.refunds ≠ [] := fun hnil => nomatch hfunding.2 hnil
    have hnone : r.refunds \ {(pass, task, .store)} = ∅ := by
      rw [h.one.eq_singleton_of_mem htask, Set.sdiff_self]
    rw [hnone]
    refine ⟨h.refunds, fun _ => ?_, fun _ hrefund => hrefund.elim, Set.subsingleton_empty,
      fun _ _ => ?_, ?_⟩
    · cases ok <;> exact hend
    · exact .inl (.inr (.inr hreturned))
    · exact h.tokenOnce.imp_right fun hone => ⟨hone.1, hone.2.1, fun _ hrefund => hrefund.elim⟩

/-- A row in order stays in order. -/
theorem RowOk.step (hok : RowOk r) (hstep : RowStep tokens r r') : RowOk r' :=
  ⟨hok.step_versions hstep, hok.step_charging hstep, hok.step_refunding hstep⟩

/-- The charge of a row in order is returned at most once; when the row is stored as a
failure and no refund is under way, it has been returned. -/
theorem RowOk.returned_once (hok : RowOk r) :
    r.ledger.refunds.length ≤ 1 ∧ r.ledger.tokenRefunds.length ≤ 1 ∧
      (r.ledger.charges ≠ [] → r.row.status = "FAILURE" → r.row.progress = "100%" →
        r.refunds = ∅ → r.ledger.refunds = r.ledger.charges) := by
  have htoken : r.ledger.tokenRefunds.length ≤ 1 := by
    obtain hnil | hone := hok.refunding.tokenOnce
    · simp [hnil]
    · exact hone.1.le
  obtain hnil | hone := hok.refunding.refunds
  · refine ⟨by simp [hnil], htoken, fun hcharged hstatus hfinal hnone => ?_⟩
    obtain ⟨hmarker, hstage, hcharges⟩ := hok.charging.charges.resolve_left hcharged
    obtain hclear | hbegun := hok.refunding.failed hstatus hfinal
    · obtain hzero | ⟨huncharged, -⟩ | hreturned := hclear
      · exact absurd hzero hmarker
      · exact absurd huncharged hcharged
      · exact absurd hnil hreturned
    · exact absurd hnone hbegun.ne_empty
  · refine ⟨by simp [hone], htoken, fun hcharged _ _ _ => ?_⟩
    rw [hone, (hok.charging.charges.resolve_left hcharged).2.2]

/-! ## Refunds of the token -/

/-- What the token of a submission has been charged, once that is decided. -/
def Submission.tokenCharge (sub : Submission) : List (ℕ × ℤ) :=
  if 0 < sub.task.tokenId then moved sub.task.tokenId sub.marker else []

/-- A refund is begun only after the submission is through, with the token it has charged;
when it is past the token, the token has got its charge back. -/
structure TokenOk (r : RowState) : Prop where
  key : r.sub.info.isPlayground = false → 0 < r.sub.info.tokenId
  before : r.sub.stage = .funding ∨ r.sub.stage = .token → r.ledger.tokenCharges = []
  after : r.sub.stage = .store ∨ r.sub.stage = .done →
    r.ledger.tokenCharges = r.sub.tokenCharge
  settled : r.refunds.Nonempty ∨ r.ledger.refunds ≠ [] → r.sub.stage = .done
  known : ∀ refund ∈ r.refunds, refund.2.2 ≠ .store →
    refund.2.1.tokenId = r.sub.task.tokenId ∧ r.ledger.tokenRefunds = []
  unreturned : r.ledger.refunds = [] → r.ledger.tokenRefunds = []
  returned : r.ledger.refunds ≠ [] → (∀ refund ∈ r.refunds, refund.2.2 = .store) →
    r.ledger.tokenRefunds = r.ledger.tokenCharges

/-- A step of the submission: no refund has been begun, and none is. -/
theorem TokenOk.of_submission (h : TokenOk r) (hstage : r.sub.stage ≠ .done)
    (hinfo : r'.sub.info = r.sub.info)
    (hrefunds : r'.refunds = r.refunds) (hledger : r'.ledger.refunds = r.ledger.refunds)
    (htokens : r'.ledger.tokenRefunds = r.ledger.tokenRefunds)
    (hbefore : r'.sub.stage = .funding ∨ r'.sub.stage = .token → r'.ledger.tokenCharges = [])
    (hafter : r'.sub.stage = .store ∨ r'.sub.stage = .done →
      r'.ledger.tokenCharges = r'.sub.tokenCharge) : TokenOk r' := by
  have hnone : ¬ (r'.refunds.Nonempty ∨ r'.ledger.refunds ≠ []) := by
    rw [hrefunds, hledger]
    exact fun hbegun => hstage (h.settled hbegun)
  refine ⟨by rw [hinfo]; exact h.key, hbefore, hafter, fun hbegun => absurd hbegun hnone, ?_,
    ?_, fun hreturned => absurd (.inr hreturned) hnone⟩
  · intro refund hrefund
    exact absurd (.inl ⟨refund, hrefund⟩) hnone
  · intro hnil
    rw [htokens]
    exact h.unreturned (hledger ▸ hnil)

theorem TokenOk.step (h : TokenOk r) (hok : RowOk r) (hstep : RowStep true r r') : TokenOk r' := by
  have hok' := (hok.step hstep).refunding
  cases hstep with
  | quiet | bulk =>
    exact { h with }
  | charge account hstage _ =>
    exact h.of_submission (by simp [hstage]) rfl rfl rfl rfl
      (fun _ => h.before (.inl hstage)) (by simp)
  | refuse hstage =>
    exact h.of_submission (by simp [hstage]) rfl rfl rfl rfl (by simp)
      fun _ => h.before (.inl hstage)
  | chargeToken hstage hkey =>
    refine h.of_submission (by simp [hstage]) rfl rfl rfl rfl (by simp) fun _ => ?_
    dsimp only [Submission.tokenCharge]
    rw [h.before (.inr hstage), hok.charging.marker (.inr hstage), if_pos (h.key hkey)]
    rfl
  | skipToken hstage =>
    exact h.of_submission (by simp [hstage]) rfl rfl rfl rfl (by simp)
      fun _ => h.before (.inr hstage)
  | storeCharge ok hstage =>
    exact h.of_submission (by simp [hstage]) rfl rfl rfl rfl (by simp)
      fun _ => h.after (.inl hstage)
  | answer pass task item plan row won copies _ hplan _ _ _ htoken =>
    by_cases hbegins : (won && plan.shouldReturnQuota) = true
    · rw [if_pos hbegins] at hok' ⊢
      have hquota : task.quota ≠ 0 := by
        rw [← hplan.quota]
        exact (hplan.returns (Bool.and_eq_true_iff.1 hbegins).2).1
      obtain ⟨hdone, htokenId⟩ := htoken rfl hquota
      have hnil : r.ledger.refunds = [] :=
        (hok'.underway _ (Set.mem_insert _ _)).2.1 rfl
      refine ⟨h.key, h.before, h.after, fun _ => hdone, ?_, h.unreturned,
        fun hreturned => absurd hnil hreturned⟩
      intro refund hrefund hstage
      obtain heq | hmem := hrefund
      · subst heq
        exact ⟨hplan.tokenId.trans htokenId, h.unreturned hnil⟩
      · exact h.known refund hmem hstage
    · rw [if_neg hbegins]
      exact { h with }
  | refundFunding pass task htask =>
    have hdone := h.settled (.inl ⟨_, htask⟩)
    have hold := h.known _ htask nofun
    refine ⟨h.key, h.before, h.after, fun _ => hdone, ?_, fun _ => hold.2, ?_⟩
    · rw [hok.refunding.advance htask]
      intro refund hrefund _
      cases hrefund
      exact hold
    · intro _ hstore
      exact nomatch hstore _ (Set.mem_insert _ _)
  | refundToken pass task ok htask hgiven =>
    obtain ⟨hversion, hquota⟩ := hok.versions.refunds _ htask
    have hdone := h.settled (.inl ⟨_, htask⟩)
    obtain ⟨htokenId, hnil⟩ := h.known _ htask nofun
    have hreturned : r.ledger.refunds ≠ [] := fun hnil =>
      nomatch (hok.refunding.underway _ htask).2.2 hnil
    have hcharged : r.ledger.tokenCharges =
        if 0 < task.tokenId then moved task.tokenId task.quota else [] := by
      rw [h.after (.inr hdone), Submission.tokenCharge, hversion.eq_marker hquota, htokenId]
    rw [hok.refunding.advance htask, hgiven rfl, hnil, List.nil_append]
    by_cases hkey : 0 < task.tokenId
    · rw [if_pos ⟨hkey, rfl⟩]
      refine ⟨h.key, h.before, h.after, fun _ => hdone, ?_, fun hnil => absurd hnil hreturned,
        fun _ _ => ?_⟩
      · intro refund hrefund hstage
        cases hrefund
        exact absurd rfl hstage
      · rw [hcharged, if_pos hkey]
    · rw [if_neg fun hboth => hkey hboth.1]
      refine ⟨h.key, h.before, h.after, fun _ => hdone, ?_, h.unreturned, fun _ _ => ?_⟩
      · intro refund hrefund hstage
        cases hrefund
        exact absurd rfl hstage
      · rw [hcharged, if_neg hkey, hnil]
  | storeRefund pass task ok copies htask _ =>
    have hdone := h.settled (.inl ⟨_, htask⟩)
    have hone := hok.refunding.one.eq_singleton_of_mem htask
    refine ⟨h.key, h.before, h.after, fun _ => hdone, fun refund hrefund => ?_, h.unreturned,
      fun hreturned _ => ?_⟩
    · exact h.known refund hrefund.1
    refine h.returned hreturned fun refund hrefund => ?_
    rw [hone] at hrefund
    cases hrefund
    rfl

/-- When no refund is under way, the token of a row whose charge was returned has got its
part back. -/
theorem TokenOk.returned_token (h : TokenOk r) (hreturned : r.ledger.refunds ≠ [])
    (hnone : r.refunds = ∅) : r.ledger.tokenRefunds = r.ledger.tokenCharges := by
  refine h.returned hreturned fun refund hrefund => ?_
  rw [hnone] at hrefund
  exact absurd hrefund (Set.notMem_empty refund)

end OmniRouters.Mj
