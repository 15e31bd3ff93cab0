import Mathlib.Algebra.Order.Group.Int
import OmniRouters.Lib.Threads

/-!
# System tasks and their lease (`model/system_task.go`, lines 91-124 and 229-423)

The tasks of one type, the row of `system_task_locks` for the type, and any number of calls by any
number of runners. Each call reads the clock when it starts, and its SQL statements are executed
one by one at later times; a call that stops is one that takes no further step.

* `step_moves`: the transitions of a task.
* `lease_protocol`: tasks only move forward, the first runner keeps a task, only one task and
  runner hold the lease, and a lapsed lease lets nothing through.
* `lease_revived`: a renewal that has read the clock before the end of the lease revives it, and so
  does a second claim of the runner.
* `running_locked`: a running task has the lock, if claims are prompt.
* `running_unlocked`: a late claim leaves a running task without a lock.
-/

namespace OmniRouters.SystemTask

open OmniRouters.Lib

/-- `SystemTaskStatus`. -/
inductive Status
  | pending
  | running
  | succeeded
  | failed
deriving DecidableEq

/-- `SystemTask`, whose id is its position; `activeKey` is the type while it is set. -/
structure Task where
  status : Status := .pending
  activeKey : Bool := true
  lockedBy : Option ℕ := none
deriving DecidableEq

/-- `SystemTaskLock`. -/
structure Lock where
  taskID : ℕ
  lockedBy : ℕ
  lockedUntil : ℤ
deriving DecidableEq

/-- The rows of one type; the primary key of the locks is the type. -/
structure Shared where
  clock : ℤ
  tasks : List Task := []
  lock : Option Lock := none

/-- The arguments of `ClaimSystemTask`. -/
structure Claim where
  id : ℕ
  runnerID : ℕ
  lockUntil : ℤ
deriving DecidableEq

/-- The lock that a claim writes. -/
def Claim.lock (claim : Claim) : Lock := ⟨claim.id, claim.runnerID, claim.lockUntil⟩

/-- The calls at the points between their statements, with the time they have read. -/
inductive Call
  | create
  | claim (claim : Claim)
  | claimFind (claim : Claim) (now : ℤ)
  | claimInsert (claim : Claim) (now : ℤ)
  | claimExisting (claim : Claim) (now : ℤ)
  | claimTake (claim : Claim) (now : ℤ) (existing : ℕ)
  | claimExpire (claim : Claim) (expired : ℕ)
  | claimStart (claim : Claim)
  | update (taskID lockedBy : ℕ)
  | updateWhere (taskID lockedBy : ℕ) (now : ℤ) (recount : Bool)
  | renew (taskID lockedBy : ℕ) (lockUntil : ℤ)
  | renewWhere (taskID lockedBy : ℕ) (lockUntil now : ℤ)
  | finish (taskID lockedBy : ℕ) (succeeded : Bool)
  | finishWhere (taskID lockedBy : ℕ) (succeeded : Bool) (now : ℤ)
  | release (taskID lockedBy : ℕ)
  | expire
  | expireFind (now : ℤ)
  | expireMark (lock : Lock) (now : ℤ)
  | expireDelete (lock : Lock) (now : ℤ)
deriving DecidableEq

/-- What is left open about a step: the time that passes before it, whether its statement fails,
and whether an accepted update changes no column. -/
structure Choice where
  elapsed : ℕ := 0
  fails : Bool := false
  unchanged : Bool := false

namespace Shared

variable (s : Shared) (id lockedBy : ℕ)

def tick (elapsed : ℕ) : Shared := { s with clock := s.clock + elapsed }

/-- The task has the status. -/
def has (status : Status) : Bool := s.tasks[id]?.any (·.status = status)

/-- `task_id = ? AND locked_by = ? AND locked_until >= ?` on the lock. -/
def holds (now : ℤ) : Bool :=
  s.lock.any fun lock => lock.taskID = id && lock.lockedBy = lockedBy && now ≤ lock.lockedUntil

/-- The conditions of `UpdateSystemTaskState` and `FinishSystemTask`. -/
def accepts (now : ℤ) : Bool :=
  s.tasks[id]?.any (fun task => task.status = .running && task.lockedBy = some lockedBy) &&
    s.holds id lockedBy now

/-- The update of a pending task by a claim (lines 250-256). -/
def start : Shared :=
  { s with tasks := s.tasks.modify id fun task => if task.status = .pending then
      { task with status := .running, lockedBy := some lockedBy } else task }

/-- The end of a running task: by `FinishSystemTask` or `MarkSystemTaskLeaseExpired`. -/
def close (status : Status) : Shared :=
  { s with tasks := s.tasks.modify id fun task => if task.status = .running then
      { task with status := status, activeKey := false } else task }

/-- `ReleaseSystemTaskLock`. -/
def release : Shared :=
  { s with lock := s.lock.filter fun lock => !(lock.taskID = id && lock.lockedBy = lockedBy) }

end Shared

/-- One statement of a call. -/
def statement (c : Choice) (s : Shared) : Call → Shared × List Call
  | .create =>
    if c.fails || s.tasks.any (·.activeKey) then (s, [])
    else ({ s with tasks := s.tasks ++ [{}] }, [])
  | .claim claim => (s, [.claimFind claim s.clock])
  | .claimFind claim now =>
    (s, if c.fails || !s.has claim.id .pending then [] else [.claimInsert claim now])
  | .claimInsert claim now =>
    if c.fails || s.lock.isSome then (s, [.claimExisting claim now])
    else ({ s with lock := some claim.lock }, [.claimStart claim])
  | .claimExisting claim now =>
    match s.lock with
    | some lock => (s, if c.fails || now ≤ lock.lockedUntil then []
        else [.claimTake claim now lock.taskID])
    | none => (s, [])
  | .claimTake claim now existing =>
    match s.lock with
    | some lock =>
      if c.fails || now ≤ lock.lockedUntil then (s, [])
      else ({ s with lock := some claim.lock },
        [if existing ≠ claim.id then .claimExpire claim existing else .claimStart claim])
    | none => (s, [])
  | .claimExpire claim expired =>
    if c.fails then (s, [.release claim.id claim.runnerID])
    else (s.close expired .failed, [.claimStart claim])
  | .claimStart claim =>
    if c.fails || !s.has claim.id .pending then (s, [.release claim.id claim.runnerID])
    else (s.start claim.id claim.runnerID, [])
  | .update taskID lockedBy => (s, [.updateWhere taskID lockedBy s.clock false])
  | .updateWhere taskID lockedBy now recount =>
    if recount || c.fails || (s.accepts taskID lockedBy now && !c.unchanged) then (s, [])
    else (s, [.updateWhere taskID lockedBy now true])
  | .renew taskID lockedBy lockUntil => (s, [.renewWhere taskID lockedBy lockUntil s.clock])
  | .renewWhere taskID lockedBy lockUntil now =>
    if c.fails || !s.holds taskID lockedBy now then (s, [])
    else ({ s with lock := some ⟨taskID, lockedBy, lockUntil⟩ }, [])
  | .finish taskID lockedBy succeeded => (s, [.finishWhere taskID lockedBy succeeded s.clock])
  | .finishWhere taskID lockedBy succeeded now =>
    if c.fails || !s.accepts taskID lockedBy now then (s, [])
    else (s.close taskID (if succeeded then .succeeded else .failed), [.release taskID lockedBy])
  | .release taskID lockedBy => (if c.fails then s else s.release taskID lockedBy, [])
  | .expire => (s, [.expireFind s.clock])
  | .expireFind now =>
    match s.lock with
    | some lock => (s, if c.fails || now ≤ lock.lockedUntil then [] else [.expireMark lock now])
    | none => (s, [])
  | .expireMark lock now =>
    if c.fails then (s, []) else (s.close lock.taskID .failed, [.expireDelete lock now])
  | .expireDelete lock now =>
    if c.fails || s.holds lock.taskID lock.lockedBy now then (s, [])
    else (s.release lock.taskID lock.lockedBy, [])

/-- A step: some time passes, then the next statement of the call is executed. -/
def advance (c : Choice) (s : Shared) (call : Call) : Option (Shared × List Call) :=
  some (statement c (s.tick c.elapsed) call)

theorem advance_eq {c : Choice} {s s' : Shared} {call : Call} {calls : List Call}
    (h : advance c s call = some (s', calls)) : s' = (statement c (s.tick c.elapsed) call).1 ∧
      calls = (statement c (s.tick c.elapsed) call).2 := by
  have heq := Option.some.inj h
  exact ⟨congrArg Prod.fst heq.symm, congrArg Prod.snd heq.symm⟩

/-- **Inversion.** What a statement can do to the rows. -/
inductive Effect (s : Shared) : Call → Shared → Prop
  | none (call : Call) : Effect s call s
  | create (h : s.tasks.any (·.activeKey) = false) :
      Effect s .create { s with tasks := s.tasks ++ [{}] }
  | insert (claim : Claim) (now : ℤ) (h : s.lock.isSome = false) :
      Effect s (.claimInsert claim now) { s with lock := some claim.lock }
  | take (claim : Claim) (now : ℤ) (existing : ℕ) :
      Effect s (.claimTake claim now existing) { s with lock := some claim.lock }
  | expireOld (claim : Claim) (expired : ℕ) :
      Effect s (.claimExpire claim expired) (s.close expired .failed)
  | start (claim : Claim) : Effect s (.claimStart claim) (s.start claim.id claim.runnerID)
  | renew (taskID lockedBy : ℕ) (lockUntil now : ℤ) (h : s.holds taskID lockedBy now = true) :
      Effect s (.renewWhere taskID lockedBy lockUntil now)
        { s with lock := some ⟨taskID, lockedBy, lockUntil⟩ }
  | finish (taskID lockedBy : ℕ) (succeeded : Bool) (now : ℤ) :
      Effect s (.finishWhere taskID lockedBy succeeded now)
        (s.close taskID (if succeeded then .succeeded else .failed))
  | release (taskID lockedBy : ℕ) : Effect s (.release taskID lockedBy) (s.release taskID lockedBy)
  | mark (lock : Lock) (now : ℤ) : Effect s (.expireMark lock now) (s.close lock.taskID .failed)
  | delete (lock : Lock) (now : ℤ) (h : s.holds lock.taskID lock.lockedBy now = false) :
      Effect s (.expireDelete lock now) (s.release lock.taskID lock.lockedBy)

theorem statement_effect (c : Choice) (s : Shared) (call : Call) :
    Effect s call (statement c s call).1 := by
  cases call <;> grind [statement, Effect]

/-- The transitions of a task: it is claimed, or it ends. -/
def Moves (task task' : Task) : Prop :=
  task.status = .pending ∧ task'.status = .running ∨
    task.status = .running ∧ (task'.status = .succeeded ∨ task'.status = .failed) ∧
      task'.lockedBy = task.lockedBy

section Step

variable {c : Choice} {s s' : Shared} {call : Call} {calls : List Call} {id : ℕ} {task : Task}

theorem close_moves (h : s.tasks[id]? = some task) (id' : ℕ) {status : Status}
    (hstatus : status = .succeeded ∨ status = .failed) :
    ∃ task', (s.close id' status).tasks[id]? = some task' ∧ (task' = task ∨ Moves task task') := by
  grind [Moves, Shared.close]

theorem Effect.moves (he : Effect s call s') (h : s.tasks[id]? = some task) :
    ∃ task', s'.tasks[id]? = some task' ∧ (task' = task ∨ Moves task task') := by
  cases he with
  | create => exact ⟨task, by grind, .inl rfl⟩
  | start claim => grind [Moves, Shared.start]
  | expireOld | mark => exact close_moves h _ (.inr rfl)
  | finish taskID lockedBy succeeded now => exact close_moves h _ (by cases succeeded <;> simp)
  | _ => exact ⟨task, h, .inl rfl⟩

end Step

/-! ## The lapsed lease -/

section Lapsed

variable {s s' : Shared} {call : Call} {id lockedBy : ℕ} {now now' : ℤ}

theorem Effect.clock (he : Effect s call s') : s'.clock = s.clock := by
  cases he <;> rfl

theorem holds_iff : s.holds id lockedBy now = true ↔ ∃ lock, s.lock = some lock ∧
    lock.taskID = id ∧ lock.lockedBy = lockedBy ∧ now ≤ lock.lockedUntil := by
  simp [Shared.holds, Option.any_eq_true, and_assoc]

theorem release_lock {lock : Lock} : (s.release id lockedBy).lock = some lock ↔
    s.lock = some lock ∧ ¬ (lock.taskID = id ∧ lock.lockedBy = lockedBy) := by
  simp [Shared.release, Option.filter_eq_some_iff, imp_iff_not_or]

/-- One task and one runner hold the lease. -/
theorem holds_unique {id' lockedBy' : ℕ} (h : s.holds id lockedBy now = true)
    (h' : s.holds id' lockedBy' now' = true) : id = id' ∧ lockedBy = lockedBy' := by
  obtain ⟨lock, hlock, rfl, rfl, -⟩ := holds_iff.1 h
  obtain ⟨lock', hlock', rfl, rfl, -⟩ := holds_iff.1 h'
  obtain rfl := Option.some.inj (hlock.symm.trans hlock')
  exact ⟨rfl, rfl⟩

theorem holds_mono (h : s.holds id lockedBy now = false) (hle : now ≤ now') :
    s.holds id lockedBy now' = false := by
  rw [← Bool.not_eq_true, holds_iff] at h ⊢
  grind

/-- The call is no renewal that has read the clock within the lease of the task and runner, and no
claim of theirs that has found the task pending. -/
def Call.Late (s : Shared) (id lockedBy : ℕ) : Call → Prop
  | .claimInsert cl _ | .claimExisting cl _ | .claimTake cl _ _ | .claimExpire cl _
  | .claimStart cl => ¬ (cl.id = id ∧ cl.runnerID = lockedBy)
  | .renewWhere taskID runner _ now =>
    taskID = id → runner = lockedBy → s.holds id lockedBy now = false
  | _ => True

/-- The lease has ended, for a task that has been claimed. -/
def Shared.Lapsed (s : Shared) (id lockedBy : ℕ) : Prop :=
  (∃ task, s.tasks[id]? = some task ∧ task.status ≠ .pending) ∧
    s.holds id lockedBy s.clock = false

theorem Call.Late.mono (h : call.Late s id lockedBy) (hkeep : ∀ now,
    s.holds id lockedBy now = false → s'.holds id lockedBy now = false) :
    call.Late s' id lockedBy := by
  cases call <;> grind [Call.Late]

theorem Effect.holds (he : Effect s call s') (hlate : call.Late s id lockedBy)
    (h : s.holds id lockedBy now = false) : s'.holds id lockedBy now = false := by
  rw [← Bool.not_eq_true, holds_iff] at h ⊢
  cases he with
  | insert | take => grind [Call.Late, Claim.lock]
  | renew taskID runner lockUntil t hholds => grind [Call.Late]
  | release | delete => grind [release_lock]
  | _ => exact h

theorem statement_late (c : Choice) (hs : s.Lapsed id lockedBy) (hlate : call.Late s id lockedBy) :
    ∀ call' ∈ (statement c s call).2, call'.Late s id lockedBy := by
  obtain ⟨⟨task, htask, hstatus⟩, hend⟩ := hs
  cases call <;> simp only [statement] <;> grind [Call.Late, Shared.has]

end Lapsed

/-! ## Runs -/

/-- A run of any calls, their statements in any order and at any times. -/
abbrev Run : Pool Shared Call → Pool Shared Call → Prop :=
  Exec (Pool.step advance) (Pool.Meets fun _ _ _ => True)

section Runs

variable {p q : Pool Shared Call} {id lockedBy : ℕ}

theorem step_moves {a : ℕ × Choice} {task : Task} (hstep : Pool.step advance p a = some q)
    (h : p.shared.tasks[id]? = some task) :
    ∃ task', q.shared.tasks[id]? = some task' ∧ (task' = task ∨ Moves task task') := by
  obtain ⟨call, calls, -, -, hadvance, -⟩ := Pool.step_cases hstep
  rw [(advance_eq hadvance).1]
  exact (statement_effect a.2 (p.shared.tick a.2.elapsed) call).moves h

/-- A task that has been claimed keeps its runner. -/
theorem run_claimed {task : Task} (hrun : Run p q) (h : p.shared.tasks[id]? = some task)
    (hclaimed : task.status ≠ .pending) : ∃ task', q.shared.tasks[id]? = some task' ∧
      task'.status ≠ .pending ∧ task'.lockedBy = task.lockedBy := by
  refine Exec.invariant (I := fun q => ∃ task', q.shared.tasks[id]? = some task' ∧
    task'.status ≠ .pending ∧ task'.lockedBy = task.lockedBy) ?_ ⟨task, h, hclaimed, rfl⟩ hrun
  rintro r a r' ⟨task', htask', hstatus, hrunner⟩ - hstep
  obtain ⟨task'', htask'', rfl | hmoves⟩ := step_moves hstep htask'
  · exact ⟨task'', htask'', hstatus, hrunner⟩
  · exact ⟨task'', htask'', by grind [Moves], by grind [Moves]⟩

/-- A lease that has ended is not revived. -/
theorem run_lapsed (hrun : Run p q) (hp : p.shared.Lapsed id lockedBy)
    (hlate : ∀ call ∈ p.threads, call.Late p.shared id lockedBy) :
    q.shared.holds id lockedBy p.shared.clock = false := by
  refine (Pool.local_invariant (L := fun s call => call.Late s id lockedBy)
    (G := fun s => s.Lapsed id lockedBy ∧ s.holds id lockedBy p.shared.clock = false)
    (R := fun s s' => ∀ now, s.holds id lockedBy now = false → s'.holds id lockedBy now = false)
    ?_ ?_ ⟨hp, hp.2⟩ hlate hrun).1.2
  · exact fun s s' call hkeep h => h.mono hkeep
  rintro r c call s' calls - ⟨⟨⟨task, htask, hstatus⟩, hend⟩, hfirst⟩ hcall hadvance
  obtain ⟨rfl, rfl⟩ := advance_eq hadvance
  have hs : (r.shared.tick c.elapsed).Lapsed id lockedBy :=
    ⟨⟨task, htask, hstatus⟩, holds_mono hend (by simp [Shared.tick])⟩
  have hlate' : call.Late (r.shared.tick c.elapsed) id lockedBy := by
    cases call <;> exact hcall
  have heffect := statement_effect c (r.shared.tick c.elapsed) call
  have hkeep : ∀ now, r.shared.holds id lockedBy now = false →
      (statement c (r.shared.tick c.elapsed) call).1.holds id lockedBy now = false :=
    fun now h => heffect.holds hlate' h
  refine ⟨⟨⟨?_, ?_⟩, hkeep _ hfirst⟩, hkeep,
    fun call' hcall' => (statement_late c hs hlate' call' hcall').mono hkeep⟩
  · obtain ⟨task', htask', rfl | hmoves⟩ := heffect.moves htask
    · exact ⟨task', htask', hstatus⟩
    · exact ⟨task', htask', by grind [Moves]⟩
  · rw [heffect.clock]
    exact heffect.holds hlate' hs.2

/-- The tasks move from pending to running to succeeded or failed and keep the runner that has
claimed them; one task and runner at a time pass the condition of renewals, which is also one of
updates and finishes; and from the end of a lease on, nothing that reads the clock then is
accepted, if no earlier renewal is still to be executed. -/
theorem lease_protocol (p : Pool Shared Call) :
    (∀ a q (id : ℕ) task, Pool.step advance p a = some q → p.shared.tasks[id]? = some task →
      ∃ task', q.shared.tasks[id]? = some task' ∧ (task' = task ∨ Moves task task')) ∧
    (∀ q (id : ℕ) task, Run p q → p.shared.tasks[id]? = some task → task.status ≠ .pending →
      ∃ task', q.shared.tasks[id]? = some task' ∧ task'.status ≠ .pending ∧
        task'.lockedBy = task.lockedBy) ∧
    (∀ id lockedBy now id' lockedBy' now', p.shared.holds id lockedBy now = true →
      p.shared.holds id' lockedBy' now' = true → id = id' ∧ lockedBy = lockedBy') ∧
    ∀ q id lockedBy now, Run p q → p.shared.Lapsed id lockedBy →
      (∀ call ∈ p.threads, call.Late p.shared id lockedBy) → p.shared.clock ≤ now →
      q.shared.accepts id lockedBy now = false := by
  refine ⟨fun a q id task => step_moves, fun q id task => run_claimed,
    fun id lockedBy now id' lockedBy' now' => holds_unique, ?_⟩
  intro q id lockedBy now hrun hp hlate hnow
  have hends := run_lapsed hrun hp hlate
  simp [Shared.accepts, holds_mono hends hnow]

end Runs

/-- The lease of the runner `1` has ended, with an update under way and another to come. -/
def ended : Pool Shared Call where
  shared := ⟨11, [⟨.running, true, some 1⟩], some ⟨0, 1, 10⟩⟩
  threads := [.updateWhere 0 1 11 false, .update 0 1]

theorem lease_protocol_ended : ended.shared.Lapsed 0 1 ∧
    (∀ call ∈ ended.threads, call.Late ended.shared 0 1) ∧
    ∀ q, Run ended q → q.shared.accepts 0 1 11 = false := by
  have hlapsed : ended.shared.Lapsed 0 1 := ⟨⟨_, rfl, by decide⟩, rfl⟩
  have hlate : ∀ call ∈ ended.threads, call.Late ended.shared 0 1 := by
    simp [ended, Call.Late]
  exact ⟨hlapsed, hlate, fun q hrun =>
    (lease_protocol ended).2.2.2 q 0 1 11 hrun hlapsed hlate le_rfl⟩

/-- A task is created and claimed by the runner `1` until `10`; a renewal and two updates. -/
def renewing : List Call :=
  [.create, .claim ⟨0, 1, 10⟩, .renew 0 1 70, .update 0 1, .update 0 1]

/-- The lease has ended, and the renewal has read the clock before. -/
def lapsed : Pool Shared Call where
  shared := ⟨11, [⟨.running, true, some 1⟩], some ⟨0, 1, 10⟩⟩
  threads := [.renewWhere 0 1 70 10, .updateWhere 0 1 11 false, .update 0 1]

/-- The runner `1` claims the task twice. The first claim has started the task after the end of its
lease, the second had found the task pending before. -/
def reclaimed : Pool Shared Call where
  shared := lapsed.shared
  threads := [.claimInsert ⟨0, 1, 70⟩ 11, .update 0 1]

/-- A lease that has ended is revived by the renewal and by the second claim: the update that is
under way is refused, a later one is accepted. -/
theorem lease_revived : (Run ⟨{ clock := 0 }, renewing⟩ lapsed ∧ lapsed.shared.Lapsed 0 1 ∧
      lapsed.shared.accepts 0 1 11 = false ∧
      ∃ q, Run lapsed q ∧ q.threads = [.updateWhere 0 1 11 false] ∧
        q.shared.accepts 0 1 11 = true) ∧
    Run ⟨{ clock := 0 }, [.create, .claim ⟨0, 1, 10⟩, .claim ⟨0, 1, 70⟩, .update 0 1]⟩ reclaimed ∧
      ∃ q, Run reclaimed q ∧
        q.threads = [.claimStart ⟨0, 1, 70⟩, .updateWhere 0 1 11 false] ∧
        q.shared.accepts 0 1 11 = true := by
  have hbefore : run (guarded (Pool.step advance) (Pool.Meets fun _ _ _ => True))
      ⟨{ clock := 0 }, renewing⟩ [(0, {}), (0, {}), (0, {}), (0, {}), (0, {}),
        (0, { elapsed := 10 }), (1, { elapsed := 1 })] = some lapsed := rfl
  have hclaims : run (guarded (Pool.step advance) (Pool.Meets fun _ _ _ => True))
      ⟨{ clock := 0 }, [.create, .claim ⟨0, 1, 10⟩, .claim ⟨0, 1, 70⟩, .update 0 1]⟩
      [(0, {}), (0, {}), (0, {}), (0, {}), (1, { elapsed := 11 }), (1, {}), (0, {})] =
      some reclaimed := rfl
  refine ⟨⟨Exec.of_run hbefore, ⟨⟨_, rfl, by decide⟩, rfl⟩, rfl, ?_⟩, Exec.of_run hclaims, ?_⟩
  · exact Exec.exists_of_actions [(1, {}), (1, {}), (0, {}), (0, {})] (by decide +kernel)
  · exact Exec.exists_of_actions [(0, {}), (0, {}), (0, {}), (1, {})] (by decide +kernel)

/-! ## The lock of a running task -/

/-- The claims are prompt: a claim that takes an expired lock finds its task pending, one that
starts its task holds its lease, a renewal extends the lease into the future, and a release
finds its task not running. -/
def Prompt (s : Shared) : Call → Prop
  | .claimTake cl _ _ => s.has cl.id .pending = true
  | .claimStart cl => s.holds cl.id cl.runnerID s.clock = true
  | .renewWhere _ _ lockUntil _ => s.clock ≤ lockUntil
  | .release id _ => s.has id .running = false
  | _ => True

instance (s : Shared) (call : Call) : Decidable (Prompt s call) := by
  cases call <;> unfold Prompt <;> infer_instance

/-- A run of prompt claims. -/
abbrev PromptRun : Pool Shared Call → Pool Shared Call → Prop :=
  Exec (Pool.step advance) (Pool.Meets fun p c call => Prompt (p.shared.tick c.elapsed) call)

/-- One task at most is pending or running, and it has the lock if it is running. -/
structure Locked (s : Shared) : Prop where
  unique : ∀ (i j : ℕ) task task', s.tasks[i]? = some task → s.tasks[j]? = some task' →
    task.activeKey = true → task'.activeKey = true → i = j
  active : ∀ (i : ℕ) task, s.tasks[i]? = some task →
    task.status = .pending ∨ task.status = .running → task.activeKey = true
  lock : ∀ i, s.has i .running = true → ∃ lock, s.lock = some lock ∧ lock.taskID = i

/-- An expiry reads the clock, and the lock that it is about to delete is not that of a running
task, or it is not expired any more. -/
def Call.Spares (s : Shared) : Call → Prop
  | .expireFind now | .expireMark _ now => now ≤ s.clock
  | .expireDelete lock now => now ≤ s.clock ∧ (s.has lock.taskID .running = true →
      ∀ l, s.lock = some l → l.taskID = lock.taskID → l.lockedBy = lock.lockedBy →
        now ≤ l.lockedUntil)
  | _ => True

/-- What a step does to the lock of a running task: it leaves it, or the lease is in the future. -/
def Guards (s s' : Shared) : Prop :=
  s.clock ≤ s'.clock ∧ ∀ l, s'.lock = some l → s'.has l.taskID .running = true →
    s.has l.taskID .running = true ∧ s.lock = some l ∨ s'.clock ≤ l.lockedUntil

section Locked

variable {s s' : Shared} {call : Call}

theorem Call.Spares.mono (h : call.Spares s) (hguards : Guards s s') : call.Spares s' := by
  cases call <;> grind [Call.Spares, Guards]

/-- Where the tasks after a statement come from. -/
theorem Effect.origin (he : Effect s call s') {i : ℕ} {task' : Task}
    (h : s'.tasks[i]? = some task') : (∃ task, s.tasks[i]? = some task ∧ (task' = task ∨
        task.status = .pending ∧ task'.activeKey = task.activeKey ∨ task'.activeKey = false ∧
          task'.status ≠ .pending ∧ task'.status ≠ .running)) ∨
      i = s.tasks.length ∧ s.tasks.any (·.activeKey) = false ∧ task' = {} := by
  cases he with
  | create hnone => grind
  | start claim => grind [Shared.start]
  | expireOld | mark | finish => grind [Shared.close]
  | _ => exact .inl ⟨task', h, .inl rfl⟩

/-- A task that runs after a statement ran before it, or the statement has started it. -/
theorem Effect.running (he : Effect s call s') {i : ℕ} (h : s'.has i .running = true) :
    s.has i .running = true ∨ ∃ claim, call = .claimStart claim ∧ i = claim.id := by
  simp only [Shared.has] at h ⊢
  cases he with
  | create hnone => grind
  | start claim => grind [Shared.start]
  | expireOld | mark | finish => grind [Shared.close]
  | _ => exact .inl h

theorem has_iff {i : ℕ} {status : Status} :
    s.has i status = true ↔ ∃ task, s.tasks[i]? = some task ∧ task.status = status := by
  simp [Shared.has, Option.any_eq_true]

/-- A pending and a running task are not both active. -/
theorem Locked.not_pending (hs : Locked s) {i j : ℕ} (hi : s.has i .running = true)
    (hj : s.has j .pending = true) : False := by
  obtain ⟨task, htask, hrunning⟩ := has_iff.1 hi
  obtain ⟨task', htask', hpending⟩ := has_iff.1 hj
  obtain rfl := hs.unique i j task task' htask htask' (hs.active i task htask (.inr hrunning))
    (hs.active j task' htask' (.inl hpending))
  grind

theorem Effect.guards (he : Effect s call s') (hs : Locked s) (hprompt : Prompt s call) :
    Guards s s' := by
  refine ⟨he.clock.ge, fun l hl hrunning => ?_⟩
  have hbefore := he.running hrunning
  have hlock := hs.lock l.taskID
  cases he with
  | insert claim now hnone => grind
  | take claim now existing => grind [Prompt, hs.not_pending]
  | start claim => grind [Prompt, holds_iff, Shared.start]
  | renew taskID lockedBy lockUntil now hholds => grind [Prompt]
  | release | delete => grind [release_lock]
  | _ => grind [Shared.close]

theorem Effect.locked (he : Effect s call s') (hs : Locked s) (hprompt : Prompt s call)
    (hspares : call.Spares s) : Locked s' := by
  refine ⟨fun i j task task' hi hj hkey hkey' => ?_, fun i task hi hstatus => ?_, fun i hi => ?_⟩
  · have := hs.unique
    have := he.origin hi
    have := he.origin hj
    grind
  · have := hs.active
    have := he.origin hi
    grind
  · have hbefore := he.running hi
    have hlock := hs.lock i
    cases he with
    | insert claim now hnone => grind
    | take claim now existing => grind [Prompt, hs.not_pending]
    | start claim => grind [Prompt, holds_iff, Shared.start]
    | renew taskID lockedBy lockUntil now hholds => grind [holds_iff]
    | release taskID lockedBy => grind [Prompt, release_lock]
    | delete lock now hnot => grind [Call.Spares, release_lock, holds_iff]
    | _ => grind [Shared.close]

theorem statement_spares (c : Choice) (hspares : call.Spares s) :
    ∀ call' ∈ (statement c s call).2, call'.Spares (statement c s call).1 := by
  cases call <;> simp only [statement] <;>
    grind [Call.Spares, Shared.has, Shared.close]

end Locked

/-- A call that has not begun. -/
def Call.isNew : Call → Bool
  | .create | .claim _ | .update _ _ | .renew _ _ _ | .finish _ _ _ | .release _ _ | .expire => true
  | _ => false

/-- In every state of every run of prompt claims a running task has the lock, and the expiry of
that lock fails the task and frees the active key. -/
theorem running_locked {clock : ℤ} {calls : List Call} {q : Pool Shared Call}
    (hnew : ∀ call ∈ calls, call.isNew = true) (hrun : PromptRun ⟨{ clock }, calls⟩ q) {id : ℕ}
    (h : q.shared.has id .running = true) :
    ∃ lock, q.shared.lock = some lock ∧ lock.taskID = id ∧
      (q.shared.close lock.taskID .failed).has id .failed = true ∧
      ∀ task ∈ (q.shared.close lock.taskID .failed).tasks, task.activeKey = false := by
  have hinv : Locked q.shared := by
    refine (Pool.local_invariant (G := Locked) (L := fun s call => call.Spares s) (R := Guards)
      (fun s s' call hguards h => h.mono hguards) ?_ ⟨by simp, by simp, by simp [Shared.has]⟩ ?_
      hrun).1
    · intro r c call s' calls hprompt hs hspares hadvance
      obtain ⟨rfl, rfl⟩ := advance_eq hadvance
      have hs' : Locked (r.shared.tick c.elapsed) := { hs with }
      have htick : r.shared.clock ≤ (r.shared.tick c.elapsed).clock := by simp [Shared.tick]
      have hspares' : call.Spares (r.shared.tick c.elapsed) :=
        hspares.mono ⟨htick, fun l hl hrunning => .inl ⟨hrunning, hl⟩⟩
      have heffect := statement_effect c (r.shared.tick c.elapsed) call
      have hguards := heffect.guards hs' hprompt
      exact ⟨heffect.locked hs' hprompt hspares', ⟨htick.trans hguards.1, hguards.2⟩,
        statement_spares c hspares'⟩
    · intro call hcall
      have := hnew call hcall
      cases call <;> simp_all [Call.isNew, Call.Spares]
  obtain ⟨lock, hlock, rfl⟩ := hinv.lock id h
  obtain ⟨task, htask, hrunning⟩ := has_iff.1 h
  refine ⟨lock, hlock, rfl, by grind [Shared.has, Shared.close], fun task' htask' => ?_⟩
  obtain ⟨j, hj⟩ := List.mem_iff_getElem?.1 htask'
  have hunique := hinv.unique lock.taskID j
  have hactive := hinv.active lock.taskID task htask
  grind [Shared.close]

theorem running_locked_claimed : ∃ q, PromptRun ⟨{ clock := 0 }, [.create, .claim ⟨0, 1, 10⟩]⟩ q ∧
    q.shared.has 0 .running = true ∧ ∃ lock, q.shared.lock = some lock ∧ lock.taskID = 0 := by
  refine Exec.exists_and_of_actions (List.replicate 5 (0, {}))
    (by decide +kernel) fun _ hrun hq => ?_
  obtain ⟨lock, hlock, hid, -⟩ := running_locked (by simp [Call.isNew]) hrun hq
  exact ⟨lock, hlock, hid⟩

/-- The lock of a claim expires and is deleted before the claim starts its task. -/
theorem running_unlocked : ∃ q, Run ⟨{ clock := 0 }, [.create, .claim ⟨0, 1, 10⟩, .expire]⟩ q ∧
    q.shared.has 0 .running = true ∧ q.shared.lock = none ∧ q.threads = [] := by
  exact Exec.exists_of_actions [(0, {}), (0, {}), (0, {}), (0, {}), (1, { elapsed := 11 }), (1, {}),
    (1, {}), (1, {}), (0, {})] (by decide +kernel)

end OmniRouters.SystemTask
