import OmniRouters.Lib.Runs
import OmniRouters.Task.Submission

/-!
# Polling of asynchronous tasks

A model of `RunTaskPollingOnce` and `sweepTimedOutTasks` (`service/task_polling.go`) over
the rows of `model/task.go`, with any number of passes and sweeps at work. One step is one
statement on the database, or one adjustment of a funding source.

Each pass polls copies of rows that it read when it began. `UpdateWithStatus` writes a whole
copy back if the stored status is still the one the pass read; `TaskBulkUpdateByID` writes
without that guard. A pass that wins a terminal status settles the task in two further steps,
the adjustment and the write of the quota column.

* `TaskPlan`: what one answer about a task makes the pass do, with
  `updateVideoSingleTask`, `updateBatchTask` and `sweepTimedOutTask`.
* `step`: the steps of all passes and sweeps.
-/

namespace OmniRouters.Task

open OmniRouters.Billing OmniRouters.Lib

/-! ## Rows -/

/-- `billing` part of `PrivateData` that `settleTaskBillingOnComplete` reads: a tiered
snapshot, billing per call, or neither. -/
inductive CompletionBilling
  | tiered
  | perCall
  | usage
deriving DecidableEq

/-- The columns of `model.Task` that polling reads and writes. `upstreamId` is what
`GetUpstreamTaskID` returns. -/
structure PolledTask where
  status : TaskStatus
  progress : String
  quota : ℤ
  submitTime : ℤ
  startTime : ℤ
  finishTime : ℤ
  failReason : String
  platform : String
  channelId : ℕ
  upstreamId : String
  resultURL : String
  data : String
  pluginState : String
  pollFailures : ℕ
  billing : CompletionBilling
deriving DecidableEq

/-- `SUCCESS` or `FAILURE`: `isDone` of the pollers. -/
def TaskStatus.isDone (status : TaskStatus) : Bool :=
  status == .success || status == .failure

/-- `isNonTerminalPollStatus` (task_polling.go:740-747). -/
def isNonTerminalPollStatus : TaskStatus → Bool
  | .notStart | .submitted | .queued | .inProgress => true
  | .failure | .success | .unknown => false

/-- `knownPollStatus` (task_polling.go:731-738). -/
def knownPollStatus : TaskStatus → Bool
  | .unknown => false
  | .notStart | .submitted | .queued | .inProgress | .failure | .success => true

/-- `TaskRefundLegacyCutoff` (task.go:59). -/
def taskRefundLegacyCutoff : ℤ := 1740182400

/-- `isLegacy` of `sweepTimedOutTasks`. -/
def PolledTask.isLegacy (task : PolledTask) : Bool :=
  0 < task.submitTime && task.submitTime < taskRefundLegacyCutoff

/-- The rows `GetAllUnFinishSyncTasks` and `GetTimedOutUnfinishedTasks` select. -/
def PolledTask.unfinished (task : PolledTask) : Bool :=
  task.progress != "100%" && !task.status.isDone

/-- `taskSnapshot.Equal` (task.go:527-537). -/
def PolledTask.snapshotEqual (snap task : PolledTask) : Bool :=
  snap.status == task.status && snap.progress == task.progress &&
  snap.startTime == task.startTime && snap.finishTime == task.finishTime &&
  snap.failReason == task.failReason && snap.resultURL == task.resultURL &&
  snap.data == task.data && snap.pluginState == task.pluginState &&
  snap.pollFailures == task.pollFailures

/-! ## Answers -/

/-- What `settleTaskBillingOnComplete` computes from the answer about a finished task:
the quota of the tiered expression (`none` if it cannot be evaluated), the quota the
adaptor asks for, and the quota of the reported tokens (`none` if none are reported
or the model has no ratio). -/
structure CompletionUsage where
  expressionQuota : Option ℤ
  adaptorQuota : ℤ
  tokenQuota : Option ℤ
deriving DecidableEq

def CompletionUsage.silent (usage : CompletionUsage) : Bool :=
  usage.adaptorQuota ≤ 0 && usage.tokenQuota.isNone

/-- `FailTaskInfo`: the result a pass builds itself for a task it gives up; the adaptor
may still adjust it. -/
def failTaskInfo (adaptorQuota : ℤ) : CompletionUsage :=
  ⟨none, adaptorQuota, none⟩

/-- `relaycommon.TaskInfo`: `status` is `none` for a text that is no status. -/
structure TaskInfo where
  status : Option TaskStatus
  progress : String
  reason : String
  url : String
  pluginState : String
  usage : CompletionUsage
deriving DecidableEq

/-- `classifyPollHTTP` (task_polling.go:714-729). -/
inductive PollClass
  | ok
  | notFound
  | auth
  | transient
  | otherClient
deriving DecidableEq

def classifyPollHTTP (statusCode : ℕ) : PollClass :=
  if 200 ≤ statusCode ∧ statusCode < 300 then .ok
  else if statusCode = 404 ∨ statusCode = 410 then .notFound
  else if statusCode = 401 ∨ statusCode = 403 then .auth
  else if statusCode = 429 ∨ 500 ≤ statusCode then .transient
  else if 400 ≤ statusCode ∧ statusCode < 500 then .otherClient
  else .transient

/-- The answer to one fetch: an error of the transport or of reading the body, or a
response. `ownData` is the data of a body in the gateway's own format, `parsed` what the
body says about the task (`none` if the parser fails), `body` the redacted body. -/
inductive Fetch
  | transport (statusCode : ℕ)
  | response (statusCode : ℕ) (body : String) (ownData : Option String)
      (parsed : Option TaskInfo)
deriving DecidableEq

/-- `BatchTaskResult`: one entry of a batch answer. -/
structure BatchItem where
  info : TaskInfo
  submitTime : ℤ
  startTime : ℤ
  finishTime : ℤ
  data : Option String
deriving DecidableEq

/-- The failures of a poll that are counted, with their names in the log. -/
inductive PollFailure
  | transport
  | auth
  | transient
  | hookError
  | unrecognized
deriving DecidableEq

def PollFailure.text : PollFailure → String
  | transport => "transport_error"
  | auth => "auth"
  | transient => "transient"
  | hookError => "hook_error"
  | unrecognized => "unrecognized"

/-- `pollFailureReason` (task_polling.go:749-758). -/
def pollFailureReason (failure : PollFailure) (statusCode : ℕ) (detail : String) : String :=
  let reason :=
    if 0 < statusCode then
      "poll failed: " ++ failure.text ++ " (HTTP " ++ toString statusCode ++ ")"
    else "poll failed: " ++ failure.text
  if detail ≠ "" then reason ++ ": " ++ detail else reason

/-! ## What a pass does with one task -/

/-- When `finalizeTerminalTask` is called after the write. -/
inductive Finalize
  | never
  | ifWon
  | always
deriving DecidableEq

/-- What an answer makes a pass do: the changed copy, the status that guards its write
(`none` if nothing is written), and whether the task is finalized. -/
structure TaskPlan where
  task : PolledTask
  guard : Option TaskStatus
  finalize : Finalize
  usage : CompletionUsage

/-- Whether a plan goes on to `finalizeTerminalTask`. -/
def TaskPlan.finalizes (plan : TaskPlan) (won : Bool) : Bool :=
  match plan.finalize with
  | .never => false
  | .ifWon => won
  | .always => true

/-- The surroundings of one poll: the clock, `TaskPollMaxFailures`, the detail of an error,
what the adaptor would adjust for a task the pass gives up, and `BuildProxyURL` of the
task. -/
structure PollEnv where
  now : ℤ
  maxFailures : ℤ
  detail : String
  adaptorQuota : ℤ
  proxyURL : String

/-- A terminal time stays once it is set. -/
def PolledTask.finishedAt (task : PolledTask) (now : ℤ) : ℤ :=
  if task.finishTime = 0 then now else task.finishTime

/-- `failTaskFromPoll` (task_polling.go:807-825). -/
def failTaskFromPoll (env : PollEnv) (task : PolledTask) (fromStatus : TaskStatus)
    (reason : String) : TaskPlan where
  task := { task with
    status := .failure, progress := "100%"
    finishTime := task.finishedAt env.now, failReason := reason }
  guard := some fromStatus
  finalize := .ifWon
  usage := failTaskInfo env.adaptorQuota

/-- `recordPollFailure` (task_polling.go:774-792). -/
def recordPollFailure (env : PollEnv) (task : PolledTask) (fromStatus : TaskStatus)
    (failure : PollFailure) (statusCode : ℕ) : TaskPlan :=
  let task := { task with pollFailures := task.pollFailures + 1 }
  if 0 < env.maxFailures ∧ env.maxFailures ≤ task.pollFailures then
    failTaskFromPoll env task fromStatus (pollFailureReason failure statusCode env.detail)
  else ⟨task, some fromStatus, .never, failTaskInfo env.adaptorQuota⟩

/-- The progress a status stands for; `NOT_START` leaves the old one. -/
def statusProgress (old : String) : TaskStatus → String
  | .submitted => "10%"
  | .queued => "20%"
  | .inProgress => "30%"
  | .success | .failure => "100%"
  | .notStart | .unknown => old

/-- The copy after a recognized answer of status `status` (`updateVideoSingleTask`,
lines 545-602). The progress of the answer wins over the one of the status, but not
for a failure. -/
def PolledTask.polled (task : PolledTask) (env : PollEnv) (body : String) (info : TaskInfo)
    (status : TaskStatus) : PolledTask :=
  { task with
    data := body
    pluginState := if info.pluginState ≠ "" then info.pluginState else task.pluginState
    pollFailures := if isNonTerminalPollStatus status then 0 else task.pollFailures
    status := status
    progress :=
      if status ≠ .failure ∧ info.progress ≠ "" then info.progress
      else statusProgress task.progress status
    startTime := if status = .inProgress ∧ task.startTime = 0 then env.now else task.startTime
    finishTime := if status.isDone then task.finishedAt env.now else task.finishTime
    resultURL :=
      if status = .success then
        if info.url ≠ "" ∧ !info.url.startsWith "data:" then info.url else env.proxyURL
      else task.resultURL
    failReason := if status = .failure then info.reason else task.failReason }

/-- What `updateVideoSingleTask` does after it has changed its copy (lines 604-630): a
new terminal status is finalized if the write is won. A terminal status that the copy
had before is finalized whatever the write does. -/
def storePolled (snap task : PolledTask) (usage : CompletionUsage) : TaskPlan :=
  if task.status.isDone ∧ snap.status ≠ task.status then
    ⟨task, some snap.status, .ifWon, usage⟩
  else
    ⟨task, if snap.snapshotEqual task then none else some snap.status,
      if task.status.isDone then .always else .never, usage⟩

/-- The status of an answer that is acted on: one the poller knows, and no unfinished one
in an answer with an error status. -/
def recognizedStatus (statusCode : ℕ) (info : TaskInfo) : Option TaskStatus :=
  info.status.filter fun status =>
    knownPollStatus status &&
      !(classifyPollHTTP statusCode == .otherClient && isNonTerminalPollStatus status)

/-- `updateVideoSingleTask` (task_polling.go:475-633). -/
def updateVideoSingleTask (env : PollEnv) (snap : PolledTask) : Fetch → TaskPlan
  | .transport statusCode => recordPollFailure env snap snap.status .transport statusCode
  | .response statusCode body ownData parsed =>
    match classifyPollHTTP statusCode with
    | .notFound =>
      failTaskFromPoll env snap snap.status
        ("upstream task not found (HTTP " ++ toString statusCode ++ ")")
    | .auth => recordPollFailure env snap snap.status .auth statusCode
    | .transient => recordPollFailure env snap snap.status .transient statusCode
    | .ok | .otherClient =>
      let task := { snap with data := ownData.getD snap.data }
      match parsed with
      | none => recordPollFailure env task snap.status .hookError statusCode
      | some info =>
        match recognizedStatus statusCode info with
        | none => recordPollFailure env task snap.status .unrecognized statusCode
        | some status => storePolled snap (task.polled env body info status) info.usage

/-- The copy after an entry of a batch answer (`updateBatchTasks`, lines 331-366): a
reason makes the task a failure whatever its status. -/
def PolledTask.batched (task : PolledTask) (item : BatchItem) (status : TaskStatus) : PolledTask :=
  let failed := item.info.reason ≠ "" ∨ status = .failure
  { task with
    pollFailures := if isNonTerminalPollStatus status then 0 else task.pollFailures
    pluginState :=
      if item.info.pluginState ≠ "" then item.info.pluginState else task.pluginState
    status := if failed then .failure else status
    failReason := if item.info.reason ≠ "" then item.info.reason else task.failReason
    submitTime := if item.submitTime ≠ 0 then item.submitTime else task.submitTime
    startTime := if item.startTime ≠ 0 then item.startTime else task.startTime
    finishTime := if item.finishTime ≠ 0 then item.finishTime else task.finishTime
    progress :=
      if failed ∨ status = .success then "100%"
      else if item.info.progress ≠ "" then item.info.progress else task.progress
    data := item.data.getD task.data
    resultURL := if item.info.url ≠ "" then item.info.url else task.resultURL }

/-- The body of the loop of `updateBatchTasks` over the answers
(task_polling.go:306-381). -/
def updateBatchTask (env : PollEnv) (snap : PolledTask) (statusCode : ℕ) (item : BatchItem) :
    TaskPlan :=
  match recognizedStatus statusCode item.info with
  | none =>
    recordPollFailure { env with detail := item.info.reason } snap snap.status .unrecognized
      statusCode
  | some status =>
    let task := snap.batched item status
    ⟨task, some snap.status,
      if task.status.isDone ∧ snap.status ≠ task.status then .ifWon else .never,
      item.info.usage⟩

/-- The reasons `sweepTimedOutTasks` stores. -/
def timeoutReason (minutes : ℤ) : String := "任务超时（" ++ toString minutes ++ "分钟）"

def legacyReason : String := "任务超时（旧系统遗留任务，不进行退款，请联系管理员）"

/-- The body of the loop of `sweepTimedOutTasks` (task_polling.go:86-117).
A legacy task loses its quota instead of being refunded; for the others
`RefundTaskQuota` is `finalizeTerminalTask` of a result without usage. -/
def sweepTimedOutTask (now minutes : ℤ) (task : PolledTask) : TaskPlan :=
  let failed := { task with status := .failure, progress := "100%", finishTime := now }
  if task.isLegacy then
    ⟨{ failed with failReason := legacyReason, quota := 0 }, some task.status, .never,
      failTaskInfo 0⟩
  else
    ⟨{ failed with failReason := timeoutReason minutes }, some task.status, .ifWon,
      failTaskInfo 0⟩

/-! ## Settling a finished task -/

/-- What `settleTaskBillingOnComplete` decides: nothing, to keep the charge, or to move it
to another quota. -/
inductive Settlement
  | notSettled
  | keep
  | recalculate (actualQuota : ℤ)
deriving DecidableEq

/-- `settleTaskBillingOnComplete` (task_polling.go:671-712). -/
def settleTaskBillingOnComplete (task : PolledTask) (usage : CompletionUsage) : Settlement :=
  match task.billing with
  | .tiered =>
    if task.status = .failure then .notSettled
    else
      match usage.expressionQuota with
      | none => .keep
      | some actualQuota => .recalculate actualQuota
  | .perCall => .notSettled
  | .usage =>
    if 0 < usage.adaptorQuota then .recalculate usage.adaptorQuota
    else
      match usage.tokenQuota with
      | some actualQuota => .recalculate actualQuota
      | none => .notSettled

/-- The quota `finalizeTerminalTask` (lines 635-643) moves the charge of a task to, through
`RecalculateTaskQuota` or `RefundTaskQuota`; `none` if neither adjusts the funding. -/
def finalQuota (task : PolledTask) (usage : CompletionUsage) : Option ℤ :=
  match settleTaskBillingOnComplete task usage with
  | .keep => none
  | .recalculate actualQuota =>
    if actualQuota < 0 ∨ actualQuota = task.quota then none else some actualQuota
  | .notSettled => if task.status = .failure ∧ task.quota ≠ 0 then some 0 else none

/-! ## The state of all passes and sweeps -/

/-- The task objects in memory: entry `upstreamId` of the `taskM` of a pass, or the object
of a row in a sweep. -/
inductive Addr
  | poll (pass : ℕ) (upstreamId : String)
  | sweep (sweep : ℕ) (id : ℕ)
deriving DecidableEq

/-- The two steps of a finalization: to adjust the funding, then to write the quota. -/
inductive Stage
  | settle (usage : CompletionUsage)
  | write
deriving DecidableEq

/-- A task object: a copy of row `id`, and its finalization if one is under way. -/
structure TaskCopy where
  id : ℕ
  task : PolledTask
  stage : Option Stage

/-- What is left to do for one task of a batch after its answer has come. -/
inductive BatchWork
  | record (failure : PollFailure) (statusCode : ℕ)
  | fail (statusCode : ℕ)
  | item (statusCode : ℕ) (item : BatchItem)
deriving DecidableEq

/-- One pass over one platform: the rows without an upstream id, `taskChannelM` without the
channels already begun, the tasks still to be polled one by one, and those of a batch. -/
structure Pass where
  nullTaskIds : List ℕ
  channels : List (ℕ × List String)
  todo : List String
  queue : List (String × BatchWork)

/-- The database and all that is in memory. For each row `charge` is the quota it was
inserted with, `moves` the adjustments of its funding source since then, and `finals`
the number of finalizations begun for it. -/
structure State where
  count : ℕ
  rows : ℕ → PolledTask
  mem : Addr → Option TaskCopy
  passCount : ℕ
  passes : ℕ → Pass
  sweepCount : ℕ
  sweeps : ℕ → List ℕ
  charge : ℕ → ℤ
  moves : ℕ → List ℤ
  finals : ℕ → ℕ

/-- The answer of the database to a write: an error, or success; `reportsMatched` tells
whether a row that the write did not change counts as affected. -/
inductive DbAnswer
  | error
  | ok (reportsMatched : Bool)
deriving DecidableEq

namespace State

/-- The row after `UpdateWithStatus` (task.go:605-611), and whether the
caller has won. -/
def updateWithStatus (row task : PolledTask) (fromStatus : TaskStatus) :
    DbAnswer → PolledTask × Bool
  | .error => (row, false)
  | .ok reportsMatched =>
    if row.status = fromStatus then (task, task ≠ row || reportsMatched) else (row, false)

/-- The row and the verdict after the write of a plan. -/
def written (row : PolledTask) (plan : TaskPlan) (db : DbAnswer) : PolledTask × Bool :=
  match plan.guard with
  | none => (row, false)
  | some fromStatus => updateWithStatus row plan.task fromStatus db

/-- One task of a pass or a sweep: change the copy, write it, begin to finalize it. -/
def perform (s : State) (addr : Addr) (copy : TaskCopy) (plan : TaskPlan) (db : DbAnswer) : State :=
  let (row, won) := written (s.rows copy.id) plan db
  let finalizes := plan.finalizes won
  { s with
    rows := Function.update s.rows copy.id row
    mem := Function.update s.mem addr
      (some ⟨copy.id, plan.task, if finalizes then some (.settle plan.usage) else none⟩)
    finals := Function.update s.finals copy.id
      (s.finals copy.id + if finalizes then 1 else 0) }

/-- `TaskBulkUpdateByID` with status `FAILURE` and progress `100%`
(task.go:618-625). -/
def taskBulkUpdateByID (s : State) (ids : List ℕ) (failReason : Option String) : State :=
  { s with
    rows := fun id =>
      if id ∈ ids then
        { s.rows id with
          status := .failure, progress := "100%"
          failReason := failReason.getD (s.rows id).failReason }
      else s.rows id }

/-- `GetAllUnFinishSyncTasks` (task.go:396-409), and of its rows those of one
platform. -/
def unfinishedIds (s : State) (platform : String) (limit : ℕ) : List ℕ :=
  (((List.range s.count).filter fun id => (s.rows id).unfinished).take limit).filter
    fun id => (s.rows id).platform == platform

/-- `GetTimedOutUnfinishedTasks` (task.go:359-371), in some order of the
rows that time out together. -/
def timedOutIds (s : State) (cutoff : ℤ) (limit : ℕ) : List ℕ :=
  (((List.range s.count).filter fun id =>
    (s.rows id).unfinished && (s.rows id).submitTime < cutoff).insertionSort
      fun a b => (s.rows a).submitTime ≤ (s.rows b).submitTime).take limit

/-- `taskM[upstreamID]`: of several loaded rows with one upstream id the last one. -/
def taskM (s : State) (ids : List ℕ) (upstreamId : String) : Option TaskCopy :=
  if upstreamId = "" then none
  else ((ids.filter fun id => (s.rows id).upstreamId == upstreamId).getLast?).map fun id =>
    ⟨id, s.rows id, none⟩

/-- `taskChannelM`: for each channel the upstream ids of its rows. -/
def taskChannelM (s : State) (ids : List ℕ) : List (ℕ × List String) :=
  let ids := ids.filter fun id => (s.rows id).upstreamId != ""
  (ids.map fun id => (s.rows id).channelId).dedup.map fun channel =>
    (channel, (ids.filter fun id => (s.rows id).channelId == channel).map fun id =>
      (s.rows id).upstreamId)

/-- `RunTaskPollingOnce` up to the dispatch of one platform (lines 145-180). -/
def load (s : State) (ids : List ℕ) : State :=
  { s with
    passCount := s.passCount + 1
    passes := Function.update s.passes s.passCount
      { nullTaskIds := ids.filter fun id => (s.rows id).upstreamId == ""
        channels := s.taskChannelM ids
        todo := [], queue := [] }
    mem := fun
      | .poll pass upstreamId =>
        if pass = s.passCount then s.taskM ids upstreamId else s.mem (.poll pass upstreamId)
      | .sweep sweep id => s.mem (.sweep sweep id) }

/-- `sweepTimedOutTasks` up to its loop. -/
def sweepLoad (s : State) (ids : List ℕ) : State :=
  { s with
    sweepCount := s.sweepCount + 1
    sweeps := Function.update s.sweeps s.sweepCount ids
    mem := fun
      | .poll pass upstreamId => s.mem (.poll pass upstreamId)
      | .sweep sweep id =>
        if sweep = s.sweepCount then
          if id ∈ ids then some ⟨id, s.rows id, none⟩ else none
        else s.mem (.sweep sweep id) }

def setPass (s : State) (pass : ℕ) (p : Pass) : State :=
  { s with passes := Function.update s.passes pass p }

/-- The rows of a channel that a pass is about to poll (lines 256-261 and 417-422). -/
def channelIds (s : State) (pass : ℕ) (upstreamIds : List String) : List ℕ :=
  upstreamIds.filterMap fun upstreamId => (s.mem (.poll pass upstreamId)).map TaskCopy.id

/-- One task of a pass, with the plan its copy and the answer lead to. A copy that is
missing is skipped, and one that is being finalized is not polled. -/
def performAt (s : State) (addr : Addr) (plan : PolledTask → TaskPlan) (db : DbAnswer) :
    Option State :=
  match s.mem addr with
  | none => some s
  | some copy =>
    if copy.stage.isSome then none else some (s.perform addr copy (plan copy.task) db)

/-- The adjustment of the funding source by `RefundTaskQuota` or `RecalculateTaskQuota`
(service/task_billing.go:234-357). -/
def settle (s : State) (addr : Addr) (copy : TaskCopy) (usage : CompletionUsage)
    (funded : Bool) : State :=
  match finalQuota copy.task usage, funded with
  | some quota, true =>
    { s with
      moves := Function.update s.moves copy.id
        (s.moves copy.id ++ [quota - copy.task.quota])
      mem := Function.update s.mem addr
        (some ⟨copy.id, { copy.task with quota := quota }, some .write⟩) }
  | _, _ => { s with mem := Function.update s.mem addr (some { copy with stage := none }) }

/-- `UpdateQuota` (task.go:559-561). -/
def writeQuota (s : State) (addr : Addr) (copy : TaskCopy) (stored : Bool) : State :=
  { s with
    rows :=
      if stored then
        Function.update s.rows copy.id { s.rows copy.id with quota := copy.task.quota }
      else s.rows
    mem := Function.update s.mem addr (some { copy with stage := none }) }

/-- The insert of a submitted task. -/
def insert (s : State) (task : PolledTask) : State :=
  { s with
    count := s.count + 1
    rows := Function.update s.rows s.count task
    charge := Function.update s.charge s.count task.quota
    moves := Function.update s.moves s.count []
    finals := Function.update s.finals s.count 0 }

end State

/-! ## Steps -/

/-- The answer to a batch fetch; the parsed items are a map keyed by upstream id. -/
inductive BatchReply
  | transport (statusCode : ℕ)
  | response (statusCode : ℕ) (parsed : Option (List (String × BatchItem)))
deriving DecidableEq

/-- The work a batch reply leaves for the tasks of its channel: every task that was asked
for has the same failure, or every item is looked at (lines 280-306). -/
def BatchReply.work (upstreamIds : List String) : BatchReply → List (String × BatchWork)
  | transport statusCode => upstreamIds.map (·, .record .transport statusCode)
  | response statusCode parsed =>
    match classifyPollHTTP statusCode with
    | .notFound => upstreamIds.map (·, .fail statusCode)
    | .auth => upstreamIds.map (·, .record .auth statusCode)
    | .transient => upstreamIds.map (·, .record .transient statusCode)
    | .ok | .otherClient =>
      match parsed with
      | none => upstreamIds.map (·, .record .hookError statusCode)
      | some items => items.map fun item => (item.1, .item statusCode item.2)

/-- The keys of the parsed items. -/
def BatchReply.keys : BatchReply → List String
  | response _ (some items) => items.map Prod.fst
  | _ => []

/-- `recordPollFailureForTasks`, `failTasksFromPoll` and the loop over the items, for one
task. -/
def BatchWork.plan (env : PollEnv) : BatchWork → PolledTask → TaskPlan
  | record failure statusCode, task => recordPollFailure env task task.status failure statusCode
  | fail statusCode, task =>
    failTaskFromPoll env task task.status
      ("upstream task not found (HTTP " ++ toString statusCode ++ ")")
  | item statusCode entry, task => updateBatchTask env task statusCode entry

/-- The actions of submissions, passes and sweeps. -/
inductive Action
  | insert (task : PolledTask)
  | load (platform : String) (limit : ℕ)
  | failNullTasks (pass : ℕ)
  | channelMissing (pass channel : ℕ) (failReason : String)
  | openChannel (pass channel : ℕ)
  | poll (pass : ℕ) (upstreamId : String) (env : PollEnv) (fetch : Fetch) (db : DbAnswer)
  | openBatch (pass channel : ℕ) (reply : BatchReply)
  | batchTask (pass : ℕ) (env : PollEnv) (db : DbAnswer)
  | sweepLoad (cutoff : ℤ)
  | sweepTask (sweep : ℕ) (now minutes : ℤ) (db : DbAnswer)
  | settle (addr : Addr) (funded : Bool)
  | writeQuota (addr : Addr) (stored : Bool)

/-- The upstream ids of a channel a pass has not begun yet. -/
def Pass.channel? (p : Pass) (channel : ℕ) : Option (List String) :=
  (p.channels.find? (·.1 == channel)).map Prod.snd

def Pass.dropChannel (p : Pass) (channel : ℕ) : Pass :=
  { p with channels := p.channels.filter (·.1 != channel) }

/-- A task is stored with a quota that is not negative, and with none if the provider
failed it at once (relay/relay_task.go:378). -/
def Insertable (task : PolledTask) : Prop :=
  0 ≤ task.quota ∧ (task.status = .failure → task.quota = 0)

instance (task : PolledTask) : Decidable (Insertable task) :=
  inferInstanceAs (Decidable (_ ∧ _))

/-- One step. Passes and sweeps of all nodes interleave freely; within one pass the
tasks of its channels do too, and a pass may stop anywhere. -/
def step (s : State) : Action → Option State
  | .insert task => if Insertable task then some (s.insert task) else none
  | .load platform limit => some (s.load (s.unfinishedIds platform limit))
  | .failNullTasks pass =>
    let p := s.passes pass
    some ((s.taskBulkUpdateByID p.nullTaskIds none).setPass pass { p with nullTaskIds := [] })
  | .channelMissing pass channel failReason =>
    let p := s.passes pass
    (p.channel? channel).map fun upstreamIds =>
      (s.taskBulkUpdateByID (s.channelIds pass upstreamIds) (some failReason)).setPass pass
        (p.dropChannel channel)
  | .openChannel pass channel =>
    let p := s.passes pass
    (p.channel? channel).map fun upstreamIds =>
      s.setPass pass { p.dropChannel channel with todo := p.todo ++ upstreamIds }
  | .poll pass upstreamId env fetch db =>
    let p := s.passes pass
    if upstreamId ∈ p.todo then
      (s.setPass pass { p with todo := p.todo.erase upstreamId }).performAt
        (.poll pass upstreamId) (fun task => updateVideoSingleTask env task fetch) db
    else none
  | .openBatch pass channel reply =>
    let p := s.passes pass
    if reply.keys.Nodup then
      (p.channel? channel).map fun upstreamIds =>
        s.setPass pass
          { p.dropChannel channel with queue := p.queue ++ reply.work upstreamIds }
    else none
  | .batchTask pass env db =>
    let p := s.passes pass
    match p.queue with
    | [] => none
    | (upstreamId, work) :: queue =>
      (s.setPass pass { p with queue := queue }).performAt (.poll pass upstreamId)
        (work.plan env) db
  | .sweepLoad cutoff => some (s.sweepLoad (s.timedOutIds cutoff 100))
  | .sweepTask sweep now minutes db =>
    match s.sweeps sweep with
    | [] => none
    | id :: ids =>
      { s with sweeps := Function.update s.sweeps sweep ids }.performAt (.sweep sweep id)
        (sweepTimedOutTask now minutes) db
  | .settle addr funded =>
    match s.mem addr with
    | some ⟨id, task, some (.settle usage)⟩ =>
      some (s.settle addr ⟨id, task, some (.settle usage)⟩ usage funded)
    | _ => none
  | .writeQuota addr stored =>
    match s.mem addr with
    | some ⟨id, task, some .write⟩ => some (s.writeQuota addr ⟨id, task, some .write⟩ stored)
    | _ => none

/-- The empty database. -/
def blankTask : PolledTask :=
  ⟨.notStart, "", 0, 0, 0, 0, "", "", 0, "", "", "", "", 0, .usage⟩

def State.init : State where
  count := 0
  rows := fun _ => blankTask
  mem := fun _ => none
  passCount := 0
  passes := fun _ => ⟨[], [], [], []⟩
  sweepCount := 0
  sweeps := fun _ => []
  charge := fun _ => 0
  moves := fun _ => []
  finals := fun _ => 0

/-! ## Conditions on runs -/

/-- The rows an action writes without a guard. -/
def bulkIds (s : State) : Action → List ℕ
  | .failNullTasks pass => (s.passes pass).nullTaskIds
  | .channelMissing pass channel _ =>
    match (s.passes pass).channel? channel with
    | some upstreamIds => s.channelIds pass upstreamIds
    | none => []
  | _ => []

/-- The rows a pass loads have different upstream ids. -/
def DistinctIds (s : State) : Action → Prop
  | .load platform limit =>
    (((s.unfinishedIds platform limit).filter fun id => (s.rows id).upstreamId != "").map
      fun id => (s.rows id).upstreamId).Nodup
  | _ => True

/-- A batch answer names only tasks of the channel that was asked. -/
def AnswersAsked (s : State) : Action → Prop
  | .openBatch pass channel reply =>
    ∀ upstreamId ∈ reply.keys, upstreamId ∈ ((s.passes pass).channel? channel).getD []
  | _ => True

/-- No row stored as `SUCCESS` is written without a guard. -/
def SparesSuccess (s : State) (a : Action) : Prop :=
  ∀ id ∈ bulkIds s a, (s.rows id).status ≠ .success

/-- No row that holds a quota is written without a guard. -/
def SparesCharged (s : State) (a : Action) : Prop :=
  ∀ id ∈ bulkIds s a, (s.rows id).quota = 0

/-- A copy that is settled as a failure has no token usage and no adjustment by the
adaptor. -/
def TaskCopy.settlesPlainly (copy : TaskCopy) : Bool :=
  match copy.stage with
  | some (.settle usage) => copy.task.status != .failure || usage.silent
  | _ => true

/-- Funding adjustments succeed, and a failed task is settled without token usage or an
adjustment by the adaptor. -/
def SettlesPlainly (s : State) : Action → Bool
  | .settle addr funded => funded && (s.mem addr).all TaskCopy.settlesPlainly
  | _ => true

instance (s : State) : (a : Action) → Decidable (DistinctIds s a)
  | .load _ _ => inferInstanceAs (Decidable (List.Nodup _))
  | .insert _ | .failNullTasks _ | .channelMissing _ _ _ | .openChannel _ _
  | .poll _ _ _ _ _ | .openBatch _ _ _ | .batchTask _ _ _ | .sweepLoad _
  | .sweepTask _ _ _ _ | .settle _ _ | .writeQuota _ _ => isTrue trivial

instance (s : State) : (a : Action) → Decidable (AnswersAsked s a)
  | .openBatch _ _ _ => inferInstanceAs (Decidable (∀ upstreamId ∈ _, _))
  | .insert _ | .load _ _ | .failNullTasks _ | .channelMissing _ _ _ | .openChannel _ _
  | .poll _ _ _ _ _ | .batchTask _ _ _ | .sweepLoad _
  | .sweepTask _ _ _ _ | .settle _ _ | .writeQuota _ _ => isTrue trivial

instance (s : State) (a : Action) : Decidable (SparesSuccess s a) :=
  inferInstanceAs (Decidable (∀ id ∈ _, _))

instance (s : State) (a : Action) : Decidable (SparesCharged s a) :=
  inferInstanceAs (Decidable (∀ id ∈ _, _))

end OmniRouters.Task
