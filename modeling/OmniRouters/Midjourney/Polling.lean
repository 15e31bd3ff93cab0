import OmniRouters.Task.Polling

/-!
# Midjourney tasks

A model of the submissions of `relay/mjproxy_handler.go`, of their billing in
`service/midjourney.go`, and of the passes of `runMidjourneyTaskUpdateOnce`
(`controller/midjourney.go`) over the rows of `model/midjourney.go`. Any number of submissions
and passes are at work; one step is one statement on the database, or one adjustment of an
account or of a token.

A submission stores its row with the quota it is about to charge, charges it, and stores
the billing columns again. A pass works on the rows it read when it began. A row is failed
either by `UpdateWithStatus`, which is guarded by the status the pass read and leads to a
refund, or by one of the two bulk updates, which have no guard.

* `relayMidjourneySubmit`, `relaySwapFace`, `prepareMidjourneyTaskBilling`: the rows of the
  submissions.
* `updateTask`: what one answer makes a pass do with its copy.
* `step`: the steps of all submissions and passes.
-/

namespace OmniRouters.Mj

open OmniRouters.Billing OmniRouters.Lib
open OmniRouters.Task (DbAnswer)

/-! ## Rows -/

/-- The columns of `model.Midjourney` that submissions, passes and refunds use. `status` and
`progress` are the provider's texts. -/
structure Midjourney where
  userId : ℕ
  code : ℤ
  mjId : String
  promptEn : String
  state : String
  submitTime : ℤ
  startTime : ℤ
  finishTime : ℤ
  imageUrl : String
  videoUrl : String
  videoUrls : String
  status : String
  progress : String
  failReason : String
  channelId : ℕ
  quota : ℤ
  buttons : String
  properties : String
  tokenId : ℕ
  billingChannelId : ℕ
  organizationId : ℕ
  organizationUsagePeriod : String
deriving DecidableEq

/-- The account a task is charged to: a user's wallet, or an organization's with the
member and the month whose usage counts. -/
inductive Account
  | wallet (userId : ℕ)
  | organization (id userId : ℕ) (usagePeriod : String)
deriving DecidableEq

/-- The account `RefundMidjourneyQuota` returns to (service/midjourney.go:111-116). -/
def Midjourney.account (task : Midjourney) : Account :=
  if 0 < task.organizationId then
    .organization task.organizationId task.userId task.organizationUsagePeriod
  else .wallet task.userId

/-- The columns `UpdateBillingState` writes (model/midjourney.go:179-183). -/
def Midjourney.updateBillingState (row task : Midjourney) : Midjourney :=
  { row with
    quota := task.quota
    tokenId := task.tokenId
    billingChannelId := task.billingChannelId
    organizationId := task.organizationId
    organizationUsagePeriod := task.organizationUsagePeriod }

/-- The row after `UpdateWithStatus` (model/midjourney.go:197-203), and whether the
caller has won. -/
def Midjourney.updateWithStatus (row task : Midjourney) (fromStatus : String) :
    DbAnswer → Midjourney × Bool
  | .error => (row, false)
  | .ok reportsMatched =>
    if row.status = fromStatus then (task, task ≠ row || reportsMatched) else (row, false)

/-- The values the two bulk updates write; only `MjBulkUpdate` has a reason. -/
def Midjourney.bulkFailed (row : Midjourney) (failReason : Option String) : Midjourney :=
  { row with
    status := "FAILURE", progress := "100%", failReason := failReason.getD row.failReason }

/-! ## Submissions -/

/-- The fields of `RelayInfo` that the billing of a submission uses; `channelId` is 0
without channel metadata. -/
structure SubmitInfo where
  userId : ℕ
  organizationId : ℕ
  organizationUsagePeriod : String
  billingSource : Option BillingSource
  channelId : ℕ
  tokenId : ℕ
  isPlayground : Bool
deriving DecidableEq

/-- The provider's answer to a submission: `existing` is the image and the status of a
task that exists already, if the properties have both. -/
structure SubmitReply where
  statusOK : Bool
  code : ℤ
  description : String
  result : String
  existing : Option (String × String)
deriving DecidableEq

/-- A request as far as its row depends on it: the action, the context's channel, the
price, the time it came in and the clock. -/
structure SubmitRequest where
  info : SubmitInfo
  action : String
  channelId : ℕ
  quota : ℤ
  requestTime : ℤ
  now : ℤ
  reply : SubmitReply
deriving DecidableEq

/-- The row as both handlers first fill it. -/
def SubmitRequest.newTask (rq : SubmitRequest) (submitTime startTime : ℤ) : Midjourney where
  userId := rq.info.userId
  code := rq.reply.code
  mjId := rq.reply.result
  promptEn := ""
  state := ""
  submitTime := submitTime
  startTime := startTime
  finishTime := 0
  imageUrl := ""
  videoUrl := ""
  videoUrls := ""
  status := ""
  progress := "0%"
  failReason := ""
  channelId := rq.channelId
  quota := 0
  buttons := ""
  properties := ""
  tokenId := 0
  billingChannelId := 0
  organizationId := 0
  organizationUsagePeriod := ""

/-- `RelaySwapFace` (mjproxy_handler.go:244-267): the row, and whether it is
billed. -/
def relaySwapFace (rq : SubmitRequest) : Midjourney × Bool :=
  (rq.newTask rq.requestTime rq.now, rq.reply.statusOK && rq.reply.code == 1)

/-- Code 21 of `RelayMidjourneySubmit` (lines 599-611): the task exists already, perhaps
with its result. Returns the row and the code that goes on. -/
def taskExists (rq : SubmitRequest) (task : Midjourney) : Midjourney × ℤ :=
  if rq.reply.code = 21 then
    match rq.reply.existing with
    | none => (task, 21)
    | some (imageUrl, status) =>
      let task := { task with imageUrl := imageUrl, status := status }
      if status = "SUCCESS" then
        ({ task with progress := "100%", startTime := rq.now, finishTime := rq.now }, 1)
      else (task, 21)
  else (task, rq.reply.code)

/-- An upload is done when it is accepted (lines 620-623). -/
def taskUploaded (rq : SubmitRequest) (task : Midjourney) (code : ℤ) : Midjourney :=
  if code = 1 ∧ rq.action = "UPLOAD" then { task with progress := "100%", status := "SUCCESS" }
  else task

/-- `RelayMidjourneySubmit` (mjproxy_handler.go:496-498 and 563-629): the row,
and whether it is billed. -/
def relayMidjourneySubmit (rq : SubmitRequest) : Midjourney × Bool :=
  let accepted := rq.reply.code = 1 ∨ rq.reply.code = 21 ∨ rq.reply.code = 22
  let consumeQuota := rq.action ≠ "INPAINT" ∧ rq.action ≠ "CUSTOM_ZOOM" ∧ accepted
  let task :=
    { rq.newTask rq.now 0 with failReason := if accepted then "" else rq.reply.description }
  let (task, code) := taskExists rq task
  (taskUploaded rq task code, consumeQuota && rq.reply.statusOK)

/-- `PrepareMidjourneyTaskBilling` (service/midjourney.go:34-70): the row as it is
stored, and whether it is charged afterwards. An error only leaves it unbilled. -/
def prepareMidjourneyTaskBilling (info : SubmitInfo) (task : Midjourney) (quota : ℤ)
    (shouldBill : Bool) : Midjourney × Bool :=
  let unbilled := { task with
    quota := 0, tokenId := 0, billingChannelId := 0
    organizationId := info.organizationId
    organizationUsagePeriod := info.organizationUsagePeriod }
  if shouldBill = false ∨ quota < 0 ∨ info.billingSource = some .subscription then
    (unbilled, false)
  else
    ({ unbilled with
      quota := quota
      billingChannelId := if 0 < info.channelId then info.channelId else task.channelId }, true)

/-- The account `postConsumeQuotaWithResult` charges (service/quota.go:459-492);
`none` if the organization's id is missing. A subscription has been turned away before. -/
def SubmitInfo.account (info : SubmitInfo) : Option Account :=
  if 0 < info.organizationId ∨ info.billingSource = some .organization then
    if 0 < info.organizationId then
      some (.organization info.organizationId info.userId info.organizationUsagePeriod)
    else none
  else some (.wallet info.userId)

/-- How far `SettleMidjourneyTaskBilling` has come. -/
inductive SubmitStage
  | funding
  | token
  | store
  | done
deriving DecidableEq

/-- A submission after its row is stored: its own copy of the row, and `marker`, the quota
the row was stored with. -/
structure Submission where
  info : SubmitInfo
  marker : ℤ
  task : Midjourney
  stage : SubmitStage
deriving DecidableEq

/-- A submission with the row it stores; `swapFace` tells which of the handlers it is. -/
def SubmitRequest.submission (rq : SubmitRequest) (swapFace : Bool) : Submission :=
  let (task, shouldBill) := if swapFace then relaySwapFace rq else relayMidjourneySubmit rq
  let (task, prepared) := prepareMidjourneyTaskBilling rq.info task rq.quota shouldBill
  ⟨rq.info, task.quota, task, if prepared then .funding else .done⟩

/-! ## Answers -/

/-- The fields of `dto.MidjourneyDto` that a pass reads. Properties, buttons and video URLs
are the texts they are stored as; `none` if they are missing (or the URLs empty). -/
structure MidjourneyDto where
  mjId : String
  promptEn : String
  state : String
  submitTime : ℤ
  startTime : ℤ
  finishTime : ℤ
  imageUrl : String
  videoUrl : String
  videoUrls : Option String
  status : String
  progress : String
  failReason : String
  buttons : Option String
  properties : Option String
deriving DecidableEq

/-- `checkMjTaskNeedUpdate` (controller/midjourney.go:226-279). -/
def checkMjTaskNeedUpdate (oldTask : Midjourney) (newTask : MidjourneyDto) : Bool :=
  oldTask.code ≠ 1 || oldTask.progress ≠ newTask.progress ||
  oldTask.promptEn ≠ newTask.promptEn || oldTask.state ≠ newTask.state ||
  oldTask.submitTime ≠ newTask.submitTime || oldTask.startTime ≠ newTask.startTime ||
  oldTask.finishTime ≠ newTask.finishTime || oldTask.imageUrl ≠ newTask.imageUrl ||
  oldTask.status ≠ newTask.status || oldTask.failReason ≠ newTask.failReason ||
  (oldTask.progress ≠ "100%" && newTask.failReason ≠ "") ||
  oldTask.videoUrl ≠ newTask.videoUrl || oldTask.videoUrls ≠ newTask.videoUrls.getD ""

/-- The hour after which an unfinished task is given up (lines 151-156). -/
def MidjourneyDto.timedOut (item : MidjourneyDto) (now : ℤ) (task : Midjourney) : MidjourneyDto :=
  if 3600000 < now - task.submitTime ∧ task.progress ≠ "100%" then
    { item with failReason := "上游任务超时（超过1小时）", status := "FAILURE" }
  else item

/-- The copy with the fields of an answer (lines 160-192). -/
def Midjourney.answered (task : Midjourney) (item : MidjourneyDto) : Midjourney :=
  { task with
    code := 1
    progress := item.progress
    promptEn := item.promptEn
    state := item.state
    submitTime := item.submitTime
    startTime := item.startTime
    finishTime := item.finishTime
    imageUrl := item.imageUrl
    status := item.status
    failReason := item.failReason
    properties := item.properties.getD task.properties
    buttons := item.buttons.getD task.buttons
    videoUrl := item.videoUrl
    videoUrls := item.videoUrls.getD "" }

/-- A task that has failed: a reason before it is finished, or a failure at its end. -/
def MidjourneyDto.fails (item : MidjourneyDto) : Prop :=
  item.progress ≠ "100%" ∧ item.failReason ≠ "" ∨
    item.progress = "100%" ∧ item.status = "FAILURE"

instance (item : MidjourneyDto) : Decidable item.fails :=
  inferInstanceAs (Decidable (_ ∨ _))

/-- What an answer makes a pass do: the changed copy, and whether the quota is returned
if its write is won. -/
structure TaskPlan where
  task : Midjourney
  shouldReturnQuota : Bool

/-- The body of the loop over the answers of a channel
(controller/midjourney.go:143-213) up to the write; `none` if there is nothing to update. -/
def updateTask (now : ℤ) (task : Midjourney) (item : MidjourneyDto) : Option TaskPlan :=
  let item := item.timedOut now task
  if checkMjTaskNeedUpdate task item = false then none
  else
    let new := task.answered item
    if item.fails then some ⟨{ new with progress := "100%" }, new.quota ≠ 0⟩
    else some ⟨new, false⟩

/-! ## The state of all submissions and passes -/

/-- The steps of `RefundMidjourneyQuota`. -/
inductive RefundStage
  | funding
  | token
  | store
deriving DecidableEq

/-- A task object of a pass: a copy of row `id`. -/
@[ext]
structure TaskCopy where
  id : ℕ
  task : Midjourney

/-- One pass: the rows without an id, the channels not begun yet, the answers of the
current channel still to be handled, `taskM`, and the refund under way. -/
structure Pass where
  nullTaskIds : List ℕ
  channels : List (ℕ × List String)
  items : List MidjourneyDto
  taskM : String → Option TaskCopy
  refund : Option (String × RefundStage)

/-- The movements of funds made for one row. -/
structure Ledger where
  charges : List (Account × ℤ)
  refunds : List (Account × ℤ)
  tokenCharges : List (ℕ × ℤ)
  tokenRefunds : List (ℕ × ℤ)
deriving DecidableEq

/-- The database and all that is in memory. -/
structure State where
  count : ℕ
  rows : ℕ → Midjourney
  subs : ℕ → Submission
  ledger : ℕ → Ledger
  passCount : ℕ
  passes : ℕ → Pass

/-- A movement of nothing is none. -/
def moved {α : Type} (target : α) (quota : ℤ) : List (α × ℤ) :=
  if quota = 0 then [] else [(target, quota)]

namespace State

def setRow (s : State) (id : ℕ) (row : Midjourney) : State :=
  { s with rows := Function.update s.rows id row }

def setSub (s : State) (id : ℕ) (sub : Submission) : State :=
  { s with subs := Function.update s.subs id sub }

def setPass (s : State) (pass : ℕ) (p : Pass) : State :=
  { s with passes := Function.update s.passes pass p }

def setLedger (s : State) (id : ℕ) (l : Ledger) : State :=
  { s with ledger := Function.update s.ledger id l }

def insert (s : State) (sub : Submission) : State :=
  { s with
    count := s.count + 1
    rows := Function.update s.rows s.count sub.task
    subs := Function.update s.subs s.count sub
    ledger := Function.update s.ledger s.count ⟨[], [], [], []⟩ }

/-- The funding of `SettleMidjourneyTaskBilling` (service/midjourney.go:83-92). -/
def chargeFunding (s : State) (id : ℕ) (ok : Bool) : State :=
  let sub := s.subs id
  match sub.info.account, ok with
  | some account, true =>
    (s.setSub id { sub with stage := .token }).setLedger id
      { s.ledger id with
        charges := (s.ledger id).charges ++ moved account sub.task.quota }
  | _, _ =>
    s.setSub id { sub with
      task := { sub.task with quota := 0, tokenId := 0, billingChannelId := 0 }
      stage := .store }

/-- The token's part of the charge (service/quota.go:494-504 and
service/midjourney.go:94-97). -/
def chargeToken (s : State) (id : ℕ) (ok : Bool) : State :=
  let sub := s.subs id
  if sub.info.isPlayground = false ∧ ok then
    (s.setSub id { sub with
      task := { sub.task with tokenId := sub.info.tokenId }, stage := .store }).setLedger id
      { s.ledger id with
        tokenCharges := (s.ledger id).tokenCharges ++ moved sub.info.tokenId sub.task.quota }
  else s.setSub id { sub with task := { sub.task with tokenId := 0 }, stage := .store }

/-- The write that ends `SettleMidjourneyTaskBilling`. -/
def storeCharge (s : State) (id : ℕ) (ok : Bool) : State :=
  let sub := s.subs id
  (s.setSub id { sub with stage := .done }).setRow id
    (if ok then (s.rows id).updateBillingState sub.task else s.rows id)

/-- The ids of `GetAllUnFinishTasks` (model/midjourney.go:99-108). -/
def unfinishedIds (s : State) : List ℕ :=
  (List.range s.count).filter fun id => (s.rows id).progress ≠ "100%"

/-- `taskM[mjId]`: of several loaded rows with one id the last one. -/
def loadedCopy (s : State) (ids : List ℕ) (mjId : String) : Option TaskCopy :=
  if mjId = "" then none
  else ((ids.filter fun id => (s.rows id).mjId == mjId).getLast?).map fun id =>
    ⟨id, s.rows id⟩

/-- `taskChannelM`: for each channel the ids of its tasks. -/
def taskChannelM (s : State) (ids : List ℕ) : List (ℕ × List String) :=
  let ids := ids.filter fun id => (s.rows id).mjId != ""
  (ids.map fun id => (s.rows id).channelId).dedup.map fun channel =>
    (channel, (ids.filter fun id => (s.rows id).channelId == channel).map fun id =>
      (s.rows id).mjId)

/-- `runMidjourneyTaskUpdateOnce` up to its writes (lines 40-58). -/
def load (s : State) (ids : List ℕ) : State :=
  { s with
    passCount := s.passCount + 1
    passes := Function.update s.passes s.passCount
      { nullTaskIds := ids.filter fun id => (s.rows id).mjId == ""
        channels := s.taskChannelM ids
        items := []
        taskM := s.loadedCopy ids
        refund := none } }

/-- A bulk update of the given rows (model/midjourney.go:205-215). -/
def bulkUpdate (s : State) (ids : List ℕ) (failReason : Option String) : State :=
  { s with
    rows := fun id => if id ∈ ids then (s.rows id).bulkFailed failReason else s.rows id }

/-- The rows of `MjBulkUpdate`: all that have one of the ids. -/
def idsOf (s : State) (mjIds : List String) : List ℕ :=
  (List.range s.count).filter fun id => (s.rows id).mjId ∈ mjIds

end State

/-- The channel's tasks, if a pass has not begun it yet. -/
def Pass.channel? (p : Pass) (channel : ℕ) : Option (List String) :=
  (p.channels.find? (·.1 == channel)).map Prod.snd

def Pass.dropChannel (p : Pass) (channel : ℕ) : Pass :=
  { p with channels := p.channels.filter (·.1 != channel) }

/-- A pass begins a channel when the rows without an id and the last channel are done. -/
def Pass.betweenChannels (p : Pass) : Bool :=
  p.nullTaskIds.isEmpty && p.items.isEmpty && p.refund.isNone

def Pass.setCopy (p : Pass) (mjId : String) (copy : TaskCopy) : Pass :=
  { p with taskM := Function.update p.taskM mjId (some copy) }

namespace State

/-- The write of a plan, and the begin of the refund if it is won (lines 214-220). -/
def perform (s : State) (pass : ℕ) (mjId : String) (copy : TaskCopy) (plan : TaskPlan)
    (db : DbAnswer) : State :=
  let (row, won) := (s.rows copy.id).updateWithStatus plan.task copy.task.status db
  let p := (s.passes pass).setCopy mjId ⟨copy.id, plan.task⟩
  (s.setRow copy.id row).setPass pass
    { p with refund := if won && plan.shouldReturnQuota then some (mjId, .funding) else none }

/-- One answer of the current channel. -/
def handle (s : State) (pass : ℕ) (item : MidjourneyDto) (now : ℤ) (db : DbAnswer) : State :=
  match (s.passes pass).taskM item.mjId with
  | none => s
  | some copy =>
    match updateTask now copy.task item with
    | none => s
    | some plan => s.perform pass item.mjId copy plan db

/-- `RefundMidjourneyQuota`: the account (service/midjourney.go:111-121). A refund
that fails is given up. -/
def refundFunding (s : State) (pass : ℕ) (mjId : String) (copy : TaskCopy) (ok : Bool) : State :=
  let p := s.passes pass
  if ok then
    (s.setLedger copy.id { s.ledger copy.id with
      refunds := (s.ledger copy.id).refunds ++ moved copy.task.account copy.task.quota }).setPass
      pass { p with refund := some (mjId, .token) }
  else s.setPass pass { p with refund := none }

/-- `RefundMidjourneyQuota`: the token (lines 123-130). -/
def refundToken (s : State) (pass : ℕ) (mjId : String) (copy : TaskCopy) (ok : Bool) : State :=
  let l := s.ledger copy.id
  (s.setLedger copy.id
    (if 0 < copy.task.tokenId ∧ ok then
      { l with tokenRefunds := l.tokenRefunds ++ moved copy.task.tokenId copy.task.quota }
    else l)).setPass pass { s.passes pass with refund := some (mjId, .store) }

/-- `RefundMidjourneyQuota`: the marker (lines 151-154). -/
def storeRefund (s : State) (pass : ℕ) (mjId : String) (copy : TaskCopy) (ok : Bool) : State :=
  let task := { copy.task with quota := 0 }
  let p := (s.passes pass).setCopy mjId ⟨copy.id, task⟩
  (s.setRow copy.id
    (if ok then (s.rows copy.id).updateBillingState task else s.rows copy.id)).setPass pass
    { p with refund := none }

end State

/-! ## Steps -/

/-- The actions of submissions and passes. -/
inductive Action
  | submit (rq : SubmitRequest) (swapFace : Bool)
  | chargeFunding (id : ℕ) (ok : Bool)
  | chargeToken (id : ℕ) (ok : Bool)
  | storeCharge (id : ℕ) (ok : Bool)
  | load (ids : List ℕ)
  | failNullTasks (pass : ℕ) (ok : Bool)
  | channelMissing (pass channel : ℕ) (failReason : String) (ok : Bool)
  | openChannel (pass channel : ℕ) (items : List MidjourneyDto)
  | answer (pass : ℕ) (now : ℤ) (db : DbAnswer)
  | refundFunding (pass : ℕ) (ok : Bool)
  | refundToken (pass : ℕ) (ok : Bool)
  | storeRefund (pass : ℕ) (ok : Bool)

/-- The refund of a pass that has come to `stage`, with the copy it is for. -/
def Pass.refundAt (p : Pass) (stage : RefundStage) : Option (String × TaskCopy) :=
  match p.refund with
  | none => none
  | some (mjId, stage') =>
    if stage' = stage then (p.taskM mjId).map fun copy => (mjId, copy) else none

/-- One step. Submissions and passes of all nodes interleave freely, and a pass may stop
anywhere. The rows a pass loads come in any order; an answer that is missing or cannot
be read is an empty one. A key that is charged has an id. -/
def step (s : State) : Action → Option State
  | .submit rq swapFace =>
    if rq.info.isPlayground = false → 0 < rq.info.tokenId then
      some (s.insert (rq.submission swapFace))
    else none
  | .chargeFunding id ok =>
    if id < s.count ∧ (s.subs id).stage = .funding then some (s.chargeFunding id ok) else none
  | .chargeToken id ok =>
    if id < s.count ∧ (s.subs id).stage = .token then some (s.chargeToken id ok) else none
  | .storeCharge id ok =>
    if id < s.count ∧ (s.subs id).stage = .store then some (s.storeCharge id ok) else none
  | .load ids => if ids.Perm s.unfinishedIds then some (s.load ids) else none
  | .failNullTasks pass ok =>
    let p := s.passes pass
    some ((if ok then s.bulkUpdate p.nullTaskIds none else s).setPass pass
      { p with nullTaskIds := [] })
  | .channelMissing pass channel failReason ok =>
    let p := s.passes pass
    if p.betweenChannels then
      (p.channel? channel).map fun mjIds =>
        (if ok then s.bulkUpdate (s.idsOf mjIds) (some failReason) else s).setPass pass
          (p.dropChannel channel)
    else none
  | .openChannel pass channel items =>
    let p := s.passes pass
    if p.betweenChannels then
      (p.channel? channel).map fun _ =>
        s.setPass pass { p.dropChannel channel with items := items }
    else none
  | .answer pass now db =>
    let p := s.passes pass
    match p.items, p.refund with
    | item :: items, none =>
      some ((s.setPass pass { p with items := items }).handle pass item now db)
    | _, _ => none
  | .refundFunding pass ok =>
    ((s.passes pass).refundAt .funding).map fun (mjId, copy) =>
      s.refundFunding pass mjId copy ok
  | .refundToken pass ok =>
    ((s.passes pass).refundAt .token).map fun (mjId, copy) => s.refundToken pass mjId copy ok
  | .storeRefund pass ok =>
    ((s.passes pass).refundAt .store).map fun (mjId, copy) => s.storeRefund pass mjId copy ok

/-- Nothing submitted, nothing loaded. -/
def blankRequest : SubmitRequest :=
  ⟨⟨0, 0, "", none, 0, 0, true⟩, "", 0, 0, 0, 0, ⟨false, 0, "", "", none⟩⟩

def State.init : State where
  count := 0
  rows := fun _ => blankRequest.newTask 0 0
  subs := fun _ => blankRequest.submission true
  ledger := fun _ => ⟨[], [], [], []⟩
  passCount := 0
  passes := fun _ => ⟨[], [], [], fun _ => none, none⟩

/-! ## Conditions on runs -/

/-- The rows an action writes without a guard. -/
def bulkIds (s : State) : Action → List ℕ
  | .failNullTasks pass _ => (s.passes pass).nullTaskIds
  | .channelMissing pass channel _ _ => s.idsOf (((s.passes pass).channel? channel).getD [])
  | _ => []

/-- No row that holds a quota is failed by a bulk update. -/
def SparesCharged (s : State) (a : Action) : Prop :=
  ∀ id ∈ bulkIds s a, (s.rows id).quota = 0

def answeredCopy (s : State) : Action → Option (TaskCopy × MidjourneyDto)
  | .answer pass _ _ =>
    match (s.passes pass).items with
    | [] => none
    | item :: _ => ((s.passes pass).taskM item.mjId).map fun copy => (copy, item)
  | _ => none

/-- If an answer finds its row finished with the very status the pass holds, then the pass
has returned the quota itself, and the answer leaves the row finished. -/
def SparesFinished (s : State) (a : Action) : Prop :=
  ∀ copy item, answeredCopy s a = some (copy, item) →
    (s.rows copy.id).progress = "100%" → (s.rows copy.id).status = copy.task.status →
      copy.task.quota = 0 ∧ item.progress = "100%"

/-- A billed task is polled only after its submission is through, with a copy that has
the token it was charged to. -/
def KnowsToken (s : State) (a : Action) : Prop :=
  ∀ copy item, answeredCopy s a = some (copy, item) → copy.task.quota ≠ 0 →
    (s.subs copy.id).stage = .done ∧ copy.task.tokenId = (s.subs copy.id).task.tokenId

/-- Accounts accept what is returned to them. -/
def AcceptsRefund : Action → Bool
  | .refundFunding _ ok => ok
  | _ => true

/-- Tokens accept what is returned to them. -/
def AcceptsTokenRefund : Action → Bool
  | .refundToken _ ok => ok
  | _ => true

/-- Every call of the action succeeds. -/
def Faultless : Action → Bool
  | .chargeFunding _ ok | .chargeToken _ ok | .storeCharge _ ok | .failNullTasks _ ok
  | .channelMissing _ _ _ ok | .refundFunding _ ok | .refundToken _ ok | .storeRefund _ ok => ok
  | .answer _ _ db => db ≠ .error
  | .submit _ _ | .load _ | .openChannel _ _ _ => true

instance (s : State) (a : Action) : Decidable (SparesCharged s a) :=
  inferInstanceAs (Decidable (∀ id ∈ _, _))

instance (s : State) (a : Action) : Decidable (SparesFinished s a) :=
  match h : answeredCopy s a with
  | none => isTrue (by intro copy item hc; rw [h] at hc; cases hc)
  | some (copy, item) =>
    decidable_of_iff ((s.rows copy.id).progress = "100%" →
      (s.rows copy.id).status = copy.task.status →
        copy.task.quota = 0 ∧ item.progress = "100%")
      ⟨by intro hall copy' item' hc; rw [h] at hc; cases hc; exact hall,
        fun hall => hall copy item h⟩

instance (s : State) (a : Action) : Decidable (KnowsToken s a) :=
  match h : answeredCopy s a with
  | none => isTrue (by intro copy item hc; rw [h] at hc; cases hc)
  | some (copy, item) =>
    decidable_of_iff (copy.task.quota ≠ 0 →
      (s.subs copy.id).stage = .done ∧ copy.task.tokenId = (s.subs copy.id).task.tokenId)
      ⟨by intro hall copy' item' hc; rw [h] at hc; cases hc; exact hall,
        fun hall => hall copy item h⟩

end OmniRouters.Mj
