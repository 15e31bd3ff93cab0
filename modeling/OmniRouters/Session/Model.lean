import OmniRouters.Billing.Store
import OmniRouters.Lib.Int64
import OmniRouters.Lib.Threads

/-!
# Login sessions

One session of a user (`model/user_session.go`): its row in `user_sessions`, its entry in Redis,
and any number of concurrent calls of `GetUserSessionCached`, `RotateUserSessionRefresh`,
`RevokeUserSession`, `RevokeUserSessionByRefreshHash` and `AdvanceUserSessionAuthVersion`.

A call is a thread that takes one step for each statement on the database, each Redis command and
each look at the clock. Any time may pass before a step, and any statement or command may fail.
No row lock is modelled: `lockForUpdate` does nothing on SQLite, and every update is conditional.
A transaction with one update takes effect when that update does.

* `advance`: one step of a call.
* `resume_frame`, `confirmed_frame`: a call that goes on leaves the row, the cache and the clock.
* `advance_row`: what a step can do to the row.

The clock counts nanoseconds. Redis keeps a key up to and including the millisecond of its expiry.
-/

namespace OmniRouters.UserSession

open OmniRouters.Billing
open OmniRouters.Lib (unix)

/-! ## The clock -/

/-- `Time.UnixMilli`, and `Duration.Milliseconds` of a positive duration. -/
def unixMilli (t : ℤ) : ℤ := t / 1000000

/-- `time.Unix(s, 0)`, and `s * time.Second`. -/
def seconds (s : ℤ) : ℤ := s * 1000000000

/-! ## The row and the cached entry -/

/-- The status of a session (lines 17-19). -/
inductive Status
  | active
  | revoking
  | revoked
deriving DecidableEq

/-- What the calls read and write of a row of `user_sessions`. -/
structure Row where
  version : ℤ
  userAuthVersion : ℤ
  status : Status
  refreshHash : String
  previousRefreshHash : String
  previousValidUntil : ℤ
  expiresAt : ℤ
  revokedAt : ℤ
deriving DecidableEq

/-- The row as a query returns it, after `AfterFind` (lines 65-68). -/
def Row.found (row : Row) : Row :=
  { row with previousRefreshHash := trimSpace row.previousRefreshHash }

theorem Row.found_expiresAt (row : Row) : row.found.expiresAt = row.expiresAt := rfl

/-- The row is active and has not expired at `now`. -/
def Row.usable (row : Row) (now : ℤ) : Prop :=
  row.status = .active ∧ row.revokedAt = 0 ∧ now < row.expiresAt

instance (row : Row) (now : ℤ) : Decidable (row.usable now) := inferInstanceAs (Decidable (_ ∧ _))

/-- `userSessionCacheEntry` (lines 70-85). -/
structure Entry where
  version : ℤ
  status : Status
  expiresAt : ℤ
  revokedAt : ℤ
deriving DecidableEq

/-- `cacheEntry` (lines 87-104). -/
def Row.cacheEntry (row : Row) : Entry := ⟨row.version, row.status, row.expiresAt, row.revokedAt⟩

/-- The entry of a deny fence or a tombstone (lines 391-401, 541-543, 593-595). -/
def Row.denyEntry (row : Row) (status : Status) (now : ℤ) : Entry :=
  { row.cacheEntry with status := status, revokedAt := now }

/-- A hash in Redis, with the millisecond after which it is gone. -/
structure Stored where
  entry : Entry
  expiry : ℤ
deriving DecidableEq

/-! ## The calls -/

/-- The arguments of a rotation, with its time and its grace period in seconds. -/
structure Rotation where
  presentedHash : String
  nextHash : String
  now : ℤ
  graceSeconds : ℤ
deriving DecidableEq

/-- The result of `writeUserSessionCache`. -/
inductive WriteResult
  | ok
  | stale
  | inactive
  | invalid
  | failed
deriving DecidableEq

/-- Who waits for a write to the cache. `late` marks a reader that has started after a
`RevokeUserSession` had returned true. -/
inductive Cont
  | filled (late : Bool) (session : Row)
  | denied (late : Bool)
  | rotated (call : Rotation) (session : Row)
  | reuseFence (call : Rotation) (session : Row)
  | reuseTombstone (call : Rotation) (session : Row)
  | revokeFence (now : ℤ) (candidate : Row)
  | revokeTombstone
  | hashFence (presentedHash : String) (now : ℤ) (session : Row)
  | hashTombstone
  | advanced (session : Row)
deriving DecidableEq

/-- A call, by what it does next. -/
inductive Thread
  /-- `GetUserSessionCached` (lines 219-259): read the cache. -/
  | get
  /-- Compare the expiry of the entry with the clock. -/
  | cached (late : Bool) (entry : Entry)
  /-- Capture the deadline of a fill. -/
  | miss (late : Bool)
  /-- Read the row. -/
  | load (late : Bool) (deadline : ℤ)
  /-- Compare the row with the clock. -/
  | judge (late : Bool) (deadline : ℤ) (session : Row)
  /-- `RotateUserSessionRefresh` (lines 459-550): check the arguments. -/
  | rotate (presentedHash nextHash : String) (now grace : ℤ)
  /-- Begin another round of the loop. -/
  | attempt (call : Rotation) (tries : ℕ)
  /-- Read the row. -/
  | rotateLoad (call : Rotation) (tries : ℕ) (deadline : ℤ)
  /-- Exchange the hash. -/
  | swap (call : Rotation) (tries : ℕ) (deadline : ℤ) (session : Row)
  /-- Revoke the row after the replay of a previous hash. -/
  | reuseUpdate (call : Rotation) (session : Row)
  /-- `RevokeUserSession` (lines 552-603): look at the clock. -/
  | revoke
  /-- Read the candidate. -/
  | revokeLoad (now : ℤ)
  /-- The transaction. -/
  | revokeUpdate (now : ℤ) (candidate : Row)
  /-- `RevokeUserSessionByRefreshHash` (lines 608-659): look at the clock. -/
  | revokeByHash (presentedHash : String)
  /-- Read the row. -/
  | hashLoad (presentedHash : String) (now : ℤ)
  /-- Revoke the row. -/
  | hashUpdate (presentedHash : String) (now : ℤ) (session : Row)
  /-- `AdvanceUserSessionAuthVersion` (lines 664-710): capture the deadline. -/
  | advance (expectedVersion expectedAuthVersion nextAuthVersion : ℤ)
  /-- Look at the clock. -/
  | advanceNow (expectedVersion expectedAuthVersion nextAuthVersion deadline : ℤ)
  /-- The transaction. -/
  | advanceUpdate (expectedVersion expectedAuthVersion nextAuthVersion deadline now : ℤ)
  /-- `writeUserSessionCache` (lines 284-366): compute the expiry. -/
  | write (entry : Entry) (deadline : Option ℤ) (cont : Cont)
  /-- Run the script with the expiry `ARGV[15]`. -/
  | eval (entry : Entry) (deadline : Option ℤ) (redisExpiration : ℤ) (cont : Cont)
  /-- Compare the deadline of a fill with the clock. -/
  | completed (entry : Entry) (deadline : Option ℤ) (cont : Cont)
  /-- `confirmUserSessionActiveSnapshot` (lines 368-389): look at the clock. -/
  | confirm (session : Row) (cont : Cont)
  /-- Count the rows. -/
  | count (now : ℤ) (session : Row) (cont : Cont)
deriving DecidableEq

/-- A call that has not started yet. -/
def Thread.initial : Thread → Bool
  | .get | .rotate .. | .revoke | .revokeByHash _ | .advance .. => true
  | _ => false

/-! ## The shared state -/

/-- How a rotation that has read the row ends. -/
inductive RotateResult
  | rotated
  | inactive
  | refreshInvalid
  | refreshRace
  | refreshReuse
  /-- The error of a deny fence that was not published. -/
  | fenceError
  | databaseError
deriving DecidableEq

/-- A rotation that has ended, with the row it has read. -/
structure Outcome where
  call : Rotation
  seen : Row
  result : RotateResult
deriving DecidableEq

/-- A reader that has ended. -/
structure Answer where
  late : Bool
  active : Bool
deriving DecidableEq

/-- An update of the row: the row before it, the hash on which the call acts with the row that it
has read, and the hash that replaces the presented one. -/
structure Commit where
  before : Row
  presented : Option (String × Row)
  exchangedFor : Option String
deriving DecidableEq

/-- `common.RedisEnabled` and `common.RedisKeyCacheSeconds()`. -/
structure Config where
  redisEnabled : Bool
  cacheSeconds : ℤ

/-- `userCacheTTLSeconds` (lines 130-136). -/
def Config.userCacheTTLSeconds (cfg : Config) : ℤ :=
  if cfg.cacheSeconds ≤ 0 then 60 else cfg.cacheSeconds

/-- The row and the cache, and a record of what has happened: the updates of the row, the last
time at which the row was active, the ended calls, and whether a `RevokeUserSession` has
returned true. -/
structure Shared where
  row : Row
  cache : Option Stored
  clock : ℤ
  lastActive : ℤ
  commits : List Commit
  outcomes : List Outcome
  answers : List Answer
  returned : Bool
deriving DecidableEq

namespace Shared

/-- Some time passes. -/
def tick (s : Shared) (elapsed : ℕ) : Shared :=
  { s with
    clock := s.clock + elapsed
    lastActive := if s.row.status = .active then s.clock + elapsed else s.lastActive }

/-- An update of the row. -/
def commit (s : Shared) (row : Row) (presented : Option (String × Row))
    (exchangedFor : Option String) : Shared :=
  { s with row := row, commits := ⟨s.row, presented, exchangedFor⟩ :: s.commits }

/-- The entry that Redis still has. -/
def visible (s : Shared) : Option Stored := s.cache.filter (unixMilli s.clock ≤ ·.expiry)

def finish (s : Shared) (call : Rotation) (seen : Row) (result : RotateResult) : Shared :=
  { s with outcomes := ⟨call, seen, result⟩ :: s.outcomes }

def answer (s : Shared) (late active : Bool) : Shared :=
  { s with answers := ⟨late, active⟩ :: s.answers }

/-- All rows so far, the newest first. -/
def history (s : Shared) : List Row := s.row :: s.commits.map Commit.before

/-- The exchanges so far, the newest first. -/
def exchanges (s : Shared) : List (String × String) :=
  s.commits.filterMap fun c => c.exchangedFor.map fun next => (c.before.refreshHash, next)

end Shared

/-! ## Steps -/

/-- What is left open about a step: the time that passes before it, and whether its statement or
command fails. -/
structure Choice where
  elapsed : ℕ
  fails : Bool
deriving DecidableEq

/-- The row after a revocation at `now`. -/
def Row.revoke (row : Row) (now : ℤ) : Row := { row with status := .revoked, revokedAt := now }

/-- The row after an exchange (lines 482-487). -/
def Row.exchange (row : Row) (call : Rotation) (session : Row) : Row :=
  { row with
    previousRefreshHash := session.refreshHash
    previousValidUntil := call.now + call.graceSeconds
    refreshHash := call.nextHash }

/-- The expiry of a write to the cache at the time `now` (lines 288-323): an instant for an active
entry, a duration for the others. -/
def redisExpiration (cfg : Config) (now : ℤ) (entry : Entry) (deadline : Option ℤ) :
    Except WriteResult ℤ :=
  let sessionExpiresAt := seconds entry.expiresAt
  let sessionTTL := sessionExpiresAt - now
  if entry.status = .active then
    match deadline with
    | none => .error .invalid
    | some deadline =>
      if deadline - now ≤ 0 then .error .stale
      else if sessionTTL ≤ 0 then .error .inactive
      else
        let cacheExpiresAt := if sessionExpiresAt < deadline then sessionExpiresAt else deadline
        if cacheExpiresAt - now < 1000000 then .error .stale else .ok (unixMilli cacheExpiresAt)
  else
    let ttl := min sessionTTL (seconds cfg.userCacheTTLSeconds)
    let ttl := if ttl ≤ 0 then seconds 1 else ttl
    .ok (if unixMilli ttl ≤ 0 then 1 else unixMilli ttl)

/-- The script (lines 325-348), at the time `now` in milliseconds, on the entry that Redis still
has: `none` if the write is refused, else the entry afterwards. `PEXPIREAT` deletes a key whose
time has come. -/
def evalScript (now : ℤ) (current : Option Stored) (entry : Entry) (expiration : ℤ) :
    Option (Option Stored) :=
  let denied := current.any fun st => st.entry.status = .revoking ∨ st.entry.status = .revoked
  let newer := current.any fun st => entry.version < st.entry.version
  if entry.status = .active ∧ denied then none
  else if newer then none
  else if entry.status = .active then
    if expiration ≤ now then some none else some (some ⟨entry, expiration⟩)
  else some (some ⟨entry, now + expiration⟩)

/-- The caller of `writeUserSessionCache` goes on with its result. -/
def resume (s : Shared) (result : WriteResult) : Cont → Shared × List Thread
  | .filled late session =>
    match result with
    | .stale => (s, [.confirm session (.filled late session)])
    | .inactive => (s.answer late false, [])
    | _ => (s.answer late true, [])
  | .denied late => (s.answer late false, [])
  | .rotated call session =>
    match result with
    | .stale => (s, [.confirm session (.rotated call session)])
    | .inactive => (s.finish call session .inactive, [])
    | _ => (s.finish call session .rotated, [])
  | .reuseFence call session =>
    if result = .ok then (s, [.reuseUpdate call session])
    else (s.finish call session .fenceError, [])
  | .reuseTombstone call session => (s.finish call session .refreshReuse, [])
  | .revokeFence now candidate =>
    if result = .ok then (s, [.revokeUpdate now candidate]) else (s, [])
  | .revokeTombstone => ({ s with returned := true }, [])
  | .hashFence presentedHash now session =>
    if result = .ok then (s, [.hashUpdate presentedHash now session]) else (s, [])
  | .hashTombstone => (s, [])
  | .advanced session =>
    if result = .stale then (s, [.confirm session (.advanced session)]) else (s, [])

/-- The caller of `confirmUserSessionActiveSnapshot` ends. -/
def confirmed (s : Shared) (found : Bool) : Cont → Shared
  | .filled late _ => s.answer late found
  | .rotated call session => s.finish call session (if found then .rotated else .inactive)
  | _ => s

/-- A rotation goes on with the row it has read (lines 470-521). -/
def afterRotateLoad (s : Shared) (call : Rotation) (tries : ℕ) (deadline : ℤ) (session : Row) :
    Shared × List Thread :=
  if ¬ session.usable call.now then (s.finish call session .inactive, [])
  else if session.refreshHash = call.presentedHash then (s, [.swap call tries deadline session])
  else if session.previousRefreshHash = "" ∨ session.previousRefreshHash ≠ call.presentedHash then
    (s.finish call session .refreshInvalid, [])
  else if call.now ≤ session.previousValidUntil then (s.finish call session .refreshRace, [])
  else (s, [.write (session.denyEntry .revoking call.now) none (.reuseFence call session)])

/-- `RevokeUserSessionByRefreshHash` accepts the presented hash (lines 626-631). -/
def hashAccepted (session : Row) (presentedHash : String) (now : ℤ) : Prop :=
  session.refreshHash = presentedHash ∨ session.previousRefreshHash ≠ "" ∧
    now ≤ session.previousValidUntil ∧ session.previousRefreshHash = presentedHash

instance (session : Row) (presentedHash : String) (now : ℤ) :
    Decidable (hashAccepted session presentedHash now) := inferInstanceAs (Decidable (_ ∨ _))

/-- A reader (lines 219-276). -/
def advanceReader (cfg : Config) (fails : Bool) (s : Shared) : Thread → Shared × List Thread
  | .get =>
    let late := s.returned
    if ¬ cfg.redisEnabled ∨ fails then (s, [.miss late])
    else match s.visible with
      | none => (s, [.miss late])
      | some st =>
        if st.entry.status ≠ .active ∨ st.entry.revokedAt ≠ 0 then (s.answer late false, [])
        else (s, [.cached late st.entry])
  | .cached late entry => (s.answer late (unix s.clock < entry.expiresAt), [])
  | .miss late => (s, [.load late (s.clock + seconds cfg.userCacheTTLSeconds)])
  | .load late deadline =>
    if fails then (s.answer late false, []) else (s, [.judge late deadline s.row.found])
  | .judge late deadline session =>
    if session.usable (unix s.clock) then
      (s, [.write session.cacheEntry (some deadline) (.filled late session)])
    else (s, [.write { session.cacheEntry with status := .revoked } none (.denied late)])
  | t => (s, [t])

/-- A rotation (lines 459-550). -/
def advanceRotation (cfg : Config) (fails : Bool) (s : Shared) : Thread → Shared × List Thread
  | .rotate presentedHash nextHash now grace =>
    let call := ⟨presentedHash, nextHash, if now ≤ 0 then unix s.clock else now,
      grace.tdiv 1000000000⟩
    if presentedHash = "" ∨ nextHash = "" ∨ presentedHash = nextHash ∨ call.graceSeconds < 0 then
      (s, [])
    else (s, [.attempt call 3])
  | .attempt call tries =>
    match tries with
    | 0 => (s, [])
    | tries + 1 => (s, [.rotateLoad call tries (s.clock + seconds cfg.userCacheTTLSeconds)])
  | .rotateLoad call tries deadline =>
    if fails then (s, []) else afterRotateLoad s call tries deadline s.row.found
  | .swap call tries deadline session =>
    if fails then (s.finish call session .databaseError, [])
    else if s.row.usable call.now ∧ s.row.refreshHash = call.presentedHash then
      -- the exchange touches neither the entry nor what the confirmation compares
      (s.commit (s.row.exchange call session) (some (call.presentedHash, session))
          (some call.nextHash),
        [.write session.cacheEntry (some deadline) (.rotated call session)])
    else (s, [.attempt call tries])
  | .reuseUpdate call session =>
    if fails then (s.finish call session .databaseError, [])
    else if s.row.usable call.now then
      (s.commit (s.row.revoke call.now) (some (call.presentedHash, session)) none,
        [.write (session.denyEntry .revoked call.now) none (.reuseTombstone call session)])
    else (s.finish call session .inactive, [])
  | t => (s, [t])

/-- A revocation (lines 552-659). -/
def advanceRevocation (fails : Bool) (s : Shared) : Thread → Shared × List Thread
  | .revoke => (s, [.revokeLoad (unix s.clock)])
  | .revokeLoad now =>
    let candidate := s.row.found
    if fails ∨ ¬ candidate.usable now then (s, [])
    else (s, [.write (candidate.denyEntry .revoking now) none (.revokeFence now candidate)])
  | .revokeUpdate now candidate =>
    if fails ∨ ¬ s.row.usable now then (s, [])
    else (s.commit (s.row.revoke now) none none,
      [.write (candidate.denyEntry .revoked now) none .revokeTombstone])
  | .revokeByHash presentedHash =>
    if presentedHash = "" then (s, []) else (s, [.hashLoad presentedHash (unix s.clock)])
  | .hashLoad presentedHash now =>
    let session := s.row.found
    if fails ∨ ¬ session.usable now ∨ ¬ hashAccepted session presentedHash now then (s, [])
    else (s, [.write (session.denyEntry .revoking now) none (.hashFence presentedHash now session)])
  | .hashUpdate presentedHash now session =>
    if fails ∨ s.row.status ≠ .active then (s, [])
    else (s.commit (s.row.revoke now) (some (presentedHash, session)) none,
      [.write (session.denyEntry .revoked now) none .hashTombstone])
  | t => (s, [t])

/-- An advance of the version (lines 664-710). -/
def advanceVersion (cfg : Config) (fails : Bool) (s : Shared) : Thread → Shared × List Thread
  | .advance expectedVersion expectedAuthVersion nextAuthVersion =>
    if expectedVersion ≤ 0 ∨ expectedAuthVersion ≤ 0 ∨ nextAuthVersion ≤ expectedAuthVersion then
      (s, [])
    else (s, [.advanceNow expectedVersion expectedAuthVersion nextAuthVersion
      (s.clock + seconds cfg.userCacheTTLSeconds)])
  | .advanceNow expectedVersion expectedAuthVersion nextAuthVersion deadline =>
    (s, [.advanceUpdate expectedVersion expectedAuthVersion nextAuthVersion deadline
      (unix s.clock)])
  | .advanceUpdate expectedVersion expectedAuthVersion nextAuthVersion deadline now =>
    if fails ∨ s.row.status ≠ .active ∨ s.row.expiresAt ≤ now ∨
        s.row.version ≠ expectedVersion ∨ s.row.userAuthVersion ≠ expectedAuthVersion then (s, [])
    else
      let row := { s.row with
        version := s.row.version + 1, userAuthVersion := nextAuthVersion }
      (s.commit row none none,
        [.write row.found.cacheEntry (some deadline) (.advanced row.found)])
  | t => (s, [t])

/-- `writeUserSessionCache` and `confirmUserSessionActiveSnapshot` (lines 284-389). -/
def advanceCache (cfg : Config) (fails : Bool) (s : Shared) : Thread → Shared × List Thread
  | .write entry deadline cont =>
    if ¬ cfg.redisEnabled then resume s .ok cont
    else match redisExpiration cfg s.clock entry deadline with
      | .error e => resume s e cont
      | .ok expiration => (s, [.eval entry deadline expiration cont])
  | .eval entry deadline expiration cont =>
    if fails then resume s .failed cont
    else match evalScript (unixMilli s.clock) s.visible entry expiration with
      | none => resume s .inactive cont
      | some cache =>
        if entry.status = .active then
          ({ s with cache := cache }, [.completed entry deadline cont])
        else resume { s with cache := cache } .ok cont
  | .completed entry deadline cont =>
    if deadline.any (· ≤ s.clock) then resume s .stale cont
    else if seconds entry.expiresAt ≤ s.clock then resume s .inactive cont
    else resume s .ok cont
  | .confirm session cont => (s, [.count (unix s.clock) session cont])
  | .count now session cont =>
    (confirmed s (¬ fails ∧ s.row.usable now ∧ s.row.version = session.version ∧
      s.row.userAuthVersion = session.userAuthVersion) cont, [])
  | t => (s, [t])

/-- One step of a call. -/
def advance (cfg : Config) (c : Choice) (s : Shared) (t : Thread) : Option (Shared × List Thread) :=
  let s := s.tick c.elapsed
  some <| match t with
    | .get | .cached .. | .miss .. | .load .. | .judge .. => advanceReader cfg c.fails s t
    | .rotate .. | .attempt .. | .rotateLoad .. | .swap .. | .reuseUpdate .. =>
      advanceRotation cfg c.fails s t
    | .revoke | .revokeLoad .. | .revokeUpdate .. | .revokeByHash .. | .hashLoad ..
    | .hashUpdate .. => advanceRevocation c.fails s t
    | .advance .. | .advanceNow .. | .advanceUpdate .. => advanceVersion cfg c.fails s t
    | .write .. | .eval .. | .completed .. | .confirm .. | .count .. =>
      advanceCache cfg c.fails s t

/-! ## What a step can do to the row -/

section Frame

variable {s s' : Shared} {cfg : Config} {c : Choice} {t : Thread} {ts : List Thread}

/-- The states differ only in the ended calls. -/
structure SameStore (s s' : Shared) : Prop where
  row : s'.row = s.row
  commits : s'.commits = s.commits
  cache : s'.cache = s.cache
  clock : s'.clock = s.clock
  lastActive : s'.lastActive = s.lastActive

theorem resume_frame (s : Shared) (r : WriteResult) (k : Cont) : SameStore s (resume s r k).1 := by
  fun_cases resume s r k <;> exact ⟨rfl, rfl, rfl, rfl, rfl⟩

theorem confirmed_frame (s : Shared) (found : Bool) (k : Cont) :
    SameStore s (confirmed s found k) := by
  cases k <;> exact ⟨rfl, rfl, rfl, rfl, rfl⟩

/-- The hash on which the call `t` revokes the row, with the row that it has read. -/
def Thread.revokesOn : Thread → Option (String × Row)
  | .reuseUpdate call session => some (call.presentedHash, session)
  | .hashUpdate presentedHash _ session => some (presentedHash, session)
  | _ => none

/-- The updates of the row. -/
inductive RowStep (s : Shared) : Thread → Row → List Commit → Prop
  | exchange {call : Rotation} {tries : ℕ} {deadline : ℤ} {session : Row}
      (husable : s.row.usable call.now) (hhash : s.row.refreshHash = call.presentedHash) :
      RowStep s (.swap call tries deadline session) (s.row.exchange call session)
        (⟨s.row, some (call.presentedHash, session), some call.nextHash⟩ :: s.commits)
  | revoke {t : Thread} (now : ℤ) (hactive : s.row.status = .active) :
      RowStep s t (s.row.revoke now) (⟨s.row, t.revokesOn, none⟩ :: s.commits)
  | advance {t : Thread} (version userAuthVersion : ℤ) (hactive : s.row.status = .active) :
      RowStep s t { s.row with version := version, userAuthVersion := userAuthVersion }
        (⟨s.row, none, none⟩ :: s.commits)

variable (fails : Bool)

theorem advanceReader_frame (s : Shared) (t : Thread) :
    SameStore s (advanceReader cfg fails s t).1 := by
  fun_cases advanceReader cfg fails s t <;> exact ⟨rfl, rfl, rfl, rfl, rfl⟩

theorem afterRotateLoad_frame (s : Shared) (call : Rotation) (tries : ℕ) (deadline : ℤ)
    (session : Row) : SameStore s (afterRotateLoad s call tries deadline session).1 := by
  fun_cases afterRotateLoad s call tries deadline session <;> exact ⟨rfl, rfl, rfl, rfl, rfl⟩

theorem advanceCache_row (s : Shared) (t : Thread) :
    (advanceCache cfg fails s t).1.row = s.row ∧
      (advanceCache cfg fails s t).1.commits = s.commits := by
  cases t with
  | write | eval | completed =>
    dsimp only [advanceCache]
    repeat' split
    all_goals first | exact ⟨rfl, rfl⟩ | exact ⟨(resume_frame ..).row, (resume_frame ..).commits⟩
  | count => exact ⟨(confirmed_frame ..).row, (confirmed_frame ..).commits⟩
  | _ => exact ⟨rfl, rfl⟩

theorem advanceRotation_row (s : Shared) (t : Thread) :
    ((advanceRotation cfg fails s t).1.row = s.row ∧
      (advanceRotation cfg fails s t).1.commits = s.commits) ∨
    RowStep s t (advanceRotation cfg fails s t).1.row
      (advanceRotation cfg fails s t).1.commits := by
  fun_cases advanceRotation cfg fails s t
  case case6 =>
    exact .inl ⟨(afterRotateLoad_frame ..).row, (afterRotateLoad_frame ..).commits⟩
  case case8 hswap => exact .inr (.exchange hswap.1 hswap.2)
  case case11 call _ _ husable => exact .inr (.revoke call.now husable.1)
  all_goals exact .inl ⟨rfl, rfl⟩

theorem advanceRevocation_row (s : Shared) (t : Thread) :
    ((advanceRevocation fails s t).1.row = s.row ∧
      (advanceRevocation fails s t).1.commits = s.commits) ∨
    RowStep s t (advanceRevocation fails s t).1.row (advanceRevocation fails s t).1.commits := by
  fun_cases advanceRevocation fails s t
  case case5 now _ husable =>
    rw [not_or, not_not] at husable
    exact .inr (.revoke now husable.2.1)
  case case11 now _ hactive =>
    rw [not_or, not_not] at hactive
    exact .inr (.revoke now hactive.2)
  all_goals exact .inl ⟨rfl, rfl⟩

theorem advanceVersion_row (s : Shared) (t : Thread) :
    ((advanceVersion cfg fails s t).1.row = s.row ∧
      (advanceVersion cfg fails s t).1.commits = s.commits) ∨
    RowStep s t (advanceVersion cfg fails s t).1.row (advanceVersion cfg fails s t).1.commits := by
  fun_cases advanceVersion cfg fails s t
  case case5 hchecked _ =>
    have hactive : s.row.status = .active := by
      by_contra hne
      exact hchecked (.inr (.inl hne))
    exact .inr (.advance _ _ hactive)
  all_goals exact .inl ⟨rfl, rfl⟩

/-- **Inversion.** A step leaves the row, or it is an exchange, a revocation or an advance of an
active row. -/
theorem advance_row (h : advance cfg c s t = some (s', ts)) :
    s'.row = s.row ∧ s'.commits = s.commits ∨
      ∃ row commits, RowStep (s.tick c.elapsed) t row commits ∧ s'.row = row ∧
        s'.commits = commits := by
  have hcases : s'.row = s.row ∧ s'.commits = s.commits ∨
      RowStep (s.tick c.elapsed) t s'.row s'.commits := by
    obtain h := Option.some.inj h
    have hs' := congrArg Prod.fst h
    subst hs'
    cases t with
    | get | cached | miss | load | judge =>
      exact .inl ⟨(advanceReader_frame ..).row, (advanceReader_frame ..).commits⟩
    | rotate | attempt | rotateLoad | swap | reuseUpdate => exact advanceRotation_row ..
    | revoke | revokeLoad | revokeUpdate | revokeByHash | hashLoad | hashUpdate =>
      exact advanceRevocation_row ..
    | advance | advanceNow | advanceUpdate => exact advanceVersion_row ..
    | write | eval | completed | confirm | count => exact .inl (advanceCache_row ..)
  exact hcases.imp_right fun hstep => ⟨_, _, hstep, rfl, rfl⟩

end Frame

end OmniRouters.UserSession
