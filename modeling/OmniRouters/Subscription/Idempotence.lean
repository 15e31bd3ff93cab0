import OmniRouters.Lib.Threads
import OmniRouters.Subscription.Usage

/-!
# Pre-consumes of one request

`preConsumeUserSubscription` (model/subscription.go:1404-1550) statement by statement,
for any number of calls that run at the same time: the look at the record of the request, the
lock on the candidates, the insert of the record under the unique index of the request id, and
the commit. Locking statements and the index see what is committed; a statement or a commit may
fail, and its transaction is then rolled back.

A call that finds no record of its request may still lose the insert. It then reads the record
once more. At repeatable read its first look is the snapshot of the transaction, which has no
record, and the call fails; so it does on PostgreSQL, where the failed insert aborts the
transaction. At read committed (MySQL) it returns what the record says was pre-consumed, but the
subscription that it has picked itself.

* `chargeFirst_find?`: the candidate loop stops at the first row that qualifies.
* `advance_sound`: one statement keeps the index and the answers.
* `preConsume_once`: one charge for a request, and every answer agrees with its record, if a call
  that loses the insert at read committed has picked the subscription of the record.
* `duplicate_answers_other_subscription`: the answer of a call that has picked another one.
-/

namespace OmniRouters.Subscription.Idempotence

open Billing Lib List Tables

/-! ## Calls -/

/-- A call, with the plans it reads. -/
structure Call where
  plans : Plans
  fuel : ℕ
  req : PreConsume

/-- `SubscriptionPreConsumeResult` (lines 1231-1238). -/
structure Result where
  userSubscriptionId : ℕ
  preConsumed : ℤ
  amountTotal : ℤ
  amountUsedBefore : ℤ
  amountUsedAfter : ℤ
  allowedGroups : List String
deriving DecidableEq

/-- The committed tables, the locked rows, the request ids with an insert that is not committed,
and the records of the charges that were committed. -/
structure Shared where
  tables : Tables
  rowLocks : List ℕ
  keyLocks : List String
  charges : List Record

inductive Thread
  /-- Before the look at the record. -/
  | check (call : Call)
  /-- Before the lock on the candidates. -/
  | select (call : Call)
  /-- Before the insert, with the rows that are locked. -/
  | insert (call : Call) (rows : List Row)
  /-- Before the commit of a charge. -/
  | commitCharge (call : Call) (rows : List Row) (saves : List (Row × Bool)) (row : Row)
  /-- Before the commit of a call that has lost the insert. -/
  | commitDuplicate (call : Call) (rows : List Row) (saves : List (Row × Bool)) (row : Row)
      (preConsumed : ℤ)
  | returned (call : Call) (result : Option Result)

/-- The answer when the request has a record (lines 1428-1463). -/
def existingResult (t : Tables) (call : Call) (existing : Record) : Option Result :=
  if existing.refunded ∨ call.req.hint ≠ 0 ∧ existing.userSubscriptionId ≠ call.req.hint then none
  else (t.find? existing.userSubscriptionId).bind fun sub =>
    (call.plans sub.planId).bind fun plan =>
      if sub.mode plan ≠ call.req.mode ∨
          ¬ allowsGroup sub.allowedGroups (trimSpace call.req.usingGroup) then none
      else some {
        userSubscriptionId := sub.id
        preConsumed := existing.preConsumed
        amountTotal := sub.amountTotal
        amountUsedBefore := sub.amountUsed
        amountUsedAfter := sub.amountUsed
        allowedGroups := normalizeSubscriptionGroups sub.allowedGroups }

/-- The answer of a charge (lines 1533-1538). -/
def chargeResult (call : Call) (row : Row) : Result where
  userSubscriptionId := row.id
  preConsumed := call.req.amount
  amountTotal := row.amountTotal
  amountUsedBefore := row.amountUsed
  amountUsedAfter := (row.charge call.req.amount).amountUsed
  allowedGroups := normalizeSubscriptionGroups row.allowedGroups

/-- The answer of a call that has lost the insert (lines 1519-1525). The
subscription is the candidate, not that of the record. -/
def duplicateResult (row : Row) (preConsumed : ℤ) : Result where
  userSubscriptionId := row.id
  preConsumed := preConsumed
  amountTotal := row.amountTotal
  amountUsedBefore := row.amountUsed
  amountUsedAfter := row.amountUsed
  allowedGroups := normalizeSubscriptionGroups row.allowedGroups

/-- The checks of the arguments. -/
def validArgs (req : PreConsume) : Bool :=
  ¬ (req.userId = 0 ∨ trimSpace req.requestId = "" ∨ req.amount ≤ 0 ∨
    trimSpace req.usingGroup = "" ∨ trimSpace req.usingGroup = "auto")

/-- The end of a transaction on `rows`. -/
def Shared.unlock (s : Shared) (rows : List Row) : Shared :=
  { s with rowLocks := s.rowLocks.filter fun id => rows.all (·.id ≠ id) }

/-- The end of a transaction that has inserted a record. -/
def Shared.unlockKey (s : Shared) (requestId : String) : Shared :=
  { s with keyLocks := s.keyLocks.filter (· ≠ requestId) }

/-- One statement. `ok` says whether it succeeds; a statement that waits for a lock is blocked. -/
def advance (isolation : Isolation) (ok : Bool) (s : Shared) :
    Thread → Option (Shared × List Thread)
  | .check call =>
    if ok = false ∨ validArgs call.req = false then some (s, [.returned call none])
    else match s.tables.record? call.req.requestId with
      | some existing => some (s, [.returned call (existingResult s.tables call existing)])
      | none => some (s, [.select call])
  | .select call =>
    let rows := candidates s.tables call.req
    if ok = false ∨ rows = [] then some (s, [.returned call none])
    else if rows.any fun row => row.id ∈ s.rowLocks then none
    else some ({ s with rowLocks := rows.map Row.id ++ s.rowLocks }, [.insert call rows])
  | .insert call rows =>
    match chargeFirst call.plans call.fuel call.req rows with
    | none => some (s.unlock rows, [.returned call none])
    | some (saves, row) =>
      if ok = false then some (s.unlock rows, [.returned call none])
      else if call.req.requestId ∈ s.keyLocks then none
      else match s.tables.record? call.req.requestId with
        | some dup =>
          if isolation = .repeatableRead ∨ dup.refunded then
            some (s.unlock rows, [.returned call none])
          else some (s, [.commitDuplicate call rows saves row dup.preConsumed])
        | none =>
          some ({ s with keyLocks := call.req.requestId :: s.keyLocks },
            [.commitCharge call rows saves row])
  | .commitCharge call rows saves row =>
    let s' := (s.unlock rows).unlockKey call.req.requestId
    if ok = false then some (s', [.returned call none])
    else
      let t := (s.tables.saveAll saves).save (row.charge call.req.amount)
      let record : Record := ⟨call.req.requestId, row.id, call.req.amount, false⟩
      some ({ s' with
        tables := { t with records := record :: t.records }
        charges := record :: s.charges }, [.returned call (some (chargeResult call row))])
  | .commitDuplicate call rows saves row preConsumed =>
    if ok = false then some (s.unlock rows, [.returned call none])
    else some ({ s.unlock rows with tables := s.tables.saveAll saves },
      [.returned call (some (duplicateResult row preConsumed))])
  | .returned _ _ => none

/-- A row that the candidate loop can charge: of the mode and the group of the request, and with
room for its amount after the reset that is due. -/
def qualifies (call : Call) (row : Row) : Bool :=
  match call.plans row.planId with
  | none => false
  | some plan =>
    row.mode plan = call.req.mode &&
      allowsGroup row.allowedGroups (trimSpace call.req.usingGroup) &&
      match maybeResetUserSubscriptionWithPlanTx call.fuel plan call.req.now row with
      | none => false
      | some (row, _) =>
        ¬ (0 < row.amountTotal ∧ row.amountTotal - row.amountUsed < call.req.amount)

/-- A call that inserts at read committed while its request has a record: the first of its
candidates that qualifies is the subscription of the record. -/
def DuplicateFits (isolation : Isolation) (p : Pool Shared Thread) (_ : Bool) : Thread → Prop
  | .insert call rows => isolation = .readCommitted →
      ∀ dup ∈ p.shared.tables.record? call.req.requestId,
        (rows.find? (qualifies call)).map Row.id = some dup.userSubscriptionId
  | _ => True

instance (isolation : Isolation) (p : Pool Shared Thread) (ok : Bool) :
    (t : Thread) → Decidable (DuplicateFits isolation p ok t)
  | .insert call rows =>
    inferInstanceAs (Decidable (isolation = .readCommitted →
      ∀ dup ∈ p.shared.tables.record? call.req.requestId,
        (rows.find? (qualifies call)).map Row.id = some dup.userSubscriptionId))
  | .check _ => isTrue trivial
  | .select _ => isTrue trivial
  | .commitCharge .. => isTrue trivial
  | .commitDuplicate .. => isTrue trivial
  | .returned .. => isTrue trivial

/-! ## Candidates -/

/-- The candidate loop stops at the first row that qualifies. -/
theorem chargeFirst_find? {call : Call} {rows : List Row} {saves : List (Row × Bool)} {row : Row}
    (h : chargeFirst call.plans call.fuel call.req rows = some (saves, row)) :
    (rows.find? (qualifies call)).map Row.id = some row.id := by
  fun_induction chargeFirst call.plans call.fuel call.req rows generalizing saves
  case case1 | case2 | case4 => cases h
  case case3 r rest plan hplan hskip ih =>
    have hno : qualifies call r = false := by
      simp only [qualifies, hplan]
      rcases hskip with hmode | hgroup
      · simp [hmode]
      · simp [hgroup]
    rw [find?_cons, hno]
    exact ih h
  case case5 r rest plan hplan _ r' wasReset hreset hroom ih =>
    have hno : qualifies call r = false := by simp [qualifies, hplan, hreset, hroom]
    obtain ⟨out, hout, heq⟩ := Option.map_eq_some_iff.1 h
    cases heq
    rw [find?_cons, hno]
    exact ih hout
  case case6 r rest plan hplan hfits r' wasReset hreset hroom =>
    simp only [not_or, not_not] at hfits
    have hyes : qualifies call r = true := by
      simp only [qualifies, hplan, hreset, hfits, hroom]
      simp
    cases h
    rw [find?_cons, hyes]
    exact congrArg some (maybeReset_follows hreset).id.symm

/-! ## Records -/

section Records

variable {t : Tables} {r : String} {record x : Record} {rows : List Row}

/-- A record with a new key leaves the others. -/
theorem record?_cons (hnew : t.record? x.requestId = none) (h : t.record? r = some record) :
    record? ⟨rows, x :: t.records⟩ r = some record := by
  have hne : x.requestId ≠ r := by
    rintro rfl
    rw [h] at hnew
    cases hnew
  unfold record? at h ⊢
  rw [find?_cons_of_neg (by simpa using hne), h]

theorem record?_cons_self : record? ⟨rows, x :: t.records⟩ x.requestId = some x := by
  exact find?_cons_of_pos (by simp)

theorem record?_cons_none (hne : x.requestId ≠ r) (h : t.record? r = none) :
    record? ⟨rows, x :: t.records⟩ r = none := by
  unfold record? at h ⊢
  rw [find?_cons_of_neg (by simpa using hne), h]

def Indexed (records : List Record) : Prop := (records.map Record.requestId).Nodup

theorem Indexed.cons (h : Indexed t.records) (hnew : t.record? x.requestId = none) :
    Indexed (x :: t.records) := by
  refine nodup_cons.2 ⟨fun hmem => ?_, h⟩
  obtain ⟨y, hy, heq⟩ := mem_map.1 hmem
  have hno := find?_eq_none.1 hnew y hy
  exact hno (by simpa using heq)

theorem Indexed.length_le {records : List Record} (h : Indexed records) (r : String) :
    (records.filter (·.requestId = r)).length ≤ 1 := by
  have hkeys : (records.filter (·.requestId = r)).length =
      (records.map Record.requestId).count r := by
    rw [count_eq_countP, countP_map, ← countP_eq_length_filter]
    rfl
  rw [hkeys]
  exact nodup_iff_count_le_one.1 h r

end Records

/-! ## Answers -/

/-- The number of inserts for the request `r` that a call has still to commit. -/
def Thread.inserts (r : String) : Thread → ℕ
  | .commitCharge call _ _ _ => if call.req.requestId = r then 1 else 0
  | _ => 0

/-- The request has a record, with this subscription and amount. -/
def Recorded (t : Tables) (requestId : String) (subscriptionId : ℕ) (preConsumed : ℤ) : Prop :=
  ∃ record, t.record? requestId = some record ∧ record.userSubscriptionId = subscriptionId ∧
    record.preConsumed = preConsumed

/-- What a call answers, or is about to answer, is what the record says. -/
def Thread.Agrees (t : Tables) : Thread → Prop
  | .commitDuplicate call _ _ row preConsumed =>
    Recorded t call.req.requestId row.id preConsumed
  | .returned call (some result) =>
    Recorded t call.req.requestId result.userSubscriptionId result.preConsumed
  | _ => True

/-- The invariant, from tables with the records `before`. -/
structure Sound (before : List Record) (s : Shared) (threads : List Thread) : Prop where
  charges : s.tables.records = s.charges ++ before
  indexed : Indexed s.tables.records
  keys : ∀ r, (threads.map (Thread.inserts r)).sum = if r ∈ s.keyLocks then 1 else 0
  fresh : ∀ r ∈ s.keyLocks, s.tables.record? r = none
  agrees : ∀ t ∈ threads, t.Agrees s.tables

section Steps

variable {before : List Record} {s s' : Shared} {t t' : Thread} {ts others : List Thread}

theorem Recorded.mono {u u' : Tables} {r : String} {id : ℕ} {amount : ℤ}
    (hmono : ∀ r record, u.record? r = some record → u'.record? r = some record)
    (h : Recorded u r id amount) : Recorded u' r id amount := by
  obtain ⟨record, hrecord, hrest⟩ := h
  exact ⟨record, hmono r record hrecord, hrest⟩

theorem Thread.Agrees.mono {u u' : Tables}
    (hmono : ∀ r record, u.record? r = some record → u'.record? r = some record)
    (h : t.Agrees u) : t.Agrees u' := by
  cases t with
  | commitDuplicate call rows saves row preConsumed => exact Recorded.mono hmono h
  | returned call result =>
    cases result with
    | none => trivial
    | some result => exact Recorded.mono hmono h
  | _ => trivial

theorem Sound.perm {l l' : List Thread} (hperm : l.Perm l') (h : Sound before s l) :
    Sound before s l' where
  charges := h.charges
  indexed := h.indexed
  keys r := by rw [← (hperm.map _).sum_eq, h.keys]
  fresh := h.fresh
  agrees t ht := h.agrees t (hperm.mem_iff.2 ht)

variable {call : Call}

section

variable (h : Sound before s (t :: others)) (hrecords : s'.tables.records = s.tables.records)
  (hcharges : s'.charges = s.charges) (hkeys : s'.keyLocks = s.keyLocks)

include h hrecords hcharges hkeys

/-- A step that keeps the records and the keys, and replaces one call. -/
theorem Sound.replace (hinserts : ∀ r, t'.inserts r = t.inserts r)
    (hagrees : t'.Agrees s.tables) : Sound before s' (t' :: others) := by
  have hrecord : ∀ r, s'.tables.record? r = s.tables.record? r := by
    intro r
    unfold record?
    rw [hrecords]
  have hmono : ∀ r record, s.tables.record? r = some record → s'.tables.record? r = some record :=
    fun r record hr => (hrecord r).trans hr
  refine ⟨?_, ?_, fun r => ?_, fun r hr => ?_, fun x hx => ?_⟩
  · rw [hrecords, hcharges, h.charges]
  · rw [hrecords]
    exact h.indexed
  · have hr := h.keys r
    rw [map_cons, sum_cons] at hr ⊢
    rw [hinserts, hkeys, hr]
  · rw [hrecord]
    exact h.fresh r (hkeys ▸ hr)
  · rcases mem_cons.1 hx with rfl | hx
    · exact hagrees.mono hmono
    · exact (h.agrees x (mem_cons_of_mem _ hx)).mono hmono

/-- A call that is rolled back. -/
theorem Sound.fail (hinserts : ∀ r, t.inserts r = 0) :
    Sound before s' ([.returned call none] ++ others) :=
  h.replace hrecords hcharges hkeys (fun r => (hinserts r).symm) trivial

end

theorem existingResult_recorded {u : Tables} {existing : Record} {result : Result}
    (hexisting : u.record? call.req.requestId = some existing)
    (h : existingResult u call existing = some result) :
    Recorded u call.req.requestId result.userSubscriptionId result.preConsumed := by
  unfold existingResult at h
  split at h
  · cases h
  obtain ⟨sub, hsub, h⟩ := Option.bind_eq_some_iff.1 h
  obtain ⟨plan, -, h⟩ := Option.bind_eq_some_iff.1 h
  split at h
  · cases h
  · cases h
    exact ⟨existing, hexisting, (mem_of_find? hsub).2.symm, rfl⟩

theorem Sound.inserted {rows : List Row} {saves : List (Row × Bool)} {row : Row}
    (h : Sound before s (.commitCharge call rows saves row :: others)) :
    call.req.requestId ∈ s.keyLocks ∧ ∀ r, (others.map (Thread.inserts r)).sum =
        if r ∈ s.keyLocks.filter (· ≠ call.req.requestId) then 1 else 0 := by
  have hself := h.keys call.req.requestId
  rw [map_cons, sum_cons] at hself
  simp only [Thread.inserts, if_true] at hself
  have hmem : call.req.requestId ∈ s.keyLocks := by
    by_contra hno
    rw [if_neg hno] at hself
    omega
  refine ⟨hmem, fun r => ?_⟩
  have hr := h.keys r
  rw [map_cons, sum_cons] at hr
  by_cases heq : call.req.requestId = r
  · subst heq
    rw [if_pos hmem] at hself
    rw [if_neg (by simp)]
    omega
  · have hne : r ≠ call.req.requestId := fun h => heq h.symm
    simp only [Thread.inserts, if_neg heq, Nat.zero_add] at hr
    simp only [hr, mem_filter, decide_not, Bool.not_eq_true', decide_eq_false_iff_not, hne,
      not_false_eq_true, and_true]

section Keys

variable {call : Call} {rows : List Row} {saves : List (Row × Bool)} {row : Row}

theorem Sound.takeKey (h : Sound before s (.insert call rows :: others))
    (hfree : call.req.requestId ∉ s.keyLocks)
    (hnew : s.tables.record? call.req.requestId = none) :
    Sound before { s with keyLocks := call.req.requestId :: s.keyLocks }
      (.commitCharge call rows saves row :: others) where
  charges := h.charges
  indexed := h.indexed
  keys r := by
    have hkeys := h.keys r
    simp only [map_cons, sum_cons, Thread.inserts, Nat.zero_add] at hkeys ⊢
    rw [hkeys]
    by_cases heq : call.req.requestId = r
    · subst heq
      simp [hfree]
    · have hne : r ≠ call.req.requestId := fun h => heq h.symm
      simp [heq, hne]
  fresh r hr := by
    rcases mem_cons.1 hr with rfl | hr
    · exact hnew
    · exact h.fresh r hr
  agrees x hx := by
    rcases mem_cons.1 hx with rfl | hx
    · trivial
    · exact h.agrees x (mem_cons_of_mem _ hx)

/-- A key that is still held after another one was released. -/
theorem Shared.mem_unlockKey {requestId r : String}
    (h : r ∈ (s.unlockKey requestId).keyLocks) : r ∈ s.keyLocks ∧ r ≠ requestId := by
  simpa [Shared.unlockKey] using h

section

variable (h : Sound before s (.commitCharge call rows saves row :: others))

include h

/-- A call with a key is rolled back. -/
theorem Sound.rollback : Sound before ((s.unlock rows).unlockKey call.req.requestId)
      (.returned call none :: others) where
  charges := h.charges
  indexed := h.indexed
  keys r := by
    exact (Nat.zero_add _).trans (h.inserted.2 r)
  fresh r hr := h.fresh r (Shared.mem_unlockKey hr).1
  agrees x hx := by
    rcases mem_cons.1 hx with rfl | hx
    · trivial
    · exact h.agrees x (mem_cons_of_mem _ hx)

theorem Sound.commit {record : Record}
    (hrecord : record = ⟨call.req.requestId, row.id, call.req.amount, false⟩) (saved : List Row) :
    Sound before { (s.unlock rows).unlockKey call.req.requestId with
        tables := ⟨saved, record :: s.tables.records⟩
        charges := record :: s.charges }
      (.returned call (some (chargeResult call row)) :: others) := by
  obtain ⟨hmem, hkeys⟩ := h.inserted
  subst hrecord
  have hnew := h.fresh _ hmem
  refine ⟨?_, h.indexed.cons hnew, fun r => ?_, fun r hr => ?_, fun x hx => ?_⟩
  · rw [h.charges]
    rfl
  · exact (Nat.zero_add _).trans (hkeys r)
  · obtain ⟨hr, hne⟩ := Shared.mem_unlockKey hr
    exact record?_cons_none hne.symm (h.fresh r hr)
  · rcases mem_cons.1 hx with rfl | hx
    · exact ⟨_, record?_cons_self, rfl, rfl⟩
    · exact (h.agrees x (mem_cons_of_mem _ hx)).mono fun r record hr => record?_cons hnew hr

end

end Keys

/-- **One statement** keeps the index and the answers. -/
theorem advance_sound {isolation : Isolation} {p : Pool Shared Thread} {ok : Bool}
    (hp : p.shared = s) (h : Sound before s (t :: others)) (hok : DuplicateFits isolation p ok t)
    (hstep : advance isolation ok s t = some (s', ts)) : Sound before s' (ts ++ others) := by
  subst hp
  revert hstep
  fun_cases advance isolation ok p.shared t
  case case13 =>
    intro hstep
    obtain ⟨rfl, rfl⟩ := Prod.mk.inj (Option.some.inj hstep)
    exact h.rollback
  all_goals rintro ⟨⟩
  case case1 | case4 | case7 | case8 | case10 | case15 => exact h.fail rfl rfl rfl fun _ => rfl
  case case2 call _ existing hexisting =>
    refine h.replace rfl rfl rfl (fun _ => rfl) ?_
    cases hresult : existingResult p.shared.tables call existing with
    | none => trivial
    | some result => exact existingResult_recorded hexisting hresult
  case case3 | case6 => exact h.replace rfl rfl rfl (fun _ => rfl) trivial
  -- the insert is lost: the candidate is the subscription of the record
  case case11 hcharge _ _ dup hdup hread =>
    have hcommitted : isolation = .readCommitted := by
      cases isolation with
      | readCommitted => rfl
      | repeatableRead => exact absurd (.inl rfl) hread
    have hpicked := (chargeFirst_find? hcharge).symm.trans (hok hcommitted dup hdup)
    exact h.replace rfl rfl rfl (fun _ => rfl) ⟨dup, hdup, (Option.some.inj hpicked).symm, rfl⟩
  case case12 hfree hnew => exact h.takeKey hfree hnew
  case case14 call _ saves row _ _ _ _ =>
    have hrecords : ((p.shared.tables.saveAll saves).save (row.charge call.req.amount)).records =
        p.shared.tables.records := saveAll_records saves
    rw [hrecords]
    exact h.commit rfl _
  case case16 call _ saves row preConsumed _ =>
    have hrecorded : Recorded p.shared.tables call.req.requestId row.id preConsumed :=
      h.agrees _ mem_cons_self
    exact h.replace (saveAll_records saves) rfl rfl (fun _ => rfl) hrecorded

end Steps

/-! ## Runs -/

/-- The calls at the start, on the tables `t`. -/
def start (t : Tables) (calls : List Call) : Pool Shared Thread :=
  ⟨⟨t, [], [], []⟩, calls.map Thread.check⟩

theorem start_sound {t : Tables} (h : Indexed t.records) (calls : List Call) :
    Sound t.records (start t calls).shared (start t calls).threads where
  charges := rfl
  indexed := h
  keys r := by
    have hfree : r ∉ (start t calls).shared.keyLocks := not_mem_nil
    refine sum_eq_zero fun n hn => ?_
    obtain ⟨x, hx, rfl⟩ := mem_map.1 hn
    obtain ⟨call, -, rfl⟩ := mem_map.1 hx
    rfl
  fresh r hr := by cases hr
  agrees x hx := by
    obtain ⟨call, -, rfl⟩ := mem_map.1 hx
    trivial

/-- **One charge for a request.** Any calls run at the same time, and any of their statements fail.
If a call that loses the insert at read committed has picked the subscription of the record, then at
most one call charges a subscription for a request, its record says so, and every call that succeeds
answers with the subscription and the amount of the record of its request. -/
theorem preConsume_once (isolation : Isolation) {t : Tables} (hindex : Indexed t.records)
    {calls : List Call} {p : Pool Shared Thread}
    (hrun : Exec (Pool.step (advance isolation)) (Pool.Meets (DuplicateFits isolation))
      (start t calls) p) :
    (∀ r, (p.shared.charges.filter (·.requestId = r)).length ≤ 1) ∧
      (∀ charge ∈ p.shared.charges, charge ∈ p.shared.tables.records) ∧
      ∀ call result, .returned call (some result) ∈ p.threads →
        ∃ record, p.shared.tables.record? call.req.requestId = some record ∧
          record.userSubscriptionId = result.userSubscriptionId ∧
          record.preConsumed = result.preConsumed := by
  have hsound : Sound t.records p.shared p.threads := by
    refine Pool.invariant (I := Sound t.records) ?_ ?_ (start_sound hindex calls) hrun
    · intro s l l' hperm hl
      exact hl.perm hperm
    · intro p ok c s ts others hok _ hp hstep
      exact advance_sound rfl hp hok hstep
  refine ⟨fun r => ?_, fun charge hcharge => ?_, fun call result hmem => hsound.agrees _ hmem⟩
  · have hle := hsound.indexed.length_le r
    rw [hsound.charges, filter_append, length_append] at hle
    omega
  · rw [hsound.charges]
    exact mem_append_left _ hcharge

/-- Two subscriptions of one user. -/
def twoRows : Tables where
  rows := [minuteRow 0 1 61, { minuteRow 0 1 61 with id := 2, endTime := 2000 }]
  records := []

def minuteCall (requestId : String) (amount : ℤ) : Call :=
  ⟨everyMinute, 5, minuteRequest requestId amount 10⟩

/-- The answers of the calls that have returned. -/
def answers (p : Pool Shared Thread) : List (Option (ℕ × ℤ)) :=
  p.threads.filterMap fun
    | .returned _ result => some (result.map fun r => (r.userSubscriptionId, r.preConsumed))
    | _ => none

/-- Two calls for one request, of 40 units. The second loses the insert and picks the same
subscription, which has room for both. -/
theorem preConsume_once_of_two :
    ∃ p, Exec (Pool.step (advance .readCommitted)) (Pool.Meets (DuplicateFits .readCommitted))
        (start twoRows [minuteCall "a" 40, minuteCall "a" 40]) p ∧
      answers p = [some (1, 40), some (1, 40)] ∧ p.shared.charges = [⟨"a", 1, 40, false⟩] ∧
      ((∀ r, (p.shared.charges.filter (·.requestId = r)).length ≤ 1) ∧
        (∀ charge ∈ p.shared.charges, charge ∈ p.shared.tables.records) ∧
        ∀ call result, .returned call (some result) ∈ p.threads →
          ∃ record, p.shared.tables.record? call.req.requestId = some record ∧
            record.userSubscriptionId = result.userSubscriptionId ∧
            record.preConsumed = result.preConsumed) := by
  have hindex : Indexed twoRows.records := nodup_nil
  exact Exec.exists_and_and_of_actions [(0, true), (1, true), (0, true), (0, true), (0, true), (1,
    true), (1, true), (1, true)] (by decide +kernel) fun _ hrun _ _ =>
    preConsume_once .readCommitted hindex hrun

/-- Two calls for one request, of 60 units, at read committed. The first charges subscription 1,
which has then no room for the second: it picks subscription 2, loses the insert and answers 2. -/
theorem duplicate_answers_other_subscription :
    ∃ p, Exec (Pool.step (advance .readCommitted)) (fun _ _ => True)
        (start twoRows [minuteCall "a" 60, minuteCall "a" 60]) p ∧
      answers p = [some (1, 60), some (2, 60)] ∧
      p.shared.tables.records = [⟨"a", 1, 60, false⟩] := by
  exact Exec.exists_of_actions [(0, true), (1, true), (0, true), (0, true), (0, true), (1, true),
    (1, true), (1, true)] (by decide +kernel)

end OmniRouters.Subscription.Idempotence
