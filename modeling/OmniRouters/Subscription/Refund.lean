import OmniRouters.Lib.Threads
import OmniRouters.Subscription.Usage

/-!
# The refund of a pre-consume

`RefundSubscriptionPreConsume` (model/subscription.go:1553-1576) locks the record of a
request, gives the usage back through `PostConsumeUserSubscriptionDelta`, and then saves the
status of the record. The usage is committed by a transaction of its own: when the status is not
saved or not committed afterwards, the record still says `consumed`, and the next attempt of
`refundWithRetry` (service/funding_source.go:184-203) gives the usage back once more.

Calls, their retries and any other operations on the tables run at the same time. Each statement
and each commit of a call may fail.

* `advance_sound`: one step keeps the count of the refunds under way.
* `usage_refunded_once`: at most one refund, and one exactly if the record ends as refunded, if
  the status is saved whenever the usage was given back.
* `usage_refunded_twice`: the save of the status fails once, and the usage is given back twice.
-/

namespace OmniRouters.Subscription.Refund

open Lib List Tables

/-! ## Calls -/

/-- The tables, the row lock on the record, and how often the usage was given back for it. -/
structure Shared where
  tables : Tables
  locked : Bool
  applied : ℕ

/-- Where a call is, with the number of attempts it has left. -/
inductive Thread
  /-- Before `SELECT … FOR UPDATE` on the record. -/
  | refund (attempts : ℕ)
  /-- Before `PostConsumeUserSubscriptionDelta`, with the record that was read. -/
  | decrement (attempts : ℕ) (record : Record)
  /-- Before `tx.Save` of the record. -/
  | save (attempts : ℕ) (record : Record)
  /-- Before the commit of what was saved. -/
  | commit (attempts : ℕ) (write : Option Record)
  /-- Another operation. -/
  | other (op : Op)
  | returned (ok : Bool)

/-- The loop of `refundWithRetry` after an error. -/
def retry : ℕ → Thread
  | 0 => .returned false
  | attempts + 1 => .refund attempts

/-- `refundWithRetry` (funding_source.go:186-203): three attempts. -/
def refundWithRetry : Thread := .refund 2

/-- One step of a call for the request `r`. `ok` says whether its statement succeeds; a
transaction that fails is rolled back and gives up the lock. -/
def advance (r : String) (ok : Bool) (s : Shared) : Thread → Option (Shared × List Thread)
  | .refund attempts =>
    if ok = false then some (s, [retry attempts])
    else if s.locked then none
    else match s.tables.record? r with
      | none => some (s, [retry attempts])
      | some record =>
        some ({ s with locked := true },
          [if record.refunded then .commit attempts none
           else if record.preConsumed ≤ 0 then .save attempts record
           else .decrement attempts record])
  | .decrement attempts record =>
    match if ok then postConsumeDelta s.tables record.userSubscriptionId (-record.preConsumed)
      else none with
    | none => some ({ s with locked := false }, [retry attempts])
    | some t =>
      -- its own transaction, committed here
      some ({ s with tables := t, applied := s.applied + 1 }, [.save attempts record])
  | .save attempts record =>
    if ok then some (s, [.commit attempts (some { record with refunded := true })])
    else some ({ s with locked := false }, [retry attempts])
  | .commit attempts write =>
    if ok then
      some ({ s with tables := write.elim s.tables s.tables.saveRecord, locked := false },
        [.returned true])
    else some ({ s with locked := false }, [retry attempts])
  | .other op => some ({ s with tables := (step s.tables op).getD s.tables }, [.returned true])
  | .returned _ => none

/-- An operation that leaves the record of the request `r` alone. -/
def spares (r : String) : Op → Bool
  | .refund r' _ => r' ≠ r
  | .saveRefunded r' => r' ≠ r
  | .cleanup old => r ∉ old
  | _ => true

/-- A call at its start: a refund with any number of attempts, or another operation. -/
def Thread.isCall (r : String) : Thread → Bool
  | .refund _ => true
  | .other op => spares r op
  | _ => false

def Thread.ended : Thread → Bool
  | .returned _ => true
  | _ => false

/-- The status is saved and committed once the usage was given back. -/
def StatusCommits (_ : Pool Shared Thread) (ok : Bool) : Thread → Prop
  | .save _ _ => ok = true
  | .commit _ (some _) => ok = true
  | _ => True

instance (p : Pool Shared Thread) (ok : Bool) : (t : Thread) → Decidable (StatusCommits p ok t)
  | .save _ _ => inferInstanceAs (Decidable (ok = true))
  | .commit _ (some _) => inferInstanceAs (Decidable (ok = true))
  | .commit _ none => isTrue trivial
  | .refund _ => isTrue trivial
  | .decrement _ _ => isTrue trivial
  | .other _ => isTrue trivial
  | .returned _ => isTrue trivial

/-! ## Records -/

section Records

variable {t t' : Tables} {r : String} {record : Record} {op : Op}

/-- **What an operation does to the records**: nothing, a new record, the status of one, or the
removal of some. -/
theorem step_records (h : step t op = some t') :
    t'.records = t.records ∨
    (∃ record, 0 < record.preConsumed ∧ t.record? record.requestId = none ∧
      t'.records = record :: t.records) ∨
    (∃ record, t.record? record.requestId = some record ∧ spares record.requestId op = false ∧
      t'.records = (t.saveRecord { record with refunded := true }).records) ∨
    ∃ old, op = .cleanup old ∧ t'.records = t.records.filter (·.requestId ∉ old) := by
  cases op with
  | create | adminReset =>
    simp only [step] at h
    split at h
    · cases h
    · cases h
      exact .inl rfl
  | preConsume plans fuel req =>
    obtain ⟨⟨t1, saves, row⟩, hpre, rfl⟩ := Option.map_eq_some_iff.1 h
    obtain ⟨-, hamount, hnew, -, hrecords⟩ := preConsume_spec hpre
    exact .inr (.inl ⟨_, hamount, hnew, hrecords⟩)
  | postConsume id delta =>
    obtain ⟨row, row', -, -, rfl⟩ := postConsumeDelta_cases h
    exact .inl rfl
  | refund requestId saved =>
    obtain ⟨record, t1, hrecord, hused, hstatus⟩ := refund_cases h
    have h1 : t1.records = t.records := by
      rcases hused with ⟨-, rfl⟩ | ⟨-, hpost⟩
      · rfl
      · obtain ⟨row, row', -, -, rfl⟩ := postConsumeDelta_cases hpost
        rfl
    obtain rfl := requestId_of_record? hrecord
    rcases hstatus with rfl | rfl
    · exact .inl h1
    · refine .inr (.inr (.inl ⟨record, hrecord, by simp [spares], ?_⟩))
      simp only [Tables.saveRecord, h1]
  | saveRefunded requestId =>
    obtain ⟨record, hrecord, rfl⟩ := Option.map_eq_some_iff.1 h
    obtain rfl := requestId_of_record? hrecord
    exact .inr (.inr (.inl ⟨record, hrecord, by simp [spares], rfl⟩))
  | resetDue plans fuel now id =>
    obtain ⟨⟨row', w⟩, -, rfl⟩ := Option.map_eq_some_iff.1 h
    exact .inl rfl
  | invalidate now id =>
    obtain ⟨row, -, rfl⟩ := Option.map_eq_some_iff.1 h
    exact .inl rfl
  | delete | expire =>
    cases h
    exact .inl rfl
  | cleanup old =>
    cases h
    exact .inr (.inr (.inr ⟨old, rfl, rfl⟩))

/-- An operation that spares a record keeps it. -/
theorem step_record? (hop : spares r op = true) (hrecord : t.record? r = some record)
    (h : step t op = some t') : t'.record? r = some record := by
  rcases step_records h with heq | ⟨x, -, hnew, heq⟩ | ⟨x, hx, hspares, heq⟩ | ⟨old, rfl, heq⟩
  · unfold record? at hrecord ⊢
    rw [heq, hrecord]
  · have hne : x.requestId ≠ r := by
      rintro rfl
      rw [hrecord] at hnew
      cases hnew
    unfold record? at hrecord ⊢
    rw [heq, find?_cons_of_neg (by simpa using hne), hrecord]
  · have hne : x.requestId ≠ r := by
      rintro rfl
      rw [hop] at hspares
      cases hspares
    have hsame : t'.record? r = (t.saveRecord { x with refunded := true }).record? r := by
      unfold record?
      rw [heq]
    rw [hsame, record?_saveRecord, if_neg hne, hrecord]
  · have hkept : r ∉ old := of_decide_eq_true hop
    have hkeys : (fun z : Record => decide (decide (z.requestId ∉ old) = true ∧
        decide (z.requestId = r) = true)) = fun z => decide (z.requestId = r) := by
      funext z
      by_cases hz : z.requestId = r
      · simp [hz, hkept]
      · simp [hz]
    unfold record? at hrecord ⊢
    rw [heq, find?_filter, hkeys, hrecord]

/-- Records hold amounts that are positive. -/
theorem records_positive (hrun : Exec step (fun _ _ => True) ⟨[], []⟩ t) :
    ∀ record ∈ t.records, 0 < record.preConsumed := by
  refine Exec.invariant (I := fun t => ∀ record ∈ t.records, 0 < record.preConsumed)
    (fun t op t' ht _ h => ?_) ?_ hrun
  · intro record hmem
    rcases step_records h with heq | ⟨x, hpos, -, heq⟩ | ⟨x, hx, -, heq⟩ | ⟨old, -, heq⟩
    · exact ht record (heq ▸ hmem)
    · rw [heq] at hmem
      rcases mem_cons.1 hmem with rfl | hmem
      · exact hpos
      · exact ht record hmem
    · rw [heq] at hmem
      obtain ⟨y, hy, rfl⟩ := mem_map.1 hmem
      split
      · exact ht x (mem_of_find?_eq_some hx)
      · exact ht y hy
    · rw [heq] at hmem
      exact ht record (mem_filter.1 hmem).1
  · intro record hmem
    cases hmem

end Records

/-! ## Refunds under way -/

/-- The calls that hold the lock. -/
def Thread.holder : Thread → ℕ
  | .decrement _ _ | .save _ _ | .commit _ _ => 1
  | _ => 0

/-- The calls that have given the usage back and have still to commit the status. -/
def Thread.pending : Thread → ℕ
  | .save _ _ | .commit _ (some _) => 1
  | _ => 0

/-- A call works on the record as it is stored. -/
def Thread.Fits (r : String) (record : Record) : Thread → Prop
  | .decrement _ x | .save _ x => x = record ∧ record.refunded = false
  | .commit _ (some x) => x = { record with refunded := true } ∧ record.refunded = false
  | .other op => spares r op = true
  | _ => True

/-- The invariant: the lock is held by at most one call, and the usage was given back once for a
record that is refunded, and once for a refund under way. -/
structure Sound (r : String) (record : Record) (s : Shared) (threads : List Thread) : Prop where
  stored : s.tables.record? r = some record
  positive : 0 < record.preConsumed
  fits : ∀ t ∈ threads, t.Fits r record
  lock : (threads.map Thread.holder).sum = if s.locked then 1 else 0
  applied : s.applied =
    (if record.refunded then 1 else 0) + (threads.map Thread.pending).sum

section Steps

variable {r : String} {record : Record} {s s' : Shared} {t t' : Thread} {ts others : List Thread}

theorem Sound.perm {l l' : List Thread} (hperm : l.Perm l') (h : Sound r record s l) :
    Sound r record s l' where
  stored := h.stored
  positive := h.positive
  fits t ht := h.fits t (hperm.mem_iff.2 ht)
  lock := by rw [← (hperm.map _).sum_eq, h.lock]
  applied := by rw [← (hperm.map _).sum_eq, h.applied]

/-- A call that does not hold the lock fits every record. -/
theorem Thread.Fits.of_holder {record' : Record} (h : t.Fits r record) (ht : t.holder = 0) :
    t.Fits r record' := by
  cases t with
  | decrement | save | commit => cases ht
  | refund | returned => trivial
  | other op => exact h

theorem retry_spec (attempts : ℕ) :
    (retry attempts).holder = 0 ∧ (retry attempts).pending = 0 ∧
      ∀ r record, (retry attempts).Fits r record := by
  cases attempts with
  | zero | succ => exact ⟨rfl, rfl, fun _ _ => trivial⟩

section

variable (h : Sound r record s (t :: others))

include h

/-- A step that keeps the record and replaces one call. -/
theorem Sound.replace (hstored : s'.tables.record? r = some record) (hfits : t'.Fits r record)
    (hlock : t'.holder + (if s.locked then 1 else 0) = t.holder + if s'.locked then 1 else 0)
    (happlied : s.applied + t'.pending = s'.applied + t.pending) :
    Sound r record s' (t' :: others) := by
  have hl := h.lock
  have ha := h.applied
  rw [map_cons, sum_cons] at hl ha
  refine ⟨hstored, h.positive, fun x hx => ?_, ?_, ?_⟩
  · rcases mem_cons.1 hx with rfl | hx
    · exact hfits
    · exact h.fits x (mem_cons_of_mem _ hx)
  · rw [map_cons, sum_cons]
    omega
  · rw [map_cons, sum_cons]
    omega

/-- While one call holds the lock, the others do not. -/
theorem Sound.alone (ht : t.holder = 1) : s.locked = true ∧ ∀ x ∈ others, x.holder = 0 := by
  have hl := h.lock
  rw [map_cons, sum_cons, ht] at hl
  have hlocked : s.locked = true := by
    by_contra hfree
    rw [if_neg hfree] at hl
    omega
  rw [if_pos hlocked] at hl
  have hsum : (others.map Thread.holder).sum = 0 := by omega
  refine ⟨hlocked, fun x hx => ?_⟩
  exact sum_eq_zero_iff.1 hsum _ (mem_map_of_mem hx)

/-- A transaction that is rolled back before the usage was given back. -/
theorem Sound.rollback {attempts : ℕ} (ht : t.holder = 1) (hpending : t.pending = 0) :
    Sound r record { s with locked := false } ([retry attempts] ++ others) := by
  obtain ⟨hholder, hpend, hfits⟩ := retry_spec attempts
  obtain ⟨hlocked, -⟩ := h.alone ht
  refine h.replace h.stored (hfits r record) ?_ ?_
  · rw [hholder, hlocked, ht]
    rfl
  · rw [hpend, hpending]

end

/-- The commit of the status: the refund under way becomes the refund of the record. -/
theorem Sound.commit {attempts : ℕ}
    (h : Sound r record s (.commit attempts (some { record with refunded := true }) :: others))
    (hconsumed : record.refunded = false) :
    Sound r { record with refunded := true }
      { s with tables := s.tables.saveRecord { record with refunded := true }, locked := false }
      (.returned true :: others) := by
  obtain ⟨hlocked, hothers⟩ := h.alone rfl
  have hkey := requestId_of_record? h.stored
  have hlock := h.lock
  have happlied := h.applied
  refine ⟨?_, h.positive, fun y hy => ?_, ?_, ?_⟩
  · show (s.tables.saveRecord _).record? r = _
    rw [record?_saveRecord, if_pos hkey, h.stored, Option.map_some]
  · rcases mem_cons.1 hy with rfl | hy
    · trivial
    · exact (h.fits y (mem_cons_of_mem _ hy)).of_holder (hothers y hy)
  · rw [hlocked] at hlock
    simp only [Thread.holder, if_true, map_cons, sum_cons, Bool.false_eq_true, if_false] at hlock ⊢
    omega
  · rw [hconsumed] at happlied
    simp only [Thread.pending, if_true, map_cons, sum_cons, Bool.false_eq_true,
      if_false] at happlied ⊢
    omega

/-- **One step** of a call keeps the invariant. -/
theorem advance_sound {p : Pool Shared Thread} {ok : Bool}
    (h : Sound r record s (t :: others)) (hok : StatusCommits p ok t)
    (hstep : advance r ok s t = some (s', ts)) : ∃ record', Sound r record' s' (ts ++ others) := by
  cases t with
  | refund attempts =>
    obtain ⟨hholder, hpend, hfits⟩ := retry_spec attempts
    have hagain : Sound r record s ([retry attempts] ++ others) :=
      h.replace h.stored (hfits r record) (by rw [hholder]; rfl) (by rw [hpend]; rfl)
    simp only [advance, h.stored] at hstep
    split at hstep
    · cases hstep
      exact ⟨record, hagain⟩
    split at hstep
    · cases hstep
    rename_i hfree
    cases hstep
    refine ⟨record, h.replace h.stored ?_ ?_ ?_⟩
    · split
      · trivial
      next hconsumed =>
        rw [if_neg (not_le.2 h.positive)]
        exact ⟨rfl, Bool.eq_false_iff.2 hconsumed⟩
    · split
      · rfl
      · rw [if_neg (not_le.2 h.positive)]
        rfl
    · split
      · rfl
      · rw [if_neg (not_le.2 h.positive)]
        rfl
  | decrement attempts x =>
    obtain ⟨rfl, hconsumed⟩ := h.fits _ mem_cons_self
    obtain ⟨hlocked, -⟩ := h.alone rfl
    simp only [advance] at hstep
    split at hstep
    · cases hstep
      exact ⟨x, h.rollback rfl rfl⟩
    rename_i t1 hpost
    cases hstep
    split at hpost
    · refine ⟨x, h.replace ?_ ⟨rfl, hconsumed⟩ rfl ?_⟩
      · rw [postConsumeDelta_record? hpost, h.stored]
      · rfl
    · cases hpost
  | save attempts x =>
    obtain ⟨rfl, hconsumed⟩ := h.fits _ mem_cons_self
    obtain rfl : ok = true := hok
    cases hstep
    exact ⟨x, h.replace h.stored ⟨rfl, hconsumed⟩ rfl rfl⟩
  | commit attempts write =>
    cases write with
    | none =>
      obtain ⟨hlocked, -⟩ := h.alone rfl
      cases ok with
      | false =>
        cases hstep
        exact ⟨record, h.rollback rfl rfl⟩
      | true =>
        cases hstep
        refine ⟨record, h.replace h.stored trivial ?_ rfl⟩
        rw [hlocked]
        rfl
    | some x =>
      obtain ⟨rfl, hconsumed⟩ := h.fits _ mem_cons_self
      obtain rfl : ok = true := hok
      cases hstep
      exact ⟨_, h.commit hconsumed⟩
  | other op =>
    cases hstep
    have hspares : spares r op = true := h.fits _ mem_cons_self
    refine ⟨record, h.replace ?_ trivial rfl rfl⟩
    cases hop : step s.tables op with
    | none => exact h.stored
    | some t1 => exact step_record? hspares h.stored hop
  | returned ok' => cases hstep

theorem pending_le_holder (t : Thread) : t.pending ≤ t.holder := by
  cases t with
  | commit attempts write => cases write <;> simp [Thread.pending, Thread.holder]
  | _ => simp [Thread.pending, Thread.holder]

/-- The calls under way are for a record that is not refunded. -/
theorem Thread.Fits.pending (h : t.Fits r record) (hrefunded : record.refunded = true) :
    t.pending = 0 := by
  cases t with
  | save attempts x => exact absurd hrefunded (by rw [h.2]; decide)
  | commit attempts write =>
    cases write with
    | none => rfl
    | some x => exact absurd hrefunded (by rw [h.2]; decide)
  | _ => rfl

theorem Sound.applied_le {threads : List Thread} (h : Sound r record s threads) :
    s.applied ≤ 1 := by
  have happlied := h.applied
  cases hrefunded : record.refunded with
  | true =>
    have hzero : (threads.map Thread.pending).sum = 0 := by
      refine sum_eq_zero fun n hn => ?_
      obtain ⟨x, hx, rfl⟩ := mem_map.1 hn
      exact (h.fits x hx).pending hrefunded
    rw [hrefunded, hzero] at happlied
    exact happlied.le
  | false =>
    have hle : (threads.map Thread.pending).sum ≤ (threads.map Thread.holder).sum :=
      sum_le_sum fun x _ => pending_le_holder x
    rw [h.lock] at hle
    rw [hrefunded] at happlied
    simp only [Bool.false_eq_true, if_false] at happlied
    split at hle <;> omega

end Steps

/-! ## Runs -/

/-- The calls at the start, on the tables `t`. -/
def start (t : Tables) (calls : List Thread) : Pool Shared Thread := ⟨⟨t, false, 0⟩, calls⟩

theorem start_sound {t : Tables} {r : String} {record : Record}
    (hrecord : t.record? r = some record) (hpositive : 0 < record.preConsumed)
    (hconsumed : record.refunded = false) {calls : List Thread}
    (hcalls : ∀ c ∈ calls, c.isCall r = true) : Sound r record (start t calls).shared calls where
  stored := hrecord
  positive := hpositive
  fits c hc := by
    have hcall := hcalls c hc
    cases c <;> trivial
  lock := by
    have hzero : ∀ c ∈ calls, c.holder = 0 := by
      intro c hc
      have hcall := hcalls c hc
      cases c <;> first | rfl | cases hcall
    rw [map_congr_left hzero]
    simp [start]
  applied := by
    have hzero : ∀ c ∈ calls, c.pending = 0 := by
      intro c hc
      have hcall := hcalls c hc
      cases c <;> first | rfl | cases hcall
    rw [map_congr_left hzero, hconsumed]
    simp [start]

/-- **One refund.** Any calls and retries for a record, and any other operations, run at the same
time. If the status is saved and committed whenever the usage was given back, the usage is
given back at most once, and when every call has returned it was given back exactly if
the record is refunded. -/
theorem usage_refunded_once {t : Tables} (hreach : Exec step (fun _ _ => True) ⟨[], []⟩ t)
    {r : String} {record : Record} (hrecord : t.record? r = some record)
    (hconsumed : record.refunded = false) {calls : List Thread}
    (hcalls : ∀ c ∈ calls, c.isCall r = true) {p : Pool Shared Thread}
    (hrun : Exec (Pool.step (advance r)) (Pool.Meets StatusCommits) (start t calls) p) :
    p.shared.applied ≤ 1 ∧ ((∀ c ∈ p.threads, c.ended = true) →
        ∃ record', p.shared.tables.record? r = some record' ∧
          (p.shared.applied = 1 ↔ record'.refunded = true)) := by
  have hpositive := records_positive hreach record (mem_of_find?_eq_some hrecord)
  have hsound : ∃ record', Sound r record' p.shared p.threads := by
    refine Pool.invariant (I := fun s l => ∃ record', Sound r record' s l) ?_ ?_ ?_ hrun
    · rintro s l l' hperm ⟨x, hx⟩
      exact ⟨x, hx.perm hperm⟩
    · rintro p ok c s ts others hok - ⟨x, hx⟩ hstep
      exact advance_sound hx hok hstep
    · exact ⟨record, start_sound hrecord hpositive hconsumed hcalls⟩
  obtain ⟨record', hsound⟩ := hsound
  refine ⟨hsound.applied_le, fun hended => ⟨record', hsound.stored, ?_⟩⟩
  have hzero : (p.threads.map Thread.pending).sum = 0 := by
    refine sum_eq_zero fun n hn => ?_
    obtain ⟨x, hx, rfl⟩ := mem_map.1 hn
    have hend := hended x hx
    cases x <;> first | rfl | cases hend
  rw [hsound.applied, hzero]
  cases record'.refunded <;> simp

/-- The tables after two requests of one user, for 50 and 30 units. -/
def twoRequests : Tables where
  rows := [minuteRow 80 1 61]
  records := [⟨"b", 1, 30, false⟩, ⟨"a", 1, 50, false⟩]

theorem exec_twoRequests : Exec step (fun _ _ => True) ⟨[], []⟩ twoRequests := by
  have hrun : run (guarded step fun _ _ => True) ⟨[], []⟩ [.create (minuteRow 0 1 61),
      .preConsume everyMinute 5 (minuteRequest "a" 50 10),
      .preConsume everyMinute 5 (minuteRequest "b" 30 20)] = some twoRequests := by
    decide +kernel
  exact Exec.of_run hrun

/-- Two callers refund the first request. The first attempt of one of them cannot read the
record, and the other request settles in between. -/
theorem usage_refunded_once_of_two :
    ∃ p, Exec (Pool.step (advance "a")) (Pool.Meets StatusCommits)
        (start twoRequests [refundWithRetry, .refund 0, .other (.postConsume 1 (-10))]) p ∧
      (∀ c ∈ p.threads, c.ended = true) ∧ p.shared.tables.rows = [minuteRow 20 1 61] ∧
      (p.shared.applied ≤ 1 ∧ ((∀ c ∈ p.threads, c.ended = true) →
          ∃ record', p.shared.tables.record? "a" = some record' ∧
            (p.shared.applied = 1 ↔ record'.refunded = true))) := by
  have hrecord : twoRequests.record? "a" = some ⟨"a", 1, 50, false⟩ := by decide
  exact Exec.exists_and_and_of_actions [(0, false), (0, true), (2, true), (0, true), (0, true),
    (0, true), (1, true), (1, true)]
    (by decide +kernel) fun _ hrun _ _ => usage_refunded_once exec_twoRequests hrecord rfl
    (by decide) hrun

/-- One caller. The usage is given back, the save of the status fails, and the second attempt
gives it back once more: nothing is left of the 30 units of the other request. -/
theorem usage_refunded_twice :
    ∃ p, Exec (Pool.step (advance "a")) (fun _ _ => True) (start twoRequests [refundWithRetry]) p ∧
      (∀ c ∈ p.threads, c.ended = true) ∧ p.shared.applied = 2 ∧
      p.shared.tables = ⟨[minuteRow 0 1 61], [⟨"b", 1, 30, false⟩, ⟨"a", 1, 50, true⟩]⟩ := by
  exact Exec.exists_of_actions [(0, true), (0, true), (0, false), (0, true), (0, true), (0, true),
    (0, true)] (by decide +kernel)

end OmniRouters.Subscription.Refund
