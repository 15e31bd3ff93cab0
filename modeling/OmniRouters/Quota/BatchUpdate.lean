import Mathlib.Algebra.Order.Ring.Int
import Mathlib.Data.List.Dedup
import OmniRouters.Lib.Int64
import OmniRouters.Lib.Threads

/-!
# Batched updates

With batch updates, quota deltas are added to in-memory stores (`model/utils.go`), one for each
kind of delta, and `batchUpdate` writes them to the database. It takes the stores one after the
other, each under its own lock, and then writes what it has taken without any lock. The deltas of
an update that fails are gone: it is logged. So are those of an update that finds no row, because
the user, the token or the channel was deleted: it is no error.

* `addNewRecord_value`: a record adds its value, unless the sum leaves the integer type.
* `updatesOf_amount`: a flush writes everything it has taken.
* `deltas_kept`: nothing of a key is lost or applied twice if its updates change their rows.
* `delta_lost`: the deltas of an update that does not are lost.
-/

namespace OmniRouters.Quota.BatchUpdate

open Lib List Function

/-! ## Stores -/

/-- A Go `map[int]int`: its keys in the order of an iteration, and its values. The value of a
missing key is zero. -/
structure Store where
  keys : List ℕ
  value : ℕ → ℤ
  nodup : keys.Nodup
  missing : ∀ id ∉ keys, value id = 0

def Store.empty : Store where
  keys := []
  value := fun _ => 0
  nodup := List.nodup_nil
  missing := fun _ _ => rfl

/-- The assignment to a key. -/
def Store.set (store : Store) (id : ℕ) (value : ℤ) : Store where
  keys := store.keys.insert id
  value := Function.update store.value id value
  nodup := store.nodup.insert
  missing := by
    intro k hk
    rw [List.mem_insert_iff, not_or] at hk
    rw [Function.update_of_ne hk.1]
    exact store.missing k hk.2

def maxInt : ℤ := 2 ^ 63 - 1

def minInt : ℤ := -2 ^ 63

/-- `addNewRecord` (lines 44-63), on the store of its type. -/
def addNewRecord (store : Store) (id : ℕ) (value : ℤ) : Store :=
  if id ∉ store.keys then store.set id value
  else
    let old := store.value id
    let sum := wrap64 (old + value)
    if 0 < value ∧ sum < old ∨ value < 0 ∧ old < sum then
      store.set id (if 0 < value then maxInt else minInt)
    else store.set id sum

/-- The types of a batch update (lines 16-23). -/
inductive Kind
  | userQuota
  | tokenQuota
  | usedQuota
  | channelUsedQuota
  | requestCount
deriving DecidableEq

/-- The types in the order of the loops. -/
def Kind.all : List Kind := [.userQuota, .tokenQuota, .usedQuota, .channelUsedQuota, .requestCount]

/-! ## Flushes -/

/-- An update of a flush. -/
inductive Update
  /-- `increaseTokenQuota`. -/
  | token (id : ℕ) (quota : ℤ)
  /-- `updateChannelUsedQuota`. -/
  | channel (id : ℕ) (quota : ℤ)
  /-- `updateUserQuotaUsedQuotaAndRequestCount`: three columns in one statement. -/
  | user (id : ℕ) (quota usedQuota requestCount : ℤ)

/-- What an update adds for a type and a key. -/
def Update.amount (kind : Kind) (id : ℕ) : Update → ℤ
  | .token k quota => if kind = .tokenQuota ∧ k = id then quota else 0
  | .channel k quota => if kind = .channelUsedQuota ∧ k = id then quota else 0
  | .user k quota usedQuota requestCount =>
    if k = id then
      match kind with
      | .userQuota => quota
      | .usedQuota => usedQuota
      | .requestCount => requestCount
      | _ => 0
    else 0

/-- The keys of the three stores of users (lines 112-121). -/
def userIDs (taken : Kind → Store) : List ℕ :=
  ((taken .userQuota).keys ++ (taken .usedQuota).keys ++ (taken .requestCount).keys).dedup

/-- The updates of a flush (lines 92-124), for the stores it has taken. -/
def updatesOf (taken : Kind → Store) : List Update :=
  (taken .tokenQuota).keys.map (fun id => .token id ((taken .tokenQuota).value id)) ++
    (taken .channelUsedQuota).keys.map
      (fun id => .channel id ((taken .channelUsedQuota).value id)) ++
    (userIDs taken).map fun id => .user id ((taken .userQuota).value id)
      ((taken .usedQuota).value id) ((taken .requestCount).value id)

/-! ## Calls -/

/-- The stores, what the flushes have added to the database, and what was recorded. -/
structure Shared where
  stores : Kind → Store
  applied : Kind → ℕ → ℤ
  recorded : Kind → ℕ → ℤ

/-- Where a call is. -/
inductive Thread
  | addNewRecord (kind : Kind) (id : ℕ) (value : ℤ)
  /-- `batchUpdate` looks for data in the stores of `rest`. -/
  | check (rest : List Kind)
  /-- `batchUpdate` takes the stores of `rest`. -/
  | take (rest : List Kind) (taken : Kind → Store)
  /-- `batchUpdate` has these updates left. -/
  | flush (updates : List Update)
  | ended

/-- `batchUpdate` (lines 65-126). -/
def batchUpdate : Thread := .check Kind.all

/-- What is left open about a step: whether an update changes its row, which it does not if it
fails or finds none, and which one is next. The iteration over a map has no order; that the tables
come one after the other is not kept. -/
structure Choice where
  ok : Bool
  index : ℕ

/-- One step of a call. What is done under one lock is one step. -/
def advance (c : Choice) (s : Shared) : Thread → Option (Shared × List Thread)
  | .addNewRecord kind id value =>
    some ({ s with
      stores := Function.update s.stores kind (BatchUpdate.addNewRecord (s.stores kind) id value)
      recorded := fun k i => s.recorded k i + if kind = k ∧ id = i then value else 0 }, [.ended])
  | .check [] => some (s, [.ended])
  | .check (kind :: rest) =>
    if (s.stores kind).keys = [] then some (s, [.check rest])
    else some (s, [.take Kind.all fun _ => Store.empty])
  | .take [] taken => some (s, [.flush (updatesOf taken)])
  | .take (kind :: rest) taken =>
    some ({ s with stores := Function.update s.stores kind Store.empty },
      [.take rest (Function.update taken kind (s.stores kind))])
  | .flush [] => some (s, [.ended])
  | .flush (u :: us) =>
    ((u :: us)[c.index]?).map fun next =>
      ({ s with
        applied := fun k i => s.applied k i + if c.ok then next.amount k i else 0 },
        [.flush ((u :: us).eraseIdx c.index)])
  | .ended => none

/-- The sum of a record fits in the integer type. -/
def Fits (p : Pool Shared Thread) (_ : Choice) : Thread → Prop
  | .addNewRecord kind id value =>
    minInt ≤ (p.shared.stores kind).value id + value ∧
      (p.shared.stores kind).value id + value ≤ maxInt
  | _ => True

/-- The sums fit, and every update of a flush that has a delta for the type and the key changes its
row. The updates of other keys may fail or find none. -/
def Kept (kind : Kind) (id : ℕ) (p : Pool Shared Thread) (c : Choice) : Thread → Prop
  | .flush updates => c.ok = true ∨ ∀ u ∈ updates[c.index]?, u.amount kind id = 0
  | t => Fits p c t

instance (p : Pool Shared Thread) (c : Choice) : (t : Thread) → Decidable (Fits p c t)
  | .addNewRecord kind id value =>
    inferInstanceAs (Decidable (minInt ≤ (p.shared.stores kind).value id + value ∧
      (p.shared.stores kind).value id + value ≤ maxInt))
  | .check _ => isTrue trivial
  | .take _ _ => isTrue trivial
  | .flush _ => isTrue trivial
  | .ended => isTrue trivial

instance (kind : Kind) (id : ℕ) (p : Pool Shared Thread) (c : Choice) :
    (t : Thread) → Decidable (Kept kind id p c t)
  | .flush updates =>
    inferInstanceAs (Decidable (c.ok = true ∨ ∀ u ∈ updates[c.index]?, u.amount kind id = 0))
  | .addNewRecord k i value => inferInstanceAs (Decidable (Fits p c (.addNewRecord k i value)))
  | .check _ => isTrue trivial
  | .take _ _ => isTrue trivial
  | .ended => isTrue trivial

/-! ## Amounts -/

section Amounts

variable {store : Store} {id : ℕ} {value : ℤ}

/-- A record whose sum fits adds its value. -/
theorem addNewRecord_value (hmin : minInt ≤ store.value id + value)
    (hmax : store.value id + value ≤ maxInt) (k : ℕ) :
    (addNewRecord store id value).value k = store.value k + if id = k then value else 0 := by
  have hset : ∀ v, v = store.value id + value →
      (store.set id v).value k = store.value k + if id = k then value else 0 := by
    rintro v rfl
    by_cases hk : id = k
    · subst hk
      simp [Store.set]
    · have hne : k ≠ id := fun h => hk h.symm
      simp [Store.set, hk, hne]
  unfold addNewRecord
  split
  next hmissing =>
    refine hset value ?_
    rw [store.missing id hmissing, zero_add]
  · have hfits : fits64 (store.value id + value) = true := by
      unfold minInt at hmin
      unfold maxInt at hmax
      rw [fits64_iff]
      omega
    dsimp only
    rw [wrap64_of_fits64 hfits, if_neg (by omega)]
    exact hset _ rfl

/-- A sum over distinct keys picks the one of its key. -/
theorem sum_keys {keys : List ℕ} (hnodup : keys.Nodup) (f : ℕ → ℤ) (id : ℕ) :
    (keys.map fun k => if k = id then f k else 0).sum = if id ∈ keys then f id else 0 := by
  rw [sum_map_ite_eq keys f (fun _ => 0) id]
  by_cases hid : id ∈ keys
  · rw [if_pos hid, count_eq_one_of_mem hnodup hid]
    simp
  · rw [if_neg hid, count_eq_zero_of_not_mem hid]
    simp

theorem Store.sum_value (store : Store) (id : ℕ) :
    (store.keys.map fun k => if k = id then store.value k else 0).sum = store.value id := by
  rw [sum_keys store.nodup]
  split
  · rfl
  next hmissing =>
    exact (store.missing id hmissing).symm

/-- The users of a flush cover each of the three stores. -/
theorem sum_userIDs (taken : Kind → Store) (kind : Kind)
    (hkeys : ∀ id ∈ (taken kind).keys, id ∈ userIDs taken) (id : ℕ) :
    ((userIDs taken).map fun k => if k = id then (taken kind).value k else 0).sum =
      (taken kind).value id := by
  have hnodup : (userIDs taken).Nodup := nodup_dedup _
  rw [sum_keys hnodup]
  split
  · rfl
  next hmissing =>
    exact ((taken kind).missing id fun hid => hmissing (hkeys id hid)).symm

/-- **A flush writes what it has taken.** -/
theorem updatesOf_amount (taken : Kind → Store) (kind : Kind) (id : ℕ) :
    ((updatesOf taken).map (Update.amount kind id)).sum = (taken kind).value id := by
  unfold updatesOf
  rw [map_append, map_append, sum_append, sum_append, map_map, map_map, map_map]
  cases kind with
  | userQuota =>
    have husers := sum_userIDs taken .userQuota (fun id hid => by simp [userIDs, hid]) id
    simpa [comp_def, Update.amount] using husers
  | tokenQuota =>
    have htokens := (taken .tokenQuota).sum_value id
    simpa [comp_def, Update.amount] using htokens
  | usedQuota =>
    have husers := sum_userIDs taken .usedQuota (fun id hid => by simp [userIDs, hid]) id
    simpa [comp_def, Update.amount] using husers
  | channelUsedQuota =>
    have hchannels := (taken .channelUsedQuota).sum_value id
    simpa [comp_def, Update.amount] using hchannels
  | requestCount =>
    have husers := sum_userIDs taken .requestCount (fun id hid => by simp [userIDs, hid]) id
    simpa [comp_def, Update.amount] using husers

end Amounts

/-! ## Conservation -/

/-- What a flush has taken and not yet written. -/
def Thread.amount (kind : Kind) (id : ℕ) : Thread → ℤ
  | .take _ taken => (taken kind).value id
  | .flush updates => (updates.map (Update.amount kind id)).sum
  | _ => 0

/-- A flush has nothing yet of the stores that it still has to take. -/
def Thread.Wf : Thread → Prop
  | .take rest taken => rest.Nodup ∧ ∀ kind ∈ rest, ∀ id, (taken kind).value id = 0
  | _ => True

/-- For a type and a key, what is applied, what is in the store and what the flushes have taken is
what was recorded. -/
structure Balanced (kind : Kind) (id : ℕ) (s : Shared) (threads : List Thread) : Prop where
  sum : s.applied kind id + (s.stores kind).value id +
    (threads.map (Thread.amount kind id)).sum = s.recorded kind id
  wf : ∀ t ∈ threads, t.Wf

section Steps

variable {k : Kind} {i : ℕ} {s s' : Shared} {t t' : Thread} {ts others : List Thread}

theorem Balanced.perm {l l' : List Thread} (hperm : l.Perm l') (h : Balanced k i s l) :
    Balanced k i s l' where
  sum := by rw [← (hperm.map _).sum_eq, h.sum]
  wf t ht := h.wf t (hperm.mem_iff.2 ht)

/-- A step that moves an amount between the shared state and its call. -/
theorem Balanced.replace (h : Balanced k i s (t :: others)) (hwf : t'.Wf)
    (hmove : s'.applied k i + (s'.stores k).value i + t'.amount k i + s.recorded k i =
      s.applied k i + (s.stores k).value i + t.amount k i + s'.recorded k i) :
    Balanced k i s' (t' :: others) := by
  refine ⟨?_, fun x hx => ?_⟩
  · have hbefore := h.sum
    rw [map_cons, sum_cons] at hbefore ⊢
    omega
  · rcases mem_cons.1 hx with rfl | hx
    · exact hwf
    · exact h.wf x (mem_cons_of_mem _ hx)

theorem take_amount {kind : Kind} {taken : Kind → Store}
    (hnone : ∀ id, (taken kind).value id = 0) (stores : Kind → Store) :
    (Function.update stores kind Store.empty k).value i +
        (Function.update taken kind (stores kind) k).value i =
      (stores k).value i + (taken k).value i := by
  by_cases hk : k = kind
  · subst hk
    rw [update_self, update_self, hnone i]
    exact add_comm _ _
  · rw [update_of_ne hk, update_of_ne hk]

/-- The update that is written is no longer held. -/
theorem sum_eraseIdx {updates : List Update} {index : ℕ} {next : Update}
    (hnext : updates[index]? = some next) :
    next.amount k i + ((updates.eraseIdx index).map (Update.amount k i)).sum =
      (updates.map (Update.amount k i)).sum := by
  obtain ⟨hlt, hget⟩ := List.getElem?_eq_some_iff.1 hnext
  have hperm : (next :: updates.eraseIdx index).Perm updates :=
    hget ▸ getElem_cons_eraseIdx_perm hlt
  rw [← (hperm.map _).sum_eq, map_cons, sum_cons]

/-- **One step** keeps the sum of a key, unless it is an update of the key that is lost. -/
theorem advance_balanced {p : Pool Shared Thread} {c : Choice} (hp : p.shared = s)
    (h : Balanced k i s (t :: others)) (hok : Kept k i p c t)
    (hstep : advance c s t = some (s', ts)) : Balanced k i s' (ts ++ others) := by
  subst hp
  cases t with
  | addNewRecord kind id value =>
    obtain ⟨hmin, hmax⟩ := hok
    cases hstep
    refine h.replace trivial ?_
    dsimp only [Thread.amount]
    by_cases hk : k = kind
    · subst hk
      rw [update_self, addNewRecord_value hmin hmax]
      by_cases hi : id = i
      · rw [if_pos hi, if_pos ⟨rfl, hi⟩]
        omega
      · omega
    · rw [update_of_ne hk, if_neg fun heq => hk heq.1.symm]
      omega
  | check rest =>
    cases rest with
    | nil =>
      cases hstep
      exact h.replace trivial rfl
    | cons kind rest =>
      simp only [advance] at hstep
      split at hstep
      · cases hstep
        exact h.replace trivial rfl
      · cases hstep
        exact h.replace ⟨by decide, fun _ _ _ => rfl⟩ rfl
  | take rest taken =>
    obtain ⟨hnodup, hnone⟩ : rest.Nodup ∧ ∀ kind ∈ rest, ∀ id, (taken kind).value id = 0 :=
      h.wf _ mem_cons_self
    cases rest with
    | nil =>
      cases hstep
      refine h.replace trivial ?_
      dsimp only [Thread.amount]
      rw [updatesOf_amount]
    | cons kind rest =>
      obtain ⟨hkind, hnodup⟩ := nodup_cons.1 hnodup
      cases hstep
      refine h.replace ⟨hnodup, fun kind' hk id => ?_⟩ ?_
      · have hne : kind' ≠ kind := by
          rintro rfl
          exact hkind hk
        rw [update_of_ne hne]
        exact hnone kind' (mem_cons_of_mem _ hk) id
      · have htake := take_amount (k := k) (i := i) (hnone kind mem_cons_self) p.shared.stores
        dsimp only [Thread.amount]
        omega
  | flush updates =>
    cases updates with
    | nil =>
      cases hstep
      exact h.replace trivial rfl
    | cons u us =>
      obtain ⟨next, hnext, heq⟩ := Option.map_eq_some_iff.1 hstep
      cases heq
      refine h.replace trivial ?_
      have hheld := sum_eraseIdx (k := k) (i := i) hnext
      -- an update that is lost has no delta for the key
      have hwritten : (if c.ok then next.amount k i else 0) = next.amount k i := by
        rcases hok with hok | hzero
        · exact if_pos hok
        · rw [hzero next hnext, ite_self]
      dsimp only [Thread.amount]
      omega
  | ended => cases hstep

end Steps

/-! ## Runs -/

def start (calls : List Thread) : Pool Shared Thread :=
  ⟨⟨fun _ => Store.empty, fun _ _ => 0, fun _ _ => 0⟩, calls⟩

/-- A call before its first step. -/
def Thread.isCall : Thread → Bool
  | .addNewRecord _ _ _ => true
  | .check rest => rest = Kind.all
  | _ => false

/-- What was recorded and is not applied: it is in the stores, or a flush that is under way has
taken it from there. -/
def pending (p : Pool Shared Thread) (kind : Kind) (id : ℕ) : ℤ :=
  (p.shared.stores kind).value id + p.total (Thread.amount kind id)

theorem Thread.amount_of_isCall {t : Thread} (hcall : t.isCall = true) (kind : Kind) (id : ℕ) :
    t.amount kind id = 0 := by
  cases t with
  | addNewRecord | check | ended => rfl
  | take | flush => cases hcall

theorem Thread.wf_of_isCall {t : Thread} (hcall : t.isCall = true) : t.Wf := by
  cases t with
  | take => cases hcall
  | _ => trivial

theorem start_balanced {calls : List Thread} (hcalls : ∀ t ∈ calls, t.isCall = true) (kind : Kind)
    (id : ℕ) : Balanced kind id (start calls).shared (start calls).threads where
  sum := by
    have hnone : (start calls).total (Thread.amount kind id) = 0 :=
      Pool.total_eq_zero fun t ht => Thread.amount_of_isCall (hcalls t ht) kind id
    unfold Pool.total at hnone
    rw [hnone]
    rfl
  wf t ht := Thread.wf_of_isCall (hcalls t ht)

/-- **No delta is lost.** Any records of any types and keys, whose sums fit, and any flushes run at
the same time. Take a type and a key all of whose updates change their rows; the updates of other
keys may fail or find none. What is applied and what is pending is at every moment what was
recorded, and while no flush is under way what is pending is in the store. -/
theorem deltas_kept {calls : List Thread} (hcalls : ∀ t ∈ calls, t.isCall = true) (kind : Kind)
    (id : ℕ) {p : Pool Shared Thread}
    (hrun : Exec (Pool.step advance) (Pool.Meets (Kept kind id)) (start calls) p) :
    p.shared.applied kind id + pending p kind id = p.shared.recorded kind id ∧
      ((∀ t ∈ p.threads, t.isCall = true ∨ t = .ended) →
        p.shared.applied kind id + (p.shared.stores kind).value id =
          p.shared.recorded kind id) := by
  have hbalanced : Balanced kind id p.shared p.threads := by
    refine Pool.invariant (I := Balanced kind id) ?_ ?_ (start_balanced hcalls kind id) hrun
    · exact fun s l l' hperm h => h.perm hperm
    · exact fun p c t s ts others hok _ h hstep => advance_balanced rfl h hok hstep
  have hsum : p.shared.applied kind id + (p.shared.stores kind).value id +
      p.total (Thread.amount kind id) = p.shared.recorded kind id := hbalanced.sum
  refine ⟨?_, fun hidle => ?_⟩
  · unfold pending
    omega
  have hnone : p.total (Thread.amount kind id) = 0 := by
    refine Pool.total_eq_zero fun t ht => ?_
    rcases hidle t ht with hcall | rfl
    · exact Thread.amount_of_isCall hcall kind id
    · rfl
  omega

/-- Two records of a user and one of a token. The update of the token fails, and a third record of
the user arrives while the flush is under way and stays in the store. -/
theorem deltas_kept_during_flush :
    ∃ p, Exec (Pool.step advance) (Pool.Meets (Kept .userQuota 7))
        (start [.addNewRecord .userQuota 7 100, .addNewRecord .userQuota 7 (-30),
          .addNewRecord .tokenQuota 9 5, batchUpdate, .addNewRecord .userQuota 7 1]) p ∧
      p.shared.applied .userQuota 7 = 70 ∧ p.shared.recorded .userQuota 7 = 71 ∧
      (p.shared.applied .userQuota 7 + pending p .userQuota 7 = p.shared.recorded .userQuota 7 ∧
        ((∀ t ∈ p.threads, t.isCall = true ∨ t = .ended) →
          p.shared.applied .userQuota 7 + (p.shared.stores .userQuota).value 7 =
            p.shared.recorded .userQuota 7)) := by
  exact Exec.exists_and_and_of_actions [(0, ⟨true, 0⟩), (1, ⟨true, 0⟩), (2, ⟨true, 0⟩),
    (3, ⟨true, 0⟩), (3, ⟨true, 0⟩), (3, ⟨true, 0⟩), (4, ⟨true, 0⟩), (3, ⟨true, 0⟩), (3, ⟨true, 0⟩),
    (3, ⟨true, 0⟩), (3, ⟨true, 0⟩), (3, ⟨false, 0⟩), (3, ⟨true, 0⟩), (3, ⟨true, 0⟩)]
    (by decide +kernel) fun _ hrun _ _ => deltas_kept (by decide) .userQuota 7 hrun

/-- A deduction of 30 is recorded, and the update of the flush fails, or finds no row: it is neither
applied nor pending any more. -/
theorem delta_lost :
    ∃ p, Exec (Pool.step advance) (Pool.Meets Fits)
        (start [.addNewRecord .userQuota 7 (-30), batchUpdate]) p ∧
      p.shared.recorded .userQuota 7 = -30 ∧ p.shared.applied .userQuota 7 = 0 ∧
      pending p .userQuota 7 = 0 := by
  exact Exec.exists_of_actions [(0, ⟨true, 0⟩), (1, ⟨true, 0⟩), (1, ⟨true, 0⟩), (1, ⟨true, 0⟩),
    (1, ⟨true, 0⟩), (1, ⟨true, 0⟩), (1, ⟨true, 0⟩), (1, ⟨true, 0⟩), (1, ⟨false, 0⟩), (1, ⟨true, 0⟩)]
    (by decide +kernel)

end OmniRouters.Quota.BatchUpdate
