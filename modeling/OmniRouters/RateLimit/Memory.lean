import Mathlib.Data.List.DropRight
import Mathlib.Tactic.Linarith
import OmniRouters.Lib.Int64
import OmniRouters.Lib.Runs
import OmniRouters.Lib.Windows

/-!
# The rate limiter in memory

`InMemoryRateLimiter` (`common/rate-limit.go`) keeps for each key the times of the accepted requests
in a queue, and evicts the keys that have been idle for its expiration duration. `Request` accepts
while the queue is below the maximum. `Reserve` counts the reservations in flight as well, and
`Complete` records a reservation that has succeeded. All calls hold one mutex, so each is one step.
Times are nanoseconds; the queues hold whole seconds.

* `removeExpired_spec`: what the queue is after the expired requests are removed.
* `Sound.step`: the queues hold every accepted request that is not expired.
* `rate_limit_window`: no window of whole seconds has more than the maximum, and a call is
  rejected only in a full window.
* `rate_limit_window_exceeded`: a request beside a reservation in flight, and two requests in one
  second but not in the same Unix second.
-/

namespace OmniRouters.RateLimit

open Lib List Function

/-! ## Queues -/

/-- `removeExpired` (lines 36-53), on a queue with the oldest first. -/
def removeExpired (now duration : ℤ) (queue : List ℤ) : List ℤ :=
  match queue.head?, queue.getLast? with
  | some head, some tail =>
    if now - head < duration then queue
    else if duration ≤ now - tail then []
    else queue.dropWhile fun timestamp => duration ≤ now - timestamp
  | _, _ => queue

section Queue

variable {now duration : ℤ} {queue : List ℤ}

/-- Requests are time ordered, so the shortcuts of `removeExpired` do not matter. -/
theorem removeExpired_eq (hsorted : queue.Pairwise (· ≤ ·)) :
    removeExpired now duration queue =
      queue.dropWhile fun timestamp => duration ≤ now - timestamp := by
  unfold removeExpired
  split
  next head tail hhead htail =>
    split
    next hfresh =>
      obtain ⟨rest, rfl⟩ := head?_eq_some_iff.1 hhead
      rw [dropWhile_cons_of_neg (by simpa using hfresh)]
    · split
      next hexpired =>
        symm
        refine dropWhile_eq_nil_iff.2 fun x hx => ?_
        obtain ⟨front, rfl⟩ := getLast?_eq_some_iff.1 htail
        have hle : x ≤ tail := by
          rcases mem_append.1 hx with hx | hx
          · exact (pairwise_append.1 hsorted).2.2 x hx tail (mem_singleton_self _)
          · exact (mem_singleton.1 hx).le
        rw [decide_eq_true_eq]
        omega
      · rfl
  next hnone =>
    cases queue with
    | nil => rfl
    | cons a rest => exact (hnone a _ rfl getLast?_cons).elim

/-- **The queue afterwards** is the end of the queue that is not expired. -/
theorem removeExpired_spec (now duration : ℤ) (hsorted : queue.Pairwise (· ≤ ·)) :
    ∃ expired, queue = expired ++ removeExpired now duration queue ∧
      (∀ x ∈ expired, x + duration ≤ now) ∧
      ∀ x ∈ removeExpired now duration queue, now - duration < x := by
  rw [removeExpired_eq hsorted]
  refine ⟨queue.takeWhile fun timestamp => duration ≤ now - timestamp,
    takeWhile_append_dropWhile.symm, fun x hx => ?_, fun x hx => ?_⟩
  · have hexpired := mem_takeWhile_imp hx
    rw [decide_eq_true_eq] at hexpired
    omega
  · have hfresh := dropWhile_of_sorted hsorted
      (fun a b hab hb => decide_eq_true (by have := of_decide_eq_true hb; omega)) x hx
    have hlt := of_decide_eq_false hfresh
    omega

end Queue

/-- A queue holds the newest events, in seconds, and the other events are expired. -/
def Holds (duration now : ℤ) (queue seconds : List ℤ) : Prop :=
  ∃ old, seconds = queue.reverse ++ old ∧ ∀ x ∈ old, x + duration ≤ unix now

section Holds

variable {duration now : ℤ} {queue seconds : List ℤ}

section

variable (h : Holds duration now queue seconds)

include h

theorem Holds.later {now' : ℤ} (hnow : now ≤ now') : Holds duration now' queue seconds := by
  obtain ⟨old, hsplit, hold⟩ := h
  exact ⟨old, hsplit, fun x hx => (hold x hx).trans (unix_mono hnow)⟩

section

variable (hsorted : seconds.Pairwise (· ≥ ·))

include hsorted

/-- A queue is ordered from the oldest to the newest. -/
theorem Holds.queue_sorted : queue.Pairwise (· ≤ ·) := by
  obtain ⟨old, rfl, -⟩ := h
  exact pairwise_reverse.1 (pairwise_append.1 hsorted).1

/-- Expired events may be removed. -/
theorem Holds.removeExpired :
    Holds duration now (removeExpired (unix now) duration queue) seconds := by
  obtain ⟨expired, hqueue, hexpired, -⟩ :=
    removeExpired_spec (unix now) duration (h.queue_sorted hsorted)
  obtain ⟨old, hsplit, hold⟩ := h
  refine ⟨expired.reverse ++ old, ?_, fun x hx => ?_⟩
  · rw [hsplit, ← append_assoc, ← reverse_append, ← hqueue]
  · rcases mem_append.1 hx with hx | hx
    · exact hexpired x (mem_reverse.1 hx)
    · exact hold x hx

/-- The queue after the expired events are removed counts the events that are not expired. -/
theorem Holds.length_removeExpired : (RateLimit.removeExpired (unix now) duration queue).length =
      seconds.countP fun x => unix now - duration < x := by
  obtain ⟨-, -, -, hfresh⟩ := removeExpired_spec (unix now) duration (h.queue_sorted hsorted)
  obtain ⟨old, hsplit, hold⟩ := h.removeExpired hsorted
  have hexpired : old.countP (fun x => unix now - duration < x) = 0 := by
    refine countP_eq_zero.2 fun x hx => ?_
    have hle := hold x hx
    rw [decide_eq_true_eq]
    omega
  rw [hsplit, countP_append, countP_reverse, hexpired, add_zero]
  exact (countP_eq_length.2 fun x hx => decide_eq_true (hfresh x hx)).symm

end

/-- A new event is added to both. -/
theorem Holds.append (x : ℤ) : Holds duration now (queue ++ [x]) (x :: seconds) := by
  obtain ⟨old, hsplit, hold⟩ := h
  exact ⟨old, by rw [hsplit, reverse_append]; rfl, hold⟩

end

end Holds

/-- The events that are not expired. -/
def fresh (duration now : ℤ) (seconds : List ℤ) : ℕ :=
  seconds.countP fun x => unix now - duration < x

/-- The limit of a key: there is room for the reservations in flight, and each event has at most
the maximum of events behind it. -/
structure Limited (maximum duration now reservations : ℤ) (seconds : List ℤ) : Prop where
  room : fresh duration now seconds + reservations ≤ maximum
  spaced : Spaced maximum.toNat duration seconds

section Limited

variable {maximum duration now reservations : ℤ} {seconds : List ℤ}

section

variable (h : Limited maximum duration now reservations seconds)

include h

/-- Events expire. -/
theorem Limited.later {now' : ℤ} (hnow : now ≤ now') :
    Limited maximum duration now' reservations seconds := by
  have hroom := h.room
  have hle : fresh duration now' seconds ≤ fresh duration now seconds := by
    refine countP_mono_left fun x _ hx => ?_
    have hunix := unix_mono hnow
    rw [decide_eq_true_eq] at hx ⊢
    omega
  exact ⟨by omega, h.spaced⟩

/-- Another number of reservations. -/
theorem Limited.reserve {reservations' : ℤ}
    (hroom : fresh duration now seconds + reservations' ≤ maximum) :
    Limited maximum duration now reservations' seconds :=
  ⟨hroom, h.spaced⟩

/-- A new event. -/
theorem Limited.accept {reservations' : ℤ} (hpos : 0 < maximum) (hnonneg : 0 ≤ reservations')
    (hroom : fresh duration now seconds + 1 + reservations' ≤ maximum) :
    Limited maximum duration now reservations' (unix now :: seconds) := by
  have hcount : fresh duration now (unix now :: seconds) ≤ fresh duration now seconds + 1 := by
    unfold fresh
    rw [countP_cons]
    split <;> omega
  refine ⟨by omega, ?_, h.spaced⟩
  change fresh duration now (unix now :: seconds) ≤ maximum.toNat
  omega

end

end Limited

/-! ## The limiter -/

/-- The bucket of a key. -/
structure Entry (κ : Type*) where
  key : κ
  lastActive : ℤ
  requests : List ℤ
deriving DecidableEq

/-- The limiter: the buckets with the most recently active first, the reservations in flight by key,
and the reservations that were returned, with whether they are complete. -/
structure Limiter (κ : Type*) where
  lru : List (Entry κ)
  reservations : κ → ℤ
  handles : List (κ × Bool)

/-- The limit and the duration of each key, in seconds, and the expiration of the limiter. -/
structure Config (κ : Type*) where
  maximum : κ → ℤ
  duration : κ → ℤ
  expirationDuration : ℤ

section Limiter

variable {κ : Type*} [DecidableEq κ]

/-- `touchEntry` (lines 135-149): the bucket of a key. -/
def Limiter.touchEntry (l : Limiter κ) (key : κ) (now : ℤ) : Entry κ :=
  match l.lru.find? (·.key = key) with
  | none => ⟨key, now, []⟩
  | some entry => { entry with lastActive := now }

/-- A bucket moves to the front. -/
def Limiter.put (l : Limiter κ) (entry : Entry κ) : Limiter κ :=
  { l with lru := entry :: l.lru.filter (·.key ≠ entry.key) }

/-- `Request` (lines 152-169). -/
def request (cfg : Config κ) (now : ℤ) (key : κ) (l : Limiter κ) : Bool × Limiter κ :=
  if cfg.maximum key ≤ 0 then (false, l)
  else
    let entry := l.touchEntry key now
    let requests := removeExpired (unix now) (cfg.duration key) entry.requests
    if requests.length < cfg.maximum key then
      (true, l.put { entry with requests := requests ++ [unix now] })
    else (false, l.put { entry with requests := requests })

/-- `Reserve` (lines 181-196): whether there is a reservation. -/
def reserve (cfg : Config κ) (now : ℤ) (key : κ) (l : Limiter κ) : Bool × Limiter κ :=
  if cfg.maximum key ≤ 0 then (false, l)
  else
    let entry := l.touchEntry key now
    let requests := removeExpired (unix now) (cfg.duration key) entry.requests
    let l := l.put { entry with requests := requests }
    if cfg.maximum key ≤ requests.length + l.reservations key then (false, l)
    else (true, { l with
      reservations := Function.update l.reservations key (l.reservations key + 1)
      handles := l.handles ++ [(key, false)] })

/-- The reservation of a handle, if it is not complete. -/
def Limiter.open? (l : Limiter κ) (handle : ℕ) : Option κ :=
  match l.handles[handle]? with
  | some (key, false) => some key
  | _ => none

/-- `Complete` (lines 200-217). Only the first call for a reservation does anything. -/
def complete (now : ℤ) (handle : ℕ) (success : Bool) (l : Limiter κ) : Limiter κ :=
  match l.open? handle with
  | none => l
  | some key =>
    let l := { l with
      reservations := Function.update l.reservations key (l.reservations key - 1)
      handles := l.handles.set handle (key, true) }
    if success then
      let entry := l.touchEntry key now
      l.put { entry with requests := entry.requests ++ [unix now] }
    else l

/-- `deleteExpiredEntries` (lines 107-131), for the time of a tick: the idle keys at the end. -/
def deleteExpiredEntries (cfg : Config κ) (tick : ℤ) (l : Limiter κ) : Limiter κ :=
  if cfg.expirationDuration ≤ 0 then l
  else { l with
    lru := l.lru.rdropWhile fun entry => cfg.expirationDuration ≤ tick - entry.lastActive }

/-! ## Runs -/

inductive Call (κ : Type*)
  | request (key : κ)
  | reserve (key : κ)
  | complete (handle : ℕ) (success : Bool)
  | deleteExpiredEntries (tick : ℤ)

/-- The limiter, the time of the last call, and the accepted events with the newest first. -/
structure State (κ : Type*) where
  limiter : Limiter κ
  now : ℤ
  accepted : List (κ × ℤ)

def State.events (s : State κ) (key : κ) : List ℤ := (s.accepted.filter (·.1 = key)).map Prod.snd

/-- The accepted events of a key, in whole seconds. -/
def State.seconds (s : State κ) (key : κ) : List ℤ := (s.events key).map unix

/-- One call at a time that is not before the last one. A tick may be older. -/
def step (cfg : Config κ) (s : State κ) (a : ℤ × Call κ) : Option (State κ) :=
  if a.1 < s.now then none
  else match a.2 with
    | .request key =>
      let out := request cfg a.1 key s.limiter
      some ⟨out.2, a.1, if out.1 then (key, a.1) :: s.accepted else s.accepted⟩
    | .reserve key => some ⟨(reserve cfg a.1 key s.limiter).2, a.1, s.accepted⟩
    | .complete handle success =>
      some ⟨complete a.1 handle success s.limiter, a.1,
        match s.limiter.open? handle, success with
        | some key, true => (key, a.1) :: s.accepted
        | _, _ => s.accepted⟩
    | .deleteExpiredEntries tick =>
      if a.1 < tick then none
      else some ⟨deleteExpiredEntries cfg tick s.limiter, a.1, s.accepted⟩

/-- The key of a `Request`. -/
def Call.request? : Call κ → Option κ
  | .request key => some key
  | _ => none

/-- `Request` is not called for a key with a reservation in flight. -/
def NotReserved (s : State κ) (a : ℤ × Call κ) : Prop :=
  ∀ key ∈ a.2.request?, (key, false) ∉ s.limiter.handles

instance (s : State κ) (a : ℤ × Call κ) : Decidable (NotReserved s a) :=
  inferInstanceAs (Decidable (∀ key ∈ a.2.request?, _))

/-! ## Buckets -/

def Limiter.queue (l : Limiter κ) (key : κ) : List ℤ :=
  ((l.lru.find? (·.key = key)).map Entry.requests).getD []

theorem touchEntry_eq (l : Limiter κ) (key : κ) (now : ℤ) :
    l.touchEntry key now = ⟨key, now, l.queue key⟩ := by
  unfold Limiter.touchEntry Limiter.queue
  cases hfind : l.lru.find? (·.key = key) with
  | none => rfl
  | some entry =>
    have hkey : entry.key = key := by simpa using find?_some hfind
    rw [← hkey]
    rfl

theorem queue_put (l : Limiter κ) (entry : Entry κ) (key : κ) :
    (l.put entry).queue key = if entry.key = key then entry.requests else l.queue key := by
  unfold Limiter.put Limiter.queue
  by_cases hkey : entry.key = key
  · rw [if_pos hkey, find?_cons_of_pos (by simpa using hkey)]
    rfl
  rw [if_neg hkey, find?_cons_of_neg (by simpa using hkey), find?_filter]
  congr 3
  funext e
  by_cases he : e.key = key
  · subst he
    simp [Ne.symm hkey]
  · simp [he]

/-- The keys that stay after an eviction keep their queues, and the others were idle. -/
theorem queue_deleteExpiredEntries (cfg : Config κ) (tick : ℤ) (l : Limiter κ) (key : κ) :
    (deleteExpiredEntries cfg tick l).queue key = l.queue key ∨
      (deleteExpiredEntries cfg tick l).queue key = [] ∧ 0 < cfg.expirationDuration ∧
        ∃ entry ∈ l.lru, entry.requests = l.queue key ∧
          cfg.expirationDuration ≤ tick - entry.lastActive := by
  unfold deleteExpiredEntries
  split
  · exact .inl rfl
  rename_i hpos
  let idle (entry : Entry κ) : Bool := cfg.expirationDuration ≤ tick - entry.lastActive
  have hsplit : l.lru.rdropWhile idle ++ l.lru.rtakeWhile idle = l.lru :=
    rdropWhile_append_rtakeWhile
  unfold Limiter.queue
  change (((l.lru.rdropWhile idle).find? (·.key = key)).map Entry.requests).getD [] = _ ∨
    (((l.lru.rdropWhile idle).find? (·.key = key)).map Entry.requests).getD [] = [] ∧ _
  generalize l.lru.rdropWhile idle = kept at hsplit ⊢
  cases hkept : kept.find? (·.key = key) with
  | some entry =>
    left
    rw [← hsplit, find?_append, hkept]
    rfl
  | none =>
    cases hfind : l.lru.find? (·.key = key) with
    | none => exact .inl rfl
    | some entry =>
      refine .inr ⟨rfl, not_le.1 hpos, entry, mem_of_find?_eq_some hfind, rfl, ?_⟩
      rw [← hsplit, find?_append, hkept, Option.none_or] at hfind
      have hidle : idle entry = true :=
        mem_rtakeWhile_imp (mem_of_find?_eq_some hfind)
      exact of_decide_eq_true hidle

/-- The queue of a key without its expired requests. -/
def Limiter.unexpired (cfg : Config κ) (now : ℤ) (key : κ) (l : Limiter κ) : List ℤ :=
  removeExpired (unix now) (cfg.duration key) (l.queue key)

theorem request_cases (cfg : Config κ) (now : ℤ) (key : κ) (l : Limiter κ) :
    cfg.maximum key ≤ 0 ∧ request cfg now key l = (false, l) ∨
      cfg.maximum key ≤ (l.unexpired cfg now key).length ∧
        request cfg now key l = (false, l.put ⟨key, now, l.unexpired cfg now key⟩) ∨
      (l.unexpired cfg now key).length < cfg.maximum key ∧ request cfg now key l =
        (true, l.put ⟨key, now, l.unexpired cfg now key ++ [unix now]⟩) := by
  unfold request Limiter.unexpired
  rw [touchEntry_eq]
  dsimp only
  split
  next hmaximum =>
    exact .inl ⟨hmaximum, rfl⟩
  split
  next hallowed =>
    exact .inr (.inr ⟨hallowed, rfl⟩)
  next hrejected =>
    exact .inr (.inl ⟨not_lt.1 hrejected, rfl⟩)

/-- One more reservation. -/
def Limiter.reserved (l : Limiter κ) (key : κ) : Limiter κ :=
  { l with
    reservations := Function.update l.reservations key (l.reservations key + 1)
    handles := l.handles ++ [(key, false)] }

theorem reserve_cases (cfg : Config κ) (now : ℤ) (key : κ) (l : Limiter κ) :
    cfg.maximum key ≤ 0 ∧ reserve cfg now key l = (false, l) ∨
      cfg.maximum key ≤ (l.unexpired cfg now key).length + l.reservations key ∧
        reserve cfg now key l = (false, l.put ⟨key, now, l.unexpired cfg now key⟩) ∨
      (l.unexpired cfg now key).length + l.reservations key < cfg.maximum key ∧
        reserve cfg now key l =
          (true, (l.reserved key).put ⟨key, now, l.unexpired cfg now key⟩) := by
  unfold reserve Limiter.unexpired
  rw [touchEntry_eq]
  dsimp only [Limiter.put]
  split
  next hmaximum =>
    exact .inl ⟨hmaximum, rfl⟩
  split
  next hrejected =>
    exact .inr (.inl ⟨hrejected, rfl⟩)
  next hreserved =>
    exact .inr (.inr ⟨not_le.1 hreserved, rfl⟩)

/-- A reservation is over. -/
def Limiter.released (l : Limiter κ) (handle : ℕ) (key : κ) : Limiter κ :=
  { l with
    reservations := Function.update l.reservations key (l.reservations key - 1)
    handles := l.handles.set handle (key, true) }

theorem complete_cases (now : ℤ) (handle : ℕ) (success : Bool) (l : Limiter κ) :
    l.open? handle = none ∧ complete now handle success l = l ∨
      ∃ key, l.open? handle = some key ∧ complete now handle success l =
        if success then (l.released handle key).put ⟨key, now, l.queue key ++ [unix now]⟩
        else l.released handle key := by
  unfold complete
  cases hopen : l.open? handle with
  | none => exact .inl ⟨rfl, rfl⟩
  | some key =>
    refine .inr ⟨key, rfl, ?_⟩
    dsimp only
    rw [touchEntry_eq]
    rfl

/-! ## What the queues hold -/

/-- The invariant. -/
structure Sound (cfg : Config κ) (s : State κ) : Prop where
  holds : ∀ key, Holds (cfg.duration key) s.now (s.limiter.queue key) (s.seconds key)
  sorted : ∀ key, (s.seconds key).Pairwise (· ≥ ·)
  past : ∀ key, ∀ t ∈ s.events key, t ≤ s.now
  active : ∀ entry ∈ s.limiter.lru, entry.lastActive ≤ s.now ∧
    ∀ x ∈ entry.requests, x ≤ unix entry.lastActive
  handles : ∀ key, s.limiter.reservations key = s.limiter.handles.countP (· = (key, false))

section Sound

variable {cfg : Config κ} {s : State κ} {now : ℤ} {key : κ}

theorem events_cons (s : State κ) (l : Limiter κ) (now : ℤ) (key k : κ) :
    (⟨l, now, (key, now) :: s.accepted⟩ : State κ).events k =
      if key = k then now :: s.events k else s.events k := by
  unfold State.events
  by_cases hk : key = k
  · rw [if_pos hk, filter_cons_of_pos (by simpa using hk), map_cons]
  · rw [if_neg hk, filter_cons_of_neg (by simpa using hk)]

theorem seconds_cons (s : State κ) (l : Limiter κ) (now : ℤ) (key k : κ) :
    (⟨l, now, (key, now) :: s.accepted⟩ : State κ).seconds k =
      if key = k then unix now :: s.seconds k else s.seconds k := by
  unfold State.seconds
  rw [events_cons]
  split <;> rfl

variable {l : Limiter κ} {queue : List ℤ}

section

variable (h : Sound cfg s) (hnow : s.now ≤ now)

include h hnow

/-- The seconds of the events are not after the time. -/
theorem Sound.seconds_le : ∀ x ∈ s.seconds key, x ≤ unix now := by
  intro x hx
  obtain ⟨t, ht, rfl⟩ := mem_map.1 hx
  exact unix_mono ((h.past key t ht).trans hnow)

/-- Time passes, and buckets may go. -/
theorem Sound.later (hlru : ∀ entry ∈ l.lru, entry ∈ s.limiter.lru)
    (hqueue : ∀ key, Holds (cfg.duration key) now (l.queue key) (s.seconds key))
    (hhandles : ∀ key, l.reservations key = l.handles.countP (· = (key, false))) :
    Sound cfg ⟨l, now, s.accepted⟩ := by
  refine ⟨hqueue, h.sorted, fun key t ht => (h.past key t ht).trans hnow, fun entry he => ?_,
    hhandles⟩
  obtain ⟨hactive, hrequests⟩ := h.active entry (hlru entry he)
  exact ⟨hactive.trans hnow, hrequests⟩

/-- The buckets after one is touched. -/
theorem Sound.active_put (hlru : l.lru = s.limiter.lru)
    (hqueue : ∀ x ∈ queue, x ≤ unix now) : ∀ entry ∈ (l.put ⟨key, now, queue⟩).lru,
      entry.lastActive ≤ now ∧ ∀ x ∈ entry.requests, x ≤ unix entry.lastActive := by
  intro entry hentry
  rcases mem_cons.1 hentry with rfl | hold
  · exact ⟨le_rfl, hqueue⟩
  · rw [hlru] at hold
    obtain ⟨hactive, hrequests⟩ := h.active entry (mem_of_mem_filter hold)
    exact ⟨hactive.trans hnow, hrequests⟩

end

theorem Holds.mem {duration now : ℤ} {queue seconds : List ℤ}
    (h : Holds duration now queue seconds) : ∀ x ∈ queue, x ∈ seconds := by
  obtain ⟨old, rfl, -⟩ := h
  exact fun x hx => mem_append_left _ (mem_reverse.2 hx)

section

variable (h : Sound cfg s) (hnow : s.now ≤ now)

include h hnow

section

variable (hlru : l.lru = s.limiter.lru)
  (hqueue : Holds (cfg.duration key) now queue (s.seconds key))
  (hhandles : ∀ key, l.reservations key = l.handles.countP (· = (key, false)))

include hlru hqueue hhandles

/-- A bucket is touched without a new event. -/
theorem Sound.touch :
    Sound cfg ⟨l.put ⟨key, now, queue⟩, now, s.accepted⟩ := by
  refine ⟨fun k => ?_, h.sorted, fun k t ht => (h.past k t ht).trans hnow,
    h.active_put hnow hlru fun x hx => h.seconds_le hnow x (hqueue.mem x hx), hhandles⟩
  rw [queue_put]
  split
  next hk =>
    subst hk
    exact hqueue
  · rw [Limiter.queue, hlru]
    exact (h.holds k).later hnow

/-- A bucket is touched with a new event. -/
theorem Sound.accept :
    Sound cfg ⟨l.put ⟨key, now, queue ++ [unix now]⟩, now, (key, now) :: s.accepted⟩ := by
  refine ⟨fun k => ?_, fun k => ?_, fun k t ht => ?_,
    h.active_put hnow hlru fun x hx => ?_, hhandles⟩
  · rw [seconds_cons]
    rw [queue_put]
    split
    next hk =>
      subst hk
      exact hqueue.append (unix now)
    · rw [Limiter.queue, hlru]
      exact (h.holds k).later hnow
  · rw [seconds_cons]
    split
    · exact pairwise_cons.2 ⟨fun x hx => h.seconds_le hnow x hx, h.sorted k⟩
    · exact h.sorted k
  · rw [events_cons] at ht
    split at ht
    · rcases mem_cons.1 ht with rfl | ht
      · exact le_rfl
      · exact (h.past k t ht).trans hnow
    · exact (h.past k t ht).trans hnow
  · rcases mem_append.1 hx with hx | hx
    · exact h.seconds_le hnow x (hqueue.mem x hx)
    · exact (mem_singleton.1 hx).le

end

/-- An eviction forgets only expired events. -/
theorem Sound.evict {tick : ℤ} (htick : tick ≤ now)
    (hhorizon : 0 < cfg.expirationDuration →
      ∀ key, cfg.duration key * 1000000000 ≤ cfg.expirationDuration) :
    Sound cfg ⟨deleteExpiredEntries cfg tick s.limiter, now, s.accepted⟩ := by
  have hlru : ∀ entry ∈ (deleteExpiredEntries cfg tick s.limiter).lru, entry ∈ s.limiter.lru := by
    intro entry hentry
    unfold deleteExpiredEntries at hentry
    split at hentry
    · exact hentry
    · exact (List.rdropWhile_prefix _ _).subset hentry
  have hhandles : ∀ key, (deleteExpiredEntries cfg tick s.limiter).reservations key =
      (deleteExpiredEntries cfg tick s.limiter).handles.countP (· = (key, false)) := by
    unfold deleteExpiredEntries
    split <;> exact h.handles
  refine h.later hnow hlru (fun key => ?_) hhandles
  rcases queue_deleteExpiredEntries cfg tick s.limiter key with
    hsame | ⟨hempty, hpos, entry, hentry, hrequests, hidle⟩
  · rw [hsame]
    exact (h.holds key).later hnow
  rw [hempty]
  obtain ⟨old, hsplit, hold⟩ := (h.holds key).later hnow
  refine ⟨s.seconds key, rfl, fun x hx => ?_⟩
  rw [hsplit] at hx
  rcases mem_append.1 hx with hx | hx
  · -- the key has been idle for longer than its window
    rw [mem_reverse, ← hrequests] at hx
    calc x + cfg.duration key ≤ unix entry.lastActive + cfg.duration key :=
          Int.add_le_add_right ((h.active entry hentry).2 x hx) _
      _ = unix (entry.lastActive + cfg.duration key * 1000000000) := (unix_add _ _).symm
      _ ≤ unix now := unix_mono (by have := hhorizon hpos key; omega)
  · exact hold x hx

end

/-- The reservations in flight after a new one. -/
theorem Sound.handles_reserved (h : Sound cfg s) (key k : κ) :
    (s.limiter.reserved key).reservations k =
      (s.limiter.reserved key).handles.countP (· = (k, false)) := by
  unfold Limiter.reserved
  dsimp only
  by_cases hk : key = k
  · subst hk
    simp [h.handles]
  · rw [update_of_ne (Ne.symm hk), h.handles]
    simp [hk]

/-- The reservations in flight after one is complete. -/
theorem Sound.handles_released (h : Sound cfg s) {handle : ℕ}
    (hopen : s.limiter.open? handle = some key) (k : κ) :
    (s.limiter.released handle key).reservations k =
      (s.limiter.released handle key).handles.countP (· = (k, false)) := by
  have hhandle : s.limiter.handles[handle]? = some (key, false) := by
    unfold Limiter.open? at hopen
    split at hopen
    · cases hopen
      assumption
    · cases hopen
  obtain ⟨hlt, hget⟩ := List.getElem?_eq_some_iff.1 hhandle
  unfold Limiter.released
  dsimp only
  rw [countP_set hlt, hget]
  by_cases hk : key = k
  · subst hk
    have hpos : 0 < s.limiter.handles.countP (· = (key, false)) :=
      countP_pos_iff.2 ⟨_, getElem_mem hlt, by simp [hget]⟩
    rw [update_self, h.handles]
    simp
    omega
  · rw [update_of_ne (Ne.symm hk), h.handles]
    simp [hk]

/-! ## One call -/

/-- **One call** keeps the queues. -/
theorem Sound.step (hhorizon : 0 < cfg.expirationDuration →
      ∀ key, cfg.duration key * 1000000000 ≤ cfg.expirationDuration)
    {a : ℤ × Call κ} {s' : State κ} (h : Sound cfg s) (hstep : step cfg s a = some s') :
    Sound cfg s' := by
  obtain ⟨now, call⟩ := a
  unfold RateLimit.step at hstep
  split at hstep
  · cases hstep
  rename_i htime
  have hnow : s.now ≤ now := not_lt.1 htime
  have hholds (key : κ) : Holds (cfg.duration key) now (s.limiter.unexpired cfg now key)
      (s.seconds key) :=
    ((h.holds key).later hnow).removeExpired (h.sorted key)
  have hsame : Sound cfg ⟨s.limiter, now, s.accepted⟩ :=
    h.later hnow (fun _ he => he) (fun key => (h.holds key).later hnow) h.handles
  cases call with
  | request key =>
    cases hstep
    rcases request_cases cfg now key s.limiter with ⟨-, hout⟩ | ⟨-, hout⟩ | ⟨-, hout⟩ <;> rw [hout]
    · exact hsame
    · exact h.touch hnow rfl (hholds key) h.handles
    · exact h.accept hnow rfl (hholds key) h.handles
  | reserve key =>
    cases hstep
    rcases reserve_cases cfg now key s.limiter with ⟨-, hout⟩ | ⟨-, hout⟩ | ⟨-, hout⟩ <;> rw [hout]
    · exact hsame
    · exact h.touch hnow rfl (hholds key) h.handles
    · exact h.touch hnow rfl (hholds key) (h.handles_reserved key)
  | complete handle success =>
    cases hstep
    rcases complete_cases now handle success s.limiter with ⟨hopen, hout⟩ | ⟨key, hopen, hout⟩
    · rw [hout, hopen]
      exact hsame
    rw [hout, hopen]
    have hqueue := (h.holds key).later hnow
    cases success with
    | true => exact h.accept hnow rfl hqueue (h.handles_released hopen)
    | false =>
      exact h.later hnow (fun _ he => he) (fun key => (h.holds key).later hnow)
        (h.handles_released hopen)
  | deleteExpiredEntries tick =>
    dsimp only at hstep
    split at hstep
    · cases hstep
    next htick =>
      cases hstep
      exact h.evict hnow (not_lt.1 htick) hhorizon

theorem Sound.reservations_nonneg (h : Sound cfg s) (key : κ) : 0 ≤ s.limiter.reservations key := by
  rw [h.handles]
  exact Int.natCast_nonneg _

/-- The requests that are left count the events that are not expired. -/
theorem Sound.length_unexpired (h : Sound cfg s) (hnow : s.now ≤ now) (key : κ) :
    (s.limiter.unexpired cfg now key).length = fresh (cfg.duration key) now (s.seconds key) :=
  ((h.holds key).later hnow).length_removeExpired (h.sorted key)

/-- The limit of the key `k`. -/
def State.Limited (cfg : Config κ) (k : κ) (s : State κ) : Prop :=
  RateLimit.Limited (cfg.maximum k) (cfg.duration k) s.now (s.limiter.reservations k) (s.seconds k)

section Limits

variable {k : κ} (h : Sound cfg s) (hnow : s.now ≤ now) (hlimited : Limited (cfg.maximum k)
  (cfg.duration k) now (s.limiter.reservations k) (s.seconds k))

include h hnow hlimited

/-- `Request` keeps the limit if no reservation is in flight. -/
theorem Sound.limited_request (hfree : (key, false) ∉ s.limiter.handles)
    (hpos : 0 < cfg.maximum k) : State.Limited cfg k
      ⟨(request cfg now key s.limiter).2, now, if (request cfg now key s.limiter).1 then
        (key, now) :: s.accepted else s.accepted⟩ := by
  rcases request_cases cfg now key s.limiter with ⟨-, hout⟩ | ⟨-, hout⟩ | ⟨hallowed, hout⟩ <;>
    rw [hout]
  · exact hlimited
  · exact hlimited
  rw [if_pos rfl, State.Limited, seconds_cons]
  split
  next hkey =>
    subst hkey
    have hzero : s.limiter.reservations key = 0 := by
      rw [h.handles, countP_eq_zero.2 fun x hx => by
        rw [decide_eq_true_eq]
        rintro rfl
        exact hfree hx]
      rfl
    rw [h.length_unexpired hnow] at hallowed
    refine hlimited.accept hpos (h.reservations_nonneg key) ?_
    dsimp only [Limiter.put]
    omega
  · exact hlimited

/-- `Reserve` keeps the limit. -/
theorem Sound.limited_reserve :
    State.Limited cfg k ⟨(reserve cfg now key s.limiter).2, now, s.accepted⟩ := by
  rcases reserve_cases cfg now key s.limiter with ⟨-, hout⟩ | ⟨-, hout⟩ | ⟨hreserved, hout⟩ <;>
    rw [hout]
  · exact hlimited
  · exact hlimited
  rw [h.length_unexpired hnow] at hreserved
  refine hlimited.reserve ?_
  dsimp only [Limiter.put, Limiter.reserved]
  by_cases hkey : key = k
  · subst hkey
    rw [update_self]
    omega
  · rw [update_of_ne (Ne.symm hkey)]
    exact hlimited.room

omit h hnow hlimited in
/-- A reservation that is over leaves its slot. -/
theorem Limited.released {maximum duration : ℤ} {l : Limiter κ} {seconds : List ℤ}
    (h : Limited maximum duration now (l.reservations k) seconds) (handle : ℕ) (key : κ) :
    Limited maximum duration now ((l.released handle key).reservations k) seconds := by
  have hroom := h.room
  refine h.reserve ?_
  dsimp only [Limiter.released]
  by_cases hkey : key = k
  · subst hkey
    rw [update_self]
    omega
  · rw [update_of_ne (Ne.symm hkey)]
    exact hroom

omit hnow in
/-- The slot of a reservation becomes the event. -/
theorem Sound.limited_complete {handle : ℕ} (hopen : s.limiter.open? handle = some key)
    (hpos : 0 < cfg.maximum k) {queue : List ℤ} : State.Limited cfg k
      ⟨(s.limiter.released handle key).put ⟨key, now, queue⟩, now, (key, now) :: s.accepted⟩ := by
  have hroom := hlimited.room
  rw [State.Limited, seconds_cons]
  split
  next hkey =>
    subst hkey
    have hnonneg : 0 ≤ (s.limiter.released handle key).reservations key := by
      rw [h.handles_released hopen]
      exact Int.natCast_nonneg _
    have hless : (s.limiter.released handle key).reservations key =
        s.limiter.reservations key - 1 := update_self ..
    refine hlimited.accept hpos hnonneg ?_
    dsimp only [Limiter.put]
    omega
  · exact hlimited.released handle key

omit hnow hlimited in
/-- **One call** keeps the limit of every key. -/
theorem Sound.limited_step {a : ℤ × Call κ} {s' : State κ} (hfree : NotReserved s a)
    (hstep : RateLimit.step cfg s a = some s') (hpos : 0 < cfg.maximum k)
    (hlimited : s.Limited cfg k) : s'.Limited cfg k := by
  obtain ⟨now, call⟩ := a
  unfold RateLimit.step at hstep
  split at hstep
  · cases hstep
  rename_i htime
  have hnow : s.now ≤ now := not_lt.1 htime
  have hlater := Limited.later hlimited hnow
  cases call with
  | request key =>
    cases hstep
    exact h.limited_request hnow hlater (hfree key rfl) hpos
  | reserve key =>
    cases hstep
    exact h.limited_reserve hnow hlater
  | complete handle success =>
    cases hstep
    rcases complete_cases now handle success s.limiter with ⟨hopen, hout⟩ | ⟨key, hopen, hout⟩
    · rw [hout, hopen]
      exact hlater
    rw [hout, hopen]
    cases success with
    | true => exact h.limited_complete hlater hopen hpos
    | false => exact hlater.released handle key
  | deleteExpiredEntries tick =>
    dsimp only at hstep
    split at hstep
    · cases hstep
    · cases hstep
      unfold deleteExpiredEntries
      split <;> exact hlater

end Limits

/-! ## Rejections -/

/-- The accepted events of a key in the window that ends now. -/
def State.inWindow (cfg : Config κ) (s : State κ) (now : ℤ) (key : κ) : ℕ :=
  (s.events key).countP fun t => now - cfg.duration key * 1000000000 < t ∧ t ≤ now

section

variable (h : Sound cfg s) (hnow : s.now ≤ now)

include h hnow

/-- An event that is not expired is in the window. -/
theorem Sound.fresh_le (key : κ) :
    fresh (cfg.duration key) now (s.seconds key) ≤ s.inWindow cfg now key := by
  unfold fresh State.seconds
  rw [countP_map]
  refine countP_mono_left fun t ht hfresh => ?_
  have hpast := (h.past key t ht).trans hnow
  rw [comp_apply, decide_eq_true_eq] at hfresh
  unfold unix at hfresh
  rw [decide_eq_true_eq]
  exact ⟨by omega, hpast⟩

/-- `Request` rejects only when the window is full. -/
theorem Sound.request_rejected (hrejected : (request cfg now key s.limiter).1 = false) :
    cfg.maximum key ≤ s.inWindow cfg now key := by
  have hle := h.fresh_le hnow key
  have hlength := h.length_unexpired hnow key
  rcases request_cases cfg now key s.limiter with ⟨hmaximum, -⟩ | ⟨hfull, -⟩ | ⟨-, hout⟩
  · omega
  · omega
  · rw [hout] at hrejected
    cases hrejected

/-- `Reserve` rejects only when the window is full with the reservations in flight. -/
theorem Sound.reserve_rejected (hrejected : (reserve cfg now key s.limiter).1 = false) :
    cfg.maximum key ≤ s.inWindow cfg now key + s.limiter.handles.countP (· = (key, false)) := by
  have hle := h.fresh_le hnow key
  have hlength := h.length_unexpired hnow key
  have hhandles := h.handles key
  rcases reserve_cases cfg now key s.limiter with ⟨hmaximum, -⟩ | ⟨hfull, -⟩ | ⟨-, hout⟩
  · omega
  · omega
  · rw [hout] at hrejected
    cases hrejected

end

end Sound

/-! ## Every run -/

/-- A limiter that has had no call. -/
def State.Fresh (s : State κ) : Prop :=
  s.limiter = ⟨[], fun _ => 0, []⟩ ∧ s.accepted = []

theorem State.Fresh.sound {cfg : Config κ} {s : State κ} (h : s.Fresh) : Sound cfg s := by
  obtain ⟨hlimiter, haccepted⟩ := h
  refine ⟨fun key => ⟨[], ?_, forall_mem_nil _⟩, fun key => ?_, fun key => ?_, ?_, fun key => ?_⟩
  · simp [State.seconds, State.events, haccepted, hlimiter, Limiter.queue]
  · simp [State.seconds, State.events, haccepted]
  · simp [State.events, haccepted]
  · rw [hlimiter]
    exact forall_mem_nil _
  · rw [hlimiter]
    rfl

theorem State.Fresh.limited {cfg : Config κ} {s : State κ} (h : s.Fresh) {key : κ}
    (hpos : 0 < cfg.maximum key) : s.Limited cfg key := by
  unfold State.Limited State.seconds State.events
  rw [h.1, h.2]
  exact ⟨hpos.le, trivial⟩

/-- **The window.** The durations are not longer than the expiration, and the maxima are positive.
In every run in which `Request` is not called for a key with a reservation in flight, no window
of whole seconds has more accepted events of a key than the maximum; and at any time a call is
rejected only if the window that ends then has the maximum, with the reservations in flight in
the case of `Reserve`. -/
theorem rate_limit_window {cfg : Config κ} (hmaximum : ∀ key, 0 < cfg.maximum key)
    (hhorizon : 0 < cfg.expirationDuration →
      ∀ key, cfg.duration key * 1000000000 ≤ cfg.expirationDuration)
    {s₀ s : State κ} (hstart : s₀.Fresh) (hrun : Exec (step cfg) NotReserved s₀ s) :
    (∀ key start, (s.seconds key).countP (fun x => start ≤ x ∧ x < start + cfg.duration key) ≤
        cfg.maximum key) ∧
      ∀ key now, s.now ≤ now → ((request cfg now key s.limiter).1 = false →
          cfg.maximum key ≤ s.inWindow cfg now key) ∧
        ((reserve cfg now key s.limiter).1 = false → cfg.maximum key ≤
            s.inWindow cfg now key + s.limiter.handles.countP (· = (key, false))) := by
  have hinv : Sound cfg s ∧ ∀ key, s.Limited cfg key := by
    refine Exec.invariant_of (I := Sound cfg) (J := fun s => ∀ key, s.Limited cfg key)
      (fun t a u ht _ hstep => ht.step hhorizon hstep) (fun t a u ht hlimited hfree hstep key => ?_)
      hstart.sound (fun key => hstart.limited (hmaximum key)) hrun
    exact ht.limited_step hfree hstep (hmaximum key) (hlimited key)
  refine ⟨fun key start => ?_, fun key now hnow => ⟨?_, ?_⟩⟩
  · have hwindow := (hinv.2 key).spaced.window start
    have hpos := hmaximum key
    omega
  · exact hinv.1.request_rejected hnow
  · exact hinv.1.reserve_rejected hnow

end Limiter

/-- Two keys with the maximum of `maximum` in `duration` seconds, evicted after 20 seconds. -/
def twoKeys (maximum duration : ℤ) : Config Bool :=
  ⟨fun _ => maximum, fun _ => duration, 20000000000⟩

/-- A limiter that starts at the time 0. -/
def newLimiter : State Bool := ⟨⟨[], fun _ => 0, []⟩, 0, []⟩

/-- Two reservations fill the window, one of them fails and the other succeeds, the key is evicted
while it is idle, and there is room again. -/
theorem rate_limit_window_reservations :
    ∃ s, Exec (step (twoKeys 2 10)) NotReserved newLimiter s ∧
      s.accepted = [(true, 31000000000), (true, 1000000000)] ∧
      s.limiter.lru = [⟨true, 31000000000, [31]⟩] ∧
      (s.seconds true).countP (fun x => 25 ≤ x ∧ x < 25 + 10) ≤ (2 : ℤ) := by
  refine Exec.exists_and_and_of_actions [(0, .reserve true), (0, .reserve true),
    (500000000, .reserve true), (1000000000, .complete 0 true), (1000000000, .complete 1 false),
    (30000000000, .deleteExpiredEntries 21000000000), (31000000000, .request true)]
    (by decide +kernel) fun _ hrun _ _ => ?_
  have hmaximum : ∀ key, 0 < (twoKeys 2 10).maximum key := by decide
  have hhorizon : ∀ key, (twoKeys 2 10).duration key * 1000000000 ≤
      (twoKeys 2 10).expirationDuration := by decide
  have hwindow := rate_limit_window hmaximum (fun _ => hhorizon) ⟨rfl, rfl⟩ hrun
  exact hwindow.1 true 25

/-- A request is accepted beside a reservation that succeeds later, so that there are two events at
the time 0 with a maximum of one. And two requests a tenth of a second apart are accepted with a
maximum of one in a second, because a new Unix second starts between them. -/
theorem rate_limit_window_exceeded :
    (∃ s, Exec (step (twoKeys 1 10)) (fun _ _ => True) newLimiter s ∧ s.events true = [0, 0]) ∧
      ∃ s, Exec (step (twoKeys 1 1)) NotReserved newLimiter s ∧
        s.events true = [1000000000, 900000000] := by
  constructor
  · exact Exec.exists_of_actions [(0, .reserve true), (0, .request true), (0, .complete 0 true)]
      (by decide +kernel)
  · exact Exec.exists_of_actions [(900000000, .request true), (1000000000, .request true)]
      (by decide +kernel)

end OmniRouters.RateLimit
