import Mathlib.Algebra.Order.BigOperators.Group.List
import Mathlib.Algebra.Order.Group.Nat
import Mathlib.Algebra.Ring.Nat

/-!
# Locks among threads

A lock is a flag of the shared state. Which threads hold it can be read off the threads, and the
invariant is that one thread holds a lock that is taken and none a lock that is free.

* `Mutex.exchange`: what a step of one thread does to a lock.
* `Mutex.alone`: no other thread holds the lock of a thread.
* `Locks`: a set of locks of which each thread holds at most one, with the rules to acquire and to
  release one.
-/

namespace OmniRouters.Lib

open List

variable {T : Type*}

/-- As many of the threads hold the lock as the flag says, one or none. -/
def Mutex (held : T → ℕ) (locked : Bool) (threads : List T) : Prop :=
  (threads.map held).sum = locked.toNat

namespace Mutex

variable {held : T → ℕ} {locked locked' : Bool} {t : T} {ts others threads threads' : List T}

theorem perm (h : Mutex held locked threads) (hperm : threads.Perm threads') :
    Mutex held locked threads' := by
  unfold Mutex at h ⊢
  rw [← (hperm.map held).sum_eq]
  exact h

theorem free (h : ∀ t ∈ threads, held t = 0) : Mutex held false threads := by
  refine sum_eq_zero fun x hx => ?_
  obtain ⟨t, ht, rfl⟩ := mem_map.1 hx
  exact h t ht

/-- A step gives to the lock what its thread no longer holds. -/
theorem exchange (h : Mutex held locked (t :: others))
    (hstep : (ts.map held).sum + locked.toNat = held t + locked'.toNat) :
    Mutex held locked' (ts ++ others) := by
  unfold Mutex at h ⊢
  rw [map_cons, sum_cons] at h
  rw [map_append, sum_append]
  omega

/-- The lock of a thread is taken, and no other thread holds it. -/
theorem alone (h : Mutex held locked (t :: others)) (ht : held t = 1) :
    locked = true ∧ ∀ u ∈ others, held u = 0 := by
  unfold Mutex at h
  rw [map_cons, sum_cons, ht] at h
  have hle := Bool.toNat_le locked
  refine ⟨Bool.toNat_eq_one.1 (by omega), fun u hu => ?_⟩
  have hzero : (others.map held).sum = 0 := by omega
  exact sum_eq_zero_iff.1 hzero _ (mem_map_of_mem hu)

/-- Nobody holds a free lock. -/
theorem not_held (h : Mutex held false threads) : ∀ u ∈ threads, held u = 0 :=
  fun _ hu => sum_eq_zero_iff.1 h _ (mem_map_of_mem hu)

end Mutex

variable {κ : Type*} [DecidableEq κ]

/-- Each thread holds at most one lock, and the taken locks are those that a thread holds. -/
def Locks (holds : T → Option κ) (taken : List κ) (threads : List T) : Prop :=
  ∀ k, Mutex (fun t => (decide (holds t = some k)).toNat) (decide (k ∈ taken)) threads

namespace Locks

variable {holds : T → Option κ} {taken : List κ} {t u : T} {k : κ}
  {others threads threads' : List T}

theorem perm (h : Locks holds taken threads) (hperm : threads.Perm threads') :
    Locks holds taken threads' :=
  fun k => (h k).perm hperm

theorem free (h : ∀ t ∈ threads, holds t = none) : Locks holds [] threads := by
  intro k
  refine Mutex.free fun t ht => ?_
  rw [h t ht]
  rfl

section

variable (h : Locks holds taken (t :: others))

include h

theorem alone (ht : holds t = some k) : k ∈ taken ∧ ∀ u ∈ others, holds u ≠ some k := by
  have halone := (h k).alone (by simp [ht])
  exact ⟨of_decide_eq_true halone.1, fun u hu => by simpa using halone.2 u hu⟩

/-- A thread that holds no lock ends. -/
theorem stop (ht : holds t = none) : Locks holds taken ([] ++ others) := by
  intro k
  refine (h k).exchange ?_
  simp [ht]

/-- A thread goes on with the lock that it has. -/
theorem keep (hu : holds u = holds t) : Locks holds taken ([u] ++ others) := by
  intro k
  refine (h k).exchange ?_
  simp [hu]

/-- A thread takes a free lock. -/
theorem acquire (ht : holds t = none) (hu : holds u = some k) (hfree : k ∉ taken) :
    Locks holds (k :: taken) ([u] ++ others) := by
  intro n
  refine (h n).exchange ?_
  by_cases hn : k = n
  · subst hn
    simp [ht, hu, hfree]
  · simp [ht, hu, hn, Ne.symm hn]

/-- A thread gives its lock back and goes on without one. -/
theorem giveBack (ht : holds t = some k) (hu : holds u = none) :
    Locks holds (taken.filter (· ≠ k)) ([u] ++ others) := by
  have hmem := (h.alone ht).1
  intro n
  refine (h n).exchange ?_
  by_cases hn : k = n
  · subst hn
    simp [ht, hu, hmem]
  · simp [ht, hu, hn, Ne.symm hn]

/-- A thread gives its lock back and ends. -/
theorem release (ht : holds t = some k) : Locks holds (taken.filter (· ≠ k)) ([] ++ others) := by
  have hmem := (h.alone ht).1
  intro n
  refine (h n).exchange ?_
  by_cases hn : k = n
  · subst hn
    simp [ht, hmem]
  · simp [ht, hn, Ne.symm hn]

end

end Locks

end OmniRouters.Lib
