import Mathlib.Algebra.Order.Group.Defs
import Mathlib.Data.List.Basic

/-!
# Sliding windows

Times are listed with the newest first. A limiter looks back from each new time; what it has to
guarantee is about every window, wherever it starts.

* `Spaced.window`: if each time has at most `n` times up to it within a length `d`, then every
  window of that length has at most `n` times.
* `dropWhile_of_sorted`: in a sorted queue, what is left of the front is what is not dropped.
* `le_countP_take`: what a trimmed list still counts.
-/

namespace OmniRouters.Lib

open List

section Spaced

variable {α : Type*} [AddCommGroup α] [LinearOrder α] {n : ℕ} {d : α} {times : List α}

/-- Each time has at most `n` times up to it, with itself, within the length `d`. -/
def Spaced (n : ℕ) (d : α) : List α → Prop
  | [] => True
  | e :: times => (e :: times).countP (fun x => e - d < x) ≤ n ∧ Spaced n d times

/-- The times after a start that is not earlier than a length before each of them. -/
theorem Spaced.countP_le {start : α} (h : Spaced n d times)
    (hstart : ∀ e ∈ times, e - d ≤ start) : times.countP (fun x => start < x) ≤ n := by
  cases times with
  | nil => exact Nat.zero_le n
  | cons e times =>
    refine le_trans (countP_mono_left fun x _ hx => ?_) h.1
    rw [decide_eq_true_eq] at hx ⊢
    exact lt_of_le_of_lt (hstart e mem_cons_self) hx

/-- **Every window** of the length has at most `n` times. -/
theorem Spaced.window [IsOrderedAddMonoid α] (h : Spaced n d times) (start : α) :
    times.countP (fun x => start ≤ x ∧ x < start + d) ≤ n := by
  induction times with
  | nil => exact Nat.zero_le n
  | cons e times ih =>
    by_cases he : start ≤ e ∧ e < start + d
    · -- the newest time of the window looks back over all of it
      refine le_trans (countP_mono_left fun x _ hx => ?_) h.1
      rw [decide_eq_true_eq] at hx ⊢
      exact lt_of_lt_of_le (sub_lt_iff_lt_add.2 he.2) hx.1
    · rw [countP_cons_of_neg (by simpa using he)]
      exact ih h.2

end Spaced

section Sorted

variable {α : Type*} {r : α → α → Prop} {p : α → Bool} {l : List α}

/-- If the first element of a sorted list fails a property of the front, all do. -/
theorem eq_false_of_head {a : α} (hsorted : (a :: l).Pairwise r)
    (hp : ∀ a b, r a b → p b = true → p a = true) (ha : p a = false) :
    ∀ x ∈ a :: l, p x = false := by
  intro x hx
  rcases mem_cons.1 hx with rfl | hx
  · exact ha
  by_contra hne
  have hpa := hp a x (rel_of_pairwise_cons hsorted hx) (by simpa using hne)
  rw [ha] at hpa
  cases hpa

section

variable (hsorted : l.Pairwise r) (hp : ∀ a b, r a b → p b = true → p a = true)

include hsorted hp

/-- In a sorted queue, the rest after the last element to drop has none to drop. -/
theorem dropWhile_of_sorted : ∀ x ∈ l.dropWhile p, p x = false := by
  induction l with
  | nil => exact forall_mem_nil _
  | cons a l ih =>
    cases ha : p a with
    | true =>
      rw [dropWhile_cons_of_pos ha]
      exact ih hsorted.of_cons
    | false =>
      rw [dropWhile_cons_of_neg (by simp [ha])]
      exact eq_false_of_head hsorted hp ha

/-- A sorted list that is trimmed still counts all of the front, up to its length. -/
theorem le_countP_take (n : ℕ) : min n (l.countP p) ≤ (l.take n).countP p := by
  induction l generalizing n with
  | nil => simp
  | cons a l ih =>
    cases n with
    | zero => simp
    | succ n =>
      cases ha : p a with
      | true =>
        rw [take_succ_cons, countP_cons_of_pos ha, countP_cons_of_pos ha, Nat.add_min_add_right]
        exact Nat.add_le_add_right (ih hsorted.of_cons n) 1
      | false =>
        have hzero : (a :: l).countP p = 0 := by
          refine countP_eq_zero.2 fun x hx => ?_
          rw [eq_false_of_head hsorted hp ha x hx]
          exact Bool.false_ne_true
        rw [hzero, Nat.min_zero]
        exact Nat.zero_le _

end

end Sorted

end OmniRouters.Lib
