import Mathlib.Algebra.Order.Ring.Int

/-!
# Integers and times of 64 bits

Sums and products of the type `int64`, which `int` is too, wrap around. `wrap64_of_fits64` is the
rule for those that fit. A time is a number of nanoseconds, and `unix` its second.
-/

namespace OmniRouters.Lib

variable {n : ℤ}

def fits64 (n : ℤ) : Bool := -2 ^ 63 ≤ n ∧ n < 2 ^ 63

/-- The `int64` of a number. -/
def wrap64 (n : ℤ) : ℤ := (n + 2 ^ 63) % 2 ^ 64 - 2 ^ 63

theorem fits64_iff : fits64 n = true ↔ -2 ^ 63 ≤ n ∧ n < 2 ^ 63 := decide_eq_true_iff

theorem wrap64_lt (n : ℤ) : wrap64 n < 2 ^ 63 := by
  unfold wrap64
  omega

theorem wrap64_of_fits64 (h : fits64 n = true) : wrap64 n = n := by
  have hfits := fits64_iff.1 h
  unfold wrap64
  omega

/-- `Time.Unix`: the second of a time. -/
def unix (t : ℤ) : ℤ := t / 1000000000

theorem unix_mono {a b : ℤ} (h : a ≤ b) : unix a ≤ unix b := Int.ediv_le_ediv (by decide) h

theorem unix_add (t duration : ℤ) : unix (t + duration * 1000000000) = unix t + duration :=
  Int.add_mul_ediv_right t duration (by decide)

end OmniRouters.Lib
