import Mathlib.Tactic

/-!
# Quota arithmetic

The conversions of computed prices to quota units (`common/quota_math.go`). A price
is a rational here; the source computes it as a decimal or a float64.
-/

namespace OmniRouters.Billing

/-- `MaxQuota` and `MinQuota` (lines 14-15). -/
def maxQuota : ℤ := 2 ^ 31 - 1

def minQuota : ℤ := -2 ^ 31

/-- `decimal.Round(0)`: half away from zero. -/
def roundHalfAway (d : ℚ) : ℤ :=
  if 0 ≤ d then (d + 1 / 2).floor else -(-d + 1 / 2).floor

/-- `QuotaFromDecimalChecked` (lines 159-162) without the
clamp report. An integer between the bounds is a float64 exactly. -/
def quotaFromDecimal (d : ℚ) : ℤ := max minQuota (min maxQuota (roundHalfAway d))

/-- `QuotaRoundStrict` (lines 146-148): a value that would be
clamped is an error. -/
def quotaRoundStrict (d : ℚ) : Option ℤ :=
  if roundHalfAway d < minQuota ∨ maxQuota < roundHalfAway d then none else some (roundHalfAway d)

/-- `MaxWalletQuota` (line 16). -/
def maxWalletQuota : ℤ := 2 ^ 53 - 1

/-- `WalletQuotaFromDecimalStrict` (lines 172-175). -/
def walletQuotaFromDecimalStrict (d : ℚ) : Option ℤ :=
  if roundHalfAway d < -maxWalletQuota ∨ maxWalletQuota < roundHalfAway d then none
  else some (roundHalfAway d)

theorem roundHalfAway_nonneg {d : ℚ} (h : 0 ≤ d) : 0 ≤ roundHalfAway d := by
  unfold roundHalfAway
  rw [if_pos h]
  exact Rat.le_floor_iff.2 (by push_cast; linarith)

theorem quotaFromDecimal_nonneg {d : ℚ} (h : 0 ≤ d) : 0 ≤ quotaFromDecimal d := by
  have := roundHalfAway_nonneg h
  unfold quotaFromDecimal maxQuota
  omega

theorem roundHalfAway_mono : Monotone roundHalfAway := by
  intro c d h
  have hfloor : ∀ {x y : ℚ}, x ≤ y → x.floor ≤ y.floor := fun hxy => Int.floor_mono hxy
  by_cases hc : 0 ≤ c
  · simp only [roundHalfAway, if_pos hc, if_pos (hc.trans h)]
    exact hfloor (by linarith)
  · have hneg : 0 ≤ roundHalfAway (-c) := roundHalfAway_nonneg (by linarith)
    by_cases hd : 0 ≤ d
    · refine le_trans ?_ (roundHalfAway_nonneg hd)
      rw [roundHalfAway, if_pos (by linarith)] at hneg
      rw [roundHalfAway, if_neg hc]
      omega
    · simp only [roundHalfAway, if_neg hc, if_neg hd]
      exact neg_le_neg (hfloor (by linarith))

theorem quotaFromDecimal_mono : Monotone quotaFromDecimal := fun _ _ h =>
  max_le_max_left _ (min_le_min_left _ (roundHalfAway_mono h))

theorem quotaFromDecimal_le (d : ℚ) : quotaFromDecimal d ≤ maxQuota :=
  max_le (by decide) (min_le_left _ _)

end OmniRouters.Billing
