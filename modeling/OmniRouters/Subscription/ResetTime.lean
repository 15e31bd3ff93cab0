import OmniRouters.Subscription.Usage

/-!
# When a subscription is reset

`calcNextResetTime` (`model/subscription.go`) for all reset periods, in a time zone with a fixed
offset, and the catch-up loop of `maybeResetUserSubscriptionWithPlanTx` over it. Instants are
integers (seconds of Unix time); a duration is an `int64` number of nanoseconds.

* `calcNextResetTime_progress_iff`: the next reset is later and the loop ends exactly if the
  duration of a custom period is at least a second after the multiplication.
* `custom_period_stuck`: a period of 2^55 seconds wraps around to nothing, and the loop never ends.
-/

namespace OmniRouters.Subscription

open Lib

/-! ## The calendar

Days are counted from 1970-01-01, months from March of the year 0 so that a leap day is the last
day of its year. -/

/-- The first of March of a year. -/
def yearStart (year : ℤ) : ℤ := 365 * year + year / 4 - year / 100 + year / 400 - 719468

/-- The year of a day: an estimate, off by at most one. -/
def yearOf (day : ℤ) : ℤ :=
  let year := 400 * (day + 719468) / 146097
  if day < yearStart year then year - 1
  else if yearStart (year + 1) ≤ day then year + 1
  else year

/-- The first day of a month. -/
def monthStart (month : ℤ) : ℤ := yearStart (month / 12) + (153 * (month % 12) + 2) / 5

/-- The month of a day. -/
def monthOf (day : ℤ) : ℤ := 12 * yearOf day + (5 * (day - yearStart (yearOf day)) + 2) / 153

theorem yearOf_spec (day : ℤ) :
    yearStart (yearOf day) ≤ day ∧ day < yearStart (yearOf day + 1) := by
  unfold yearOf yearStart
  dsimp only
  split_ifs <;> constructor <;> omega

theorem lt_monthStart (day : ℤ) : day < monthStart (monthOf day + 1) := by
  obtain ⟨hfirst, hlast⟩ := yearOf_spec day
  have hyear : yearStart (yearOf day + 1) ≤ yearStart (yearOf day) + 366 := by
    unfold yearStart
    omega
  unfold monthStart monthOf
  generalize hmonth : (5 * (day - yearStart (yearOf day)) + 2) / 153 = month
  generalize yearOf day = year at *
  by_cases hfebruary : month = 11
  · have hnext : (12 * year + month + 1) / 12 = year + 1 := by omega
    rw [hnext]
    omega
  · have hnext : (12 * year + month + 1) / 12 = year := by omega
    rw [hnext]
    omega

/-- From 2024-02-29 the next month is that of 2024-03-01, from 2023-12-31 that of 2024-01-01. -/
example : monthStart (monthOf 19782 + 1) = 19783 ∧ monthStart (monthOf 19722 + 1) = 19723 := by
  decide

/-! ## Resets -/

inductive ResetPeriod
  | never
  | daily
  | weekly
  | monthly
  | custom (seconds : ℤ)
deriving DecidableEq

/-- `time.Duration(seconds) * time.Second`. -/
def nanoseconds (seconds : ℤ) : ℤ := wrap64 (seconds * 10 ^ 9)

/-- The day of an instant in the time zone, and the start of a day. -/
def dayOf (offset t : ℤ) : ℤ := (t + offset) / 86400

def midnight (offset day : ℤ) : ℤ := day * 86400 - offset

/-- The switch of `calcNextResetTime` (lines 470-496). -/
def nextReset (offset base : ℤ) : ResetPeriod → Option ℤ
  | .never => none
  | .daily => some (midnight offset (dayOf offset base + 1))
  | .weekly =>
    -- the first day was a Thursday, and Sunday is 0
    let weekday := (dayOf offset base + 4) % 7
    let weekday := if weekday = 0 then 7 else weekday
    some (midnight offset (dayOf offset base + (8 - weekday)))
  | .monthly => some (midnight offset (monthStart (monthOf (dayOf offset base) + 1)))
  | .custom seconds => if seconds ≤ 0 then none else some (base + nanoseconds seconds / 10 ^ 9)

/-- `calcNextResetTime` (lines 462-501). -/
def calcNextResetTime (offset : ℤ) (period : ResetPeriod) (base endUnix : ℤ) : ℤ :=
  match nextReset offset base period with
  | none => 0
  | some next => if 0 < endUnix ∧ endUnix < next then 0 else next

/-- A plan with a reset period. -/
def ResetPeriod.plan (offset : ℤ) (mode : Option Billing.BillingMode) (period : ResetPeriod) :
    Plan where
  billingMode := mode
  resets := period ≠ .never
  calcNextResetTime := calcNextResetTime offset period

/-- The instant from which the next reset is computed. -/
def Row.resetBase (row : Row) : ℤ :=
  if row.lastResetTime ≤ 0 then row.startTime else row.lastResetTime

variable {plan : Plan}

/-- A call returns if its loop ends. -/
theorem maybeReset_isSome {fuel : ℕ} {now : ℤ} {row : Row}
    (h : (catchUp plan row.endTime now fuel row.resetBase
      (plan.calcNextResetTime row.resetBase row.endTime) false).isSome) :
    (maybeResetUserSubscriptionWithPlanTx fuel plan now row).isSome := by
  unfold maybeResetUserSubscriptionWithPlanTx
  split
  · rfl
  split
  · rfl
  dsimp only
  split
  next hnone =>
    exact absurd (hnone ▸ h) nofun
  · split <;> rfl
  · rfl

/-! ## Progress -/

theorem nextReset_lt {offset base next : ℤ} {period : ResetPeriod}
    (hduration : ∀ seconds, period = .custom seconds → 10 ^ 9 ≤ nanoseconds seconds)
    (h : nextReset offset base period = some next) : base < next := by
  have hday : base < midnight offset (dayOf offset base + 1) := by
    unfold midnight dayOf
    omega
  cases period with
  | never => cases h
  | daily =>
    cases h
    exact hday
  | weekly =>
    cases h
    unfold midnight at hday ⊢
    split <;> omega
  | monthly =>
    cases h
    have hmonth := lt_monthStart (dayOf offset base)
    unfold midnight at hday ⊢
    omega
  | custom seconds =>
    obtain ⟨-, hnext⟩ := Option.ite_none_left_eq_some.1 h
    cases hnext
    have := hduration seconds rfl
    omega

/-- The loop ends if the next reset is later. -/
theorem catchUp_isSome {endTime now : ℤ}
    (hprogress : ∀ base, plan.calcNextResetTime base endTime = 0 ∨
      base < plan.calcNextResetTime base endTime) {fuel : ℕ} {base next : ℤ} {advanced : Bool}
    (hfuel : (now - next + 1).toNat < fuel) :
    (catchUp plan endTime now fuel base next advanced).isSome := by
  induction fuel generalizing base next advanced with
  | zero => omega
  | succ fuel ih =>
    unfold catchUp
    split
    next hround =>
      rcases hprogress next with hzero | hlater
      · -- a last round finds that there is no further reset
        rw [hzero]
        obtain ⟨n, rfl⟩ : ∃ n, fuel = n + 1 := ⟨fuel - 1, by omega⟩
        simp [catchUp]
      · exact ih (by omega)
    · rfl

/-- An accepted custom period whose duration is shorter than a second makes no progress. -/
theorem calcNextResetTime_custom {offset seconds : ℤ} (hpos : 0 < seconds)
    (hprogress : ∀ base, calcNextResetTime offset (.custom seconds) base 0 = 0 ∨
      base < calcNextResetTime offset (.custom seconds) base 0) :
    10 ^ 9 ≤ nanoseconds seconds := by
  have hnext := hprogress (1 - nanoseconds seconds / 10 ^ 9)
  simp only [calcNextResetTime, nextReset, if_neg (not_le.2 hpos), lt_self_iff_false, false_and,
    if_false, sub_add_cancel] at hnext
  omega

/-- The next reset is later than its base, and the catch-up loop ends, exactly if the duration of
an accepted custom period is at least a second. -/
theorem calcNextResetTime_progress_iff (offset : ℤ) (period : ResetPeriod)
    (haccepted : ∀ seconds, period = .custom seconds → 0 < seconds) :
    ((∀ base endUnix, calcNextResetTime offset period base endUnix = 0 ∨
        base < calcNextResetTime offset period base endUnix) ∧
      ∀ mode now row, ∃ fuel,
        (maybeResetUserSubscriptionWithPlanTx fuel (period.plan offset mode) now row).isSome) ↔
    ∀ seconds, period = .custom seconds → 10 ^ 9 ≤ nanoseconds seconds := by
  refine ⟨fun h seconds hperiod => ?_, fun hduration => ?_⟩
  · subst hperiod
    exact calcNextResetTime_custom (haccepted seconds rfl) fun base => h.1 base 0
  have hprogress : ∀ base endUnix, calcNextResetTime offset period base endUnix = 0 ∨
      base < calcNextResetTime offset period base endUnix := by
    intro base endUnix
    unfold calcNextResetTime
    cases hnext : nextReset offset base period with
    | none => exact .inl rfl
    | some next =>
      dsimp only
      split
      · exact .inl rfl
      · exact .inr (nextReset_lt hduration hnext)
  refine ⟨hprogress, fun mode now row => ?_⟩
  refine ⟨(now - calcNextResetTime offset period row.resetBase row.endTime + 1).toNat + 1, ?_⟩
  refine maybeReset_isSome (catchUp_isSome (fun base => ?_) (Nat.lt_succ_self _))
  exact hprogress base row.endTime

/-- A daily subscription. -/
theorem calcNextResetTime_progress_daily :
    calcNextResetTime 28800 .daily 1000 0 = 57600 ∧
      ∃ fuel, (maybeResetUserSubscriptionWithPlanTx fuel (ResetPeriod.daily.plan 28800 none) 200000
        (minuteRow 5 1000 57600)).isSome :=
  ⟨by decide, ((calcNextResetTime_progress_iff 28800 .daily (by simp)).2 (by simp)).2 none 200000 _⟩

theorem catchUp_stuck (fuel : ℕ) {endTime now base : ℤ} (hbase : 0 < base)
    (hnow : base ≤ now) (hstuck : plan.calcNextResetTime base endTime = base) (advanced : Bool) :
    catchUp plan endTime now fuel base base advanced = none := by
  induction fuel generalizing advanced with
  | zero => rfl
  | succ fuel ih => rw [catchUp, if_pos ⟨hbase, hnow⟩, hstuck, ih]

/-- 2^55 seconds are a multiple of 2^64 nanoseconds: the next reset is the base itself. -/
theorem custom_period_stuck :
    calcNextResetTime 0 (.custom (2 ^ 55)) 1 1000 = 1 ∧
      ∀ fuel, maybeResetUserSubscriptionWithPlanTx fuel (ResetPeriod.plan 0 none (.custom (2 ^ 55)))
        10 (minuteRow 5 1 1) = none := by
  refine ⟨by decide, fun fuel => ?_⟩
  have hloop : catchUp (ResetPeriod.plan 0 none (.custom (2 ^ 55))) 1000 10 fuel 1 1 false = none :=
    catchUp_stuck fuel (by decide) (by decide) (by decide) false
  unfold maybeResetUserSubscriptionWithPlanTx
  rw [if_neg (by decide), if_neg (by decide)]
  dsimp only
  split
  · rfl
  all_goals
    rename_i hsome
    exact absurd (hloop.symm.trans hsome) nofun

end OmniRouters.Subscription
