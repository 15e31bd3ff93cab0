import OmniRouters.Relay.Loop

/-!
# The groups of an auto token

Models of the group lists of `service/group.go`, of the selector
`CacheGetRandomSatisfiedChannel` (`service/channel_select.go`), of the selection in `Distribute`
(`middleware/distributor.go`) and of `HandleGroupRatio` (`relay/helper/price.go`), for a token
of the group `auto`. The channel that a group offers is drawn at random and is an input.

* `searchGroups_found`: the selector leaves the group it selected from in the context.
* `mem_sortAutoGroupsByPrice`, `getRequestAutoGroups_usable`: the groups it searches are the
  request's own.
-/

namespace OmniRouters.Relay

open Billing List

/-! ## Settings -/

/-- An entry of `GroupSpecialUsableGroup`: `-:group` removes a group from those a user group
may use, `+:group` and `group` add it. -/
inductive SpecialGroup
  | remove (group : String)
  | add (group : String)

/-- The settings of groups (`setting` and `setting/ratio_setting`). The special entries of a
user group come in the order they are visited in; `groupModelRatio` is
`ResolveGroupModelRatio` of a group, a model and a user. -/
structure GroupSetting where
  userUsableGroups : List String
  specialUsableGroups : String → List SpecialGroup
  autoGroups : List String
  maxTokenAutoGroups : ℕ
  groupRatio : String → Option ℚ
  groupGroupRatio : String → String → Option ℚ
  groupModelRatio : String → String → ℕ → Option ℚ

/-- What the context and `RelayInfo` say of the user and the token. `tokenAutoGroups` is the
token's own order of groups, `autoRouteByPrice` its route strategy. -/
structure AutoToken where
  userId : ℕ
  userGroup : String
  userExtraGroups : List String
  tokenAutoGroups : Option (List String)
  subscriptionKey : Bool
  autoRouteByPrice : Bool
  crossGroupRetry : Bool
  modelName : String
  billingModelName : String

/-! ## Group lists -/

/-- `GetUserUsableGroupsWithExtras` (group.go:19-56). -/
def getUserUsableGroups (setting : GroupSetting) (token : AutoToken) : List String :=
  let groups :=
    if token.userGroup = "" then setting.userUsableGroups
    else
      let groups := (setting.specialUsableGroups token.userGroup).foldl (fun groups special =>
        match special with
        | .remove group => groups.filter (· ≠ group)
        | .add group => group :: groups) setting.userUsableGroups
      if token.userGroup ∈ groups then groups else token.userGroup :: groups
  token.userExtraGroups.foldl (fun groups group =>
    let group := trimSpace group
    if group = "" ∨ group = "auto" ∨ group = token.userGroup ∨ setting.groupRatio group = none then
      groups
    else group :: groups) groups

/-- `isUserSelectableGroupWithExtras` (group.go:71-77). -/
def isUserSelectableGroup (setting : GroupSetting) (token : AutoToken) (group : String) : Bool :=
  group ≠ "" && group ≠ "auto" && (getUserUsableGroups setting token).contains group &&
    (setting.groupRatio group).isSome

/-- The loop of `GetUserAutoGroupWithExtras` and `filterUserTokenAutoGroupsLimit`
(group.go:92-101 and 121-134), with `seen` the groups already kept. -/
def selectableGroups (setting : GroupSetting) (token : AutoToken) (seen : List String) :
    List String → List String
  | [] => []
  | group :: rest =>
    if isUserSelectableGroup setting token group && !seen.contains group then
      group :: selectableGroups setting token (group :: seen) rest
    else selectableGroups setting token seen rest

/-- `filterSubscriptionAllowedGroups` (group.go:186-206). -/
def filterSubscriptionAllowedGroups (allowed groups : List String) : List String :=
  if allowed.isEmpty then groups else groups.filter (allowed.contains ·)

/-- `GetRequestAutoGroups` (group.go:142-160), `allowed` being the context's
`ContextKeySubscriptionAllowedGroups`. -/
def getRequestAutoGroups (setting : GroupSetting) (token : AutoToken) (allowed : List String) :
    List String :=
  match token.tokenAutoGroups with
  | none => filterSubscriptionAllowedGroups allowed
      (selectableGroups setting token [] setting.autoGroups)
  | some groups =>
    let maxCount := if token.subscriptionKey then groups.length else setting.maxTokenAutoGroups
    filterSubscriptionAllowedGroups allowed
      ((selectableGroups setting token [] groups).take maxCount)

/-- The price of a group in `SortAutoGroupsByPrice`. -/
def autoGroupPrice (setting : GroupSetting) (token : AutoToken) (group : String) : ℚ :=
  let price := (setting.groupGroupRatio token.userGroup group).getD
    ((setting.groupRatio group).getD 1)
  match setting.groupModelRatio group token.modelName token.userId with
  | some modelRatio => price * modelRatio
  | none => price

/-- `SortAutoGroupsByPrice` (group.go:165-184): a stable sort. -/
def sortAutoGroupsByPrice (setting : GroupSetting) (token : AutoToken) (groups : List String) :
    List String :=
  if groups.length < 2 ∨ token.modelName = "" ∨ ¬ token.autoRouteByPrice then groups
  else groups.insertionSort fun a b =>
    autoGroupPrice setting token a ≤ autoGroupPrice setting token b

/-- The groups that the selectors visit. -/
def searchedGroups (setting : GroupSetting) (token : AutoToken) (allowed : List String) :
    List String :=
  sortAutoGroupsByPrice setting token (getRequestAutoGroups setting token allowed)

/-- `HandleGroupRatio` (price.go:47-90) once the group is known: the
group ratio. Members of an organization share its prices. -/
def handleGroupRatio (setting : GroupSetting) (token : AutoToken) (organizationId : ℕ)
    (group : String) : ℚ :=
  let groupRatio := (setting.groupGroupRatio token.userGroup group).getD
    ((setting.groupRatio group).getD 1)
  match setting.groupModelRatio group token.billingModelName
      (if 0 < organizationId then 0 else token.userId) with
  | some modelRatio => groupRatio * modelRatio
  | none => groupRatio

/-! ## Selection -/

/-- The context keys `auto_group` and `auto_group_index`, and the fields of `RetryParam`. -/
structure SelectState where
  autoGroup : Option String := none
  autoGroupIndex : Option ℕ := none
  retry : ℤ := 0
  resetNextTry : Bool := false

/-- `IncreaseRetry` (channel_select.go:64-73). -/
def SelectState.increaseRetry (s : SelectState) : SelectState :=
  if s.resetNextTry then { s with resetNextTry := false } else { s with retry := s.retry + 1 }

/-- The channel that `GetRandomSatisfiedChannel` draws from a group at a priority, if any. -/
abbrev Pick := String → ℤ → Option ℕ

/-- The loop of `CacheGetRandomSatisfiedChannel` (channel_select.go:139-193)
over the groups from index `i` on; it began at index `start`. -/
def searchGroups (retryTimes : ℤ) (crossGroupRetry : Bool) (pick : Pick) (start : ℕ) :
    List String → ℕ → SelectState → Option (ℕ × String) × SelectState
  | [], _, s => (none, s)
  | group :: rest, i, s =>
    let priorityRetry := if start < i then 0 else s.retry
    match pick group priorityRetry with
    | none =>
      searchGroups retryTimes crossGroupRetry pick start rest (i + 1)
        { s with autoGroupIndex := some (i + 1), retry := 0 }
    | some channel =>
      let s := { s with autoGroup := some group }
      if crossGroupRetry ∧ retryTimes ≤ priorityRetry then
        -- this request still uses the group, the next try starts with the one after it
        (some (channel, group),
          { s with autoGroupIndex := some (i + 1), retry := 0, resetNextTry := true })
      else (some (channel, group), { s with autoGroupIndex := some i })

/-- `CacheGetRandomSatisfiedChannel` (channel_select.go:114-205) of an auto
token. An empty list of groups is an error and finds no channel either. -/
def cacheGetRandomSatisfiedChannel (retryTimes : ℤ) (setting : GroupSetting) (token : AutoToken)
    (allowed : List String) (pick : Pick) (s : SelectState) : Option (ℕ × String) × SelectState :=
  let start := s.autoGroupIndex.getD 0
  searchGroups retryTimes token.crossGroupRetry pick start
    ((searchedGroups setting token allowed).drop start) start s

/-- The preferred channel of an affinity hit that exists, is enabled and satisfies the
request's filters, and the groups it is enabled for (`IsChannelEnabledForGroupModel`). -/
structure Affinity where
  channel : ℕ
  enabledFor : String → Bool

/-- The selection of `Distribute` (distributor.go:103-201) without a pinned
channel: the preferred channel in the first group that has it, or a random one. The retry
counter of the request starts anew afterwards. -/
def distribute (retryTimes : ℤ) (setting : GroupSetting) (token : AutoToken)
    (allowed : List String) (affinity : Option Affinity) (pick : Pick) :
    Option (ℕ × String × SelectState) :=
  let random : Option (ℕ × String × SelectState) :=
    match cacheGetRandomSatisfiedChannel retryTimes setting token allowed pick {} with
    | (none, _) => none
    | (some (channel, group), s) =>
      some (channel, group, { s with retry := 0, resetNextTry := false })
  match affinity with
  | none => random
  | some preferred =>
    match (searchedGroups setting token allowed).find? preferred.enabledFor with
    | some group => some (preferred.channel, group, { autoGroup := some group })
    | none => random

/-! ## Lists -/

variable {setting : GroupSetting} {token : AutoToken} {groups : List String}

variable {group : String}

theorem mem_sortAutoGroupsByPrice :
    group ∈ sortAutoGroupsByPrice setting token groups ↔ group ∈ groups := by
  unfold sortAutoGroupsByPrice
  split
  · rfl
  · exact mem_insertionSort _

variable {allowed : List String}

theorem mem_filterSubscriptionAllowedGroups
    (h : group ∈ filterSubscriptionAllowedGroups allowed groups) : group ∈ groups := by
  unfold filterSubscriptionAllowedGroups at h
  split at h
  · exact h
  · exact (mem_filter.1 h).1

theorem of_mem_selectableGroups {seen : List String}
    (h : group ∈ selectableGroups setting token seen groups) :
    isUserSelectableGroup setting token group = true := by
  induction groups generalizing seen with
  | nil => cases h
  | cons g rest ih =>
    simp only [selectableGroups] at h
    split at h
    next hkeep =>
      rcases mem_cons.1 h with rfl | hrest
      · exact (Bool.and_eq_true_iff.1 hkeep).1
      · exact ih hrest
    · exact ih h

section

variable (h : group ∈ getRequestAutoGroups setting token allowed)

include h

/-- The restriction to a subscription's groups only removes groups. -/
theorem getRequestAutoGroups_unrestricted :
    group ∈ getRequestAutoGroups setting token [] := by
  unfold getRequestAutoGroups at h ⊢
  cases hgroups : token.tokenAutoGroups with
  | none | some =>
    rw [hgroups] at h
    exact mem_filterSubscriptionAllowedGroups h

theorem getRequestAutoGroups_usable :
    group ∈ getUserUsableGroups setting token := by
  have hselectable : isUserSelectableGroup setting token group = true := by
    unfold getRequestAutoGroups at h
    cases hgroups : token.tokenAutoGroups with
    | none =>
      rw [hgroups] at h
      exact of_mem_selectableGroups (mem_filterSubscriptionAllowedGroups h)
    | some groups =>
      rw [hgroups] at h
      exact of_mem_selectableGroups (mem_of_mem_take (mem_filterSubscriptionAllowedGroups h))
  unfold isUserSelectableGroup at hselectable
  simp only [Bool.and_eq_true, contains_iff_mem] at hselectable
  exact hselectable.1.2

end

/-! ## The selected group -/

section Select

variable {retryTimes : ℤ} {setting : GroupSetting} {token : AutoToken} {allowed : List String}
  {pick : Pick} {channel : ℕ} {group : String}

/-- The selector takes the channel from a group of the list and leaves that group in the
context. -/
theorem searchGroups_found {cross : Bool} {start i : ℕ} {groups : List String} {s s' : SelectState}
    (h : searchGroups retryTimes cross pick start groups i s = (some (channel, group), s')) :
    group ∈ groups ∧ s'.autoGroup = some group ∧ ∃ retry, pick group retry = some channel := by
  induction groups generalizing i s with
  | nil => cases h
  | cons g rest ih =>
    simp only [searchGroups] at h
    generalize (if start < i then 0 else s.retry) = priorityRetry at h
    cases hpick : pick g priorityRetry with
    | none =>
      rw [hpick] at h
      obtain ⟨hmem, hrest⟩ := ih h
      exact ⟨mem_cons_of_mem _ hmem, hrest⟩
    | some c =>
      rw [hpick] at h
      dsimp only at h
      split at h
      all_goals
        cases h
        exact ⟨mem_cons_self, rfl, _, hpick⟩

theorem cacheGetRandomSatisfiedChannel_found {s s' : SelectState}
    (h : cacheGetRandomSatisfiedChannel retryTimes setting token allowed pick s =
      (some (channel, group), s')) :
    group ∈ getRequestAutoGroups setting token allowed ∧ s'.autoGroup = some group ∧
      ∃ retry, pick group retry = some channel := by
  obtain ⟨hmem, hrest⟩ := searchGroups_found h
  exact ⟨mem_sortAutoGroupsByPrice.1 (mem_of_mem_drop hmem), hrest⟩

variable {affinity : Option Affinity}

/-- The distributor draws a channel, or takes the preferred one. -/
theorem distribute_cases {s : SelectState}
    (h : distribute retryTimes setting token allowed affinity pick = some (channel, group, s)) :
    (∃ s₁, cacheGetRandomSatisfiedChannel retryTimes setting token allowed pick {} =
        (some (channel, group), s₁) ∧ s = { s₁ with retry := 0, resetNextTry := false }) ∨
      ∃ preferred, affinity = some preferred ∧ preferred.channel = channel ∧
        (searchedGroups setting token allowed).find? preferred.enabledFor = some group ∧
        s = { autoGroup := some group } := by
  revert h
  fun_cases distribute retryTimes setting token allowed affinity pick <;> intro h
  case case1 | case3 =>
    dsimp +zetaDelta only at h
    split at h
    · cases h
    next s₁ hres =>
      cases h
      exact .inl ⟨s₁, hres, rfl⟩
  case case2 preferred _ hfind =>
    cases h
    exact .inr ⟨preferred, rfl, rfl, hfind, rfl⟩

theorem distribute_found {s : SelectState}
    (h : distribute retryTimes setting token allowed affinity pick = some (channel, group, s)) :
    group ∈ getRequestAutoGroups setting token allowed ∧ s.autoGroup = some group ∧
      ((∃ retry, pick group retry = some channel) ∨
        ∃ preferred, affinity = some preferred ∧ preferred.channel = channel ∧
          preferred.enabledFor group = true) := by
  rcases distribute_cases h with ⟨s₁, hres, rfl⟩ | ⟨preferred, haffinity, hchannel, hfind, rfl⟩
  · obtain ⟨hmem, hauto, hpick⟩ := cacheGetRandomSatisfiedChannel_found hres
    exact ⟨hmem, hauto, .inl hpick⟩
  · exact ⟨mem_sortAutoGroupsByPrice.1 (mem_of_find?_eq_some hfind), rfl,
      .inr ⟨preferred, haffinity, hchannel, find?_some hfind⟩⟩

end Select

end OmniRouters.Relay
