import Mathlib.Algebra.BigOperators.Group.List.Basic
import Mathlib.Algebra.Ring.Nat
import Mathlib.Data.List.Sort

/-!
# The channel cache

Model of `model/channel_cache.go`: the index from a group and a model to the ids of the
channels that serve it, which `InitChannelCache` builds from the comma-separated `Group` and
`Models` of the enabled channels, which `CacheUpdateChannelStatus` edits and from which
`GetRandomSatisfiedChannel` draws, with the filters of `model/channel_constraint.go`. The memory
cache is enabled.

* `applyUpdates_status`: the latest status is the one the cache holds.
* `build_count`: how often an id stands in a list after loading.
* `candidate_enabled`: where no channel repeats a group or a model name, a channel whose latest
  status is not enabled is in no list and is never drawn.
* `repeated_model_drawn`: a channel that lists a model twice is still drawn once it is disabled.
-/

namespace OmniRouters.ChannelCache

open List Function

/-! ## Channels and filters -/

/-- `ChannelStatusEnabled`, `ChannelStatusManuallyDisabled` and `ChannelStatusAutoDisabled`
(common/constants.go:310-312). -/
def statusEnabled : ℕ := 1
@[inherit_doc statusEnabled] def statusManuallyDisabled : ℕ := 2
@[inherit_doc statusEnabled] def statusAutoDisabled : ℕ := 3

/-- The channel types that the filters tell apart (`constant/channel.go`). -/
def typeAdvancedCustom : ℕ := 58
@[inherit_doc typeAdvancedCustom] def typeNewAPI : ℕ := 60
@[inherit_doc typeAdvancedCustom] def typeTaskPlugin : ℕ := 61

/-- The fields of `Channel` that the cache reads. The last two belong to its `ChannelSettings`. -/
structure Channel where
  id : ℕ
  channelType : ℕ
  status : ℕ
  group : String
  models : String
  priority : Option ℤ
  weight : Option ℕ
  taskPluginKey : String
  taskExtendPluginKeys : List String
  deriving DecidableEq

/-- `GetPriority` (model/channel.go:505-510). -/
def Channel.getPriority (channel : Channel) : ℤ := channel.priority.getD 0

/-- `GetWeight` (model/channel.go:512-517). -/
def Channel.getWeight (channel : Channel) : ℕ := channel.weight.getD 0

/-- `ChannelSettings.BindsTaskPlugin` (relaykit/dto/channel_settings.go:31-33). -/
def Channel.bindsTaskPlugin (channel : Channel) (key : String) : Bool :=
  key ≠ "" && (channel.taskPluginKey = key || channel.taskExtendPluginKeys.contains key)

/-- `ChannelFilterKind` (`dto/channel_constraints.go`). -/
inductive ChannelFilterKind
  | requestPath
  | taskPluginEndpoint
  | taskPluginIdentity
  deriving DecidableEq

/-- `ChannelFilter` (dto/channel_constraints.go:44-53). -/
structure ChannelFilter where
  kind : ChannelFilterKind
  requestPath : String
  taskPluginKey : String
  taskPluginKeys : List String
  taskPluginChannelTypes : List ℕ
  taskPluginRelayOnly : Bool

/-- `filterEvalOrder` (channel_constraint.go:10-14). -/
def filterEvalOrder : List ChannelFilterKind :=
  [.requestPath, .taskPluginEndpoint, .taskPluginIdentity]

section Filters

/- `supportsPath channel path model`: the advanced custom settings of a channel exist and one of
their routes matches (`SupportsPathForModel`). -/
variable (supportsPath : Channel → String → String → Bool)

/-- `channelMatchesFilter` (channel_constraint.go:90-127). -/
def channelMatchesFilter (channel : Channel) (modelName : String) (filter : ChannelFilter) : Bool :=
  match filter.kind with
  | .requestPath =>
    filter.requestPath = "" || channel.channelType ≠ typeAdvancedCustom ||
      supportsPath channel filter.requestPath modelName
  | .taskPluginIdentity =>
    if channel.channelType = typeTaskPlugin then
      filter.taskPluginKey ≠ "" && (channel.taskPluginKey = filter.taskPluginKey ||
        filter.taskPluginKeys.contains channel.taskPluginKey)
    else if channel.channelType = typeNewAPI then
      filter.taskPluginKey = "" || channel.bindsTaskPlugin filter.taskPluginKey ||
        filter.taskPluginKeys.any channel.bindsTaskPlugin
    else filter.taskPluginKey = "" || filter.taskPluginChannelTypes.contains channel.channelType
  | .taskPluginEndpoint =>
    let pluginChannel :=
      if channel.channelType = typeTaskPlugin ∨ channel.channelType = typeNewAPI then
        filter.taskPluginKeys.any channel.bindsTaskPlugin
      else filter.taskPluginChannelTypes.contains channel.channelType
    if filter.taskPluginRelayOnly then channel.channelType ≠ typeTaskPlugin && !pluginChannel
    else channel.channelType ≠ typeTaskPlugin || pluginChannel

/-- `candidatePassesKindFilters` (channel_constraint.go:75-88): a missing channel
passes the request path filters only. -/
def candidatePassesKindFilters (channel : Option Channel) (modelName : String)
    (kind : ChannelFilterKind) (filters : List ChannelFilter) : Bool :=
  match channel with
  | none => kind = .requestPath
  | some channel => filters.all (channelMatchesFilter supportsPath channel modelName)

/-- The loop of `filterCandidateIDs` over the kinds of filters (lines 45-63), `lookup` being
`channelsIDM`. -/
def filterKinds (lookup : ℕ → Option Channel) (modelName : String)
    (filters : List ChannelFilter) :
    List ChannelFilterKind → List ℕ → List ℕ × Option ChannelFilterKind
  | [], kept => (kept, none)
  | kind :: rest, kept =>
    let kindFilters := filters.filter (·.kind = kind)
    if kindFilters.isEmpty then filterKinds lookup modelName filters rest kept
    else
      let next := kept.filter fun id =>
        candidatePassesKindFilters supportsPath (lookup id) modelName kind kindFilters
      if kept ≠ [] ∧ next = [] then (next, some kind)
      else filterKinds lookup modelName filters rest next

/-- `filterCandidateIDs` (channel_constraint.go:40-63): the ids that pass and the
kind of filter that left none. -/
def filterCandidateIDs (lookup : ℕ → Option Channel) (ids : List ℕ) (modelName : String)
    (filters : List ChannelFilter) : List ℕ × Option ChannelFilterKind :=
  if ids = [] then (ids, none)
  else filterKinds supportsPath lookup modelName filters filterEvalOrder ids

end Filters

/-! ## Loading -/

/-- `strings.Split(s, ",")`. -/
def splitComma (s : String) : List String := (s.toList.splitOn ',').map String.ofList

/-- The ids listed for a group and a model; a missing entry reads as the empty list. -/
abbrev Index := String → String → List ℕ

/-- The `append` of one id to the list of a group and a model. -/
def Index.append (index : Index) (group model : String) (id : ℕ) : Index :=
  Function.update index group (Function.update (index group) model (index group model ++ [id]))

/-- The loops over the groups and the models of one channel (lines 50-59). The maps of
`groups` exist; an entry of another group is written to a nil map, which panics. -/
def addGroups (groups : List String) (channel : Channel) (index : Index) :
    List String → Option Index
  | [] => some index
  | group :: rest =>
    if group ∈ groups then
      addGroups groups channel ((splitComma channel.models).foldl
        (fun index model => index.append group model channel.id) index) rest
    else none

/-- The loop over the channels, which skips those that are not enabled (lines 46-60). -/
def buildIndex (groups : List String) (index : Index) : List Channel → Option Index
  | [] => some index
  | channel :: rest =>
    if channel.status ≠ statusEnabled then buildIndex groups index rest
    else (addGroups groups channel index (splitComma channel.group)).bind fun index =>
      buildIndex groups index rest

/-- The cache: `group2model2channels` and `channelsIDM`. -/
structure Cache where
  candidates : Index
  channels : List Channel

/-- `channelsIDM[id]`. -/
def Cache.lookup (cache : Cache) (id : ℕ) : Option Channel :=
  cache.channels.find? (·.id = id)

/-- A sort of ids by descending priority. `sort.Slice` fixes no order among equal priorities, so
that it is known up to a permutation only. -/
structure SliceSort where
  sort : (ℕ → ℤ) → List ℕ → List ℕ
  perm : ∀ priority ids, (sort priority ids).Perm ids

/-- `InitChannelCache` (channel_cache.go:23-91) for the rows of the channels and the
groups of the abilities. The polling position that a multi-key channel keeps is not read
here. -/
def initChannelCache (order : SliceSort) (channels : List Channel) (groups : List String) :
    Option Cache :=
  (buildIndex groups (fun _ _ => []) channels).map fun index =>
    { candidates := fun group model => order.sort
        (fun id => ((channels.find? (·.id = id)).map Channel.getPriority).getD 0)
        (index group model)
      channels := channels }

/-! ## Updates -/

/-- `CacheUpdateChannelStatus` (channel_cache.go:230-253): a status other than
enabled takes the first occurrence of the id out of every list. -/
def cacheUpdateChannelStatus (cache : Cache) (id status : ℕ) : Cache :=
  { candidates := fun group model =>
      if status ≠ statusEnabled then (cache.candidates group model).erase id
      else cache.candidates group model
    channels := cache.channels.map fun channel =>
      if channel.id = id then { channel with status := status } else channel }

/-- A sequence of `CacheUpdateChannelStatus(id, status)`, each under the write lock. -/
def applyUpdates (cache : Cache) (updates : List (ℕ × ℕ)) : Cache :=
  updates.foldl (fun cache update => cacheUpdateChannelStatus cache update.1 update.2) cache

/-- The statuses after a sequence of updates, from those before. -/
def latestFrom (latest : ℕ → Option ℕ) (updates : List (ℕ × ℕ)) : ℕ → Option ℕ :=
  updates.foldl (fun latest update => Function.update latest update.1 (some update.2)) latest

/-- The latest status given to each channel: by the last update of its id, or by its row. -/
def latestStatus (channels : List Channel) (updates : List (ℕ × ℕ)) : ℕ → Option ℕ :=
  latestFrom (fun id => (channels.find? (·.id = id)).map Channel.status) updates

/-! ## Drawing -/

/-- The text of the error for an id that is not in `channelsIDM`. -/
def missingChannel (id : ℕ) : String :=
  "数据库一致性错误，渠道# " ++ toString id ++ " 不存在，请联系管理员修复"

/-- The channels of a list of ids, or the error of the first that is missing. -/
def resolve (lookup : ℕ → Option Channel) : List ℕ → Except String (List Channel)
  | [] => .ok []
  | id :: rest =>
    match lookup id with
    | none => .error (missingChannel id)
    | some channel => (resolve lookup rest).map (channel :: ·)

/-- The last loop of `GetRandomSatisfiedChannel` (lines 187-192). -/
def pickByWeight (smoothingFactor smoothingAdjustment : ℤ) : List Channel → ℤ → Option Channel
  | [], _ => none
  | channel :: rest, randomWeight =>
    let randomWeight :=
      randomWeight - (channel.getWeight * smoothingFactor + smoothingAdjustment)
    if randomWeight < 0 then some channel
    else pickByWeight smoothingFactor smoothingAdjustment rest randomWeight

/-- The draw among the channels of one priority (lines 158-195); `draw` is the random number,
taken below the total weight. -/
def drawChannel (targetChannels : List Channel) (draw : ℕ) : Except String (Option Channel) :=
  let sumWeight := (targetChannels.map Channel.getWeight).sum
  let smoothingAdjustment := if sumWeight = 0 then 100 else 0
  let smoothingFactor := if sumWeight ≠ 0 ∧ sumWeight / targetChannels.length < 10 then 100 else 1
  let sumWeight := if sumWeight = 0 then targetChannels.length * 100 else sumWeight
  let totalWeight := sumWeight * smoothingFactor
  match pickByWeight smoothingFactor smoothingAdjustment targetChannels
      ((draw % totalWeight : ℕ) : ℤ) with
  | some channel => .ok (some channel)
  | none => .error "channel not found"

/-- The selection among the channels that passed the filters (lines 121-195). A negative retry
count indexes the priorities out of range. -/
def selectChannel (lookup : ℕ → Option Channel) (group model : String) (retry : ℤ)
    (draw : ℕ) (ids : List ℕ) : Except String (Option Channel) :=
  match ids with
  | [] => .ok none
  | [id] =>
    match lookup id with
    | some channel => .ok (some channel)
    | none => .error (missingChannel id)
  | ids =>
    (resolve lookup ids).bind fun channels =>
      let priorities := ((channels.map Channel.getPriority).dedup).insertionSort (· ≥ ·)
      let retry := if retry ≥ priorities.length then (priorities.length : ℤ) - 1 else retry
      if retry < 0 then .error "index out of range"
      else
        match priorities[retry.toNat]? with
        | none => .error "index out of range"
        | some targetPriority =>
          let targetChannels := channels.filter (·.getPriority = targetPriority)
          if targetChannels = [] then
            .error ("no channel found, group: " ++ group ++ ", model: " ++ model ++
              ", priority: " ++ toString targetPriority)
          else drawChannel targetChannels draw

/-- `GetRandomSatisfiedChannel` (channel_cache.go:101-196); `normalize` is
`FormatMatchingModelName`. -/
def getRandomSatisfiedChannel (supportsPath : Channel → String → String → Bool)
    (normalize : String → String) (cache : Cache) (group model : String) (retry : ℤ)
    (filters : List ChannelFilter) (draw : ℕ) : Except String (Option Channel) :=
  let exactly :=
    (filterCandidateIDs supportsPath cache.lookup (cache.candidates group model) model filters).1
  let channels :=
    if exactly = [] then (filterCandidateIDs supportsPath cache.lookup
      (cache.candidates group (normalize model)) model filters).1
    else exactly
  selectChannel cache.lookup group model retry draw channels

/-! ## What a drawn channel is -/

section Drawn

variable {supportsPath : Channel → String → String → Bool} {lookup : ℕ → Option Channel}

theorem filterKinds_sublist (modelName : String) (filters : List ChannelFilter) :
    ∀ kinds ids, (filterKinds supportsPath lookup modelName filters kinds ids).1.Sublist ids := by
  intro kinds
  induction kinds with
  | nil =>
    intro ids
    exact List.Sublist.refl ids
  | cons kind rest ih =>
    intro ids
    simp only [filterKinds]
    split_ifs
    · exact ih ids
    · exact filter_sublist
    · exact (ih _).trans filter_sublist

theorem filterCandidateIDs_sublist (ids : List ℕ) (modelName : String)
    (filters : List ChannelFilter) :
    (filterCandidateIDs supportsPath lookup ids modelName filters).1.Sublist ids := by
  rw [filterCandidateIDs]
  split_ifs with h
  · exact List.Sublist.refl ids
  · exact filterKinds_sublist modelName filters filterEvalOrder ids

variable {ids : List ℕ} {channels : List Channel} {channel : Channel} {draw : ℕ}

theorem resolve_mem (h : resolve lookup ids = .ok channels) (hc : channel ∈ channels) :
    ∃ id ∈ ids, lookup id = some channel := by
  induction ids generalizing channels with
  | nil =>
    cases h
    cases hc
  | cons id rest ih =>
    simp only [resolve] at h
    split at h
    · cases h
    next first hfirst =>
    cases hrest : resolve lookup rest with
    | error e =>
      rw [hrest] at h
      cases h
    | ok others =>
      rw [hrest] at h
      cases h
      rcases mem_cons.1 hc with rfl | hc
      · exact ⟨id, mem_cons_self, hfirst⟩
      · obtain ⟨id', hid', hlookup⟩ := ih hrest hc
        exact ⟨id', mem_cons_of_mem id hid', hlookup⟩

theorem pickByWeight_mem {factor adjustment : ℤ} {weight : ℤ}
    (h : pickByWeight factor adjustment channels weight = some channel) : channel ∈ channels := by
  induction channels generalizing weight with
  | nil => cases h
  | cons first rest ih =>
    simp only [pickByWeight] at h
    split_ifs at h
    · cases h
      exact mem_cons_self
    · exact mem_cons_of_mem first (ih h)

theorem drawChannel_mem (h : drawChannel channels draw = .ok (some channel)) :
    channel ∈ channels := by
  simp only [drawChannel] at h
  split at h
  · next picked hpicked =>
    cases h
    exact pickByWeight_mem hpicked
  · cases h

theorem selectChannel_mem {group model : String} {retry : ℤ}
    (h : selectChannel lookup group model retry draw ids = .ok (some channel)) :
    ∃ id ∈ ids, lookup id = some channel := by
  unfold selectChannel at h
  split at h
  · cases h
  · next id =>
    split at h
    · next found hfound =>
      cases h
      exact ⟨id, mem_singleton_self id, hfound⟩
    · cases h
  · cases hres : resolve lookup ids with
    | error e =>
      rw [hres] at h
      cases h
    | ok channels =>
      rw [hres] at h
      simp only [Except.bind] at h
      generalize (if retry ≥ _ then _ else retry) = position at h
      split_ifs at h
      split at h
      · cases h
      · split_ifs at h
        exact resolve_mem hres (mem_of_mem_filter (drawChannel_mem h))

end Drawn

variable {channel : Channel} {groups : List String} {index index' : Index}
  {channels : List Channel}

variable {cache : Cache} {latest : ℕ → Option ℕ}

theorem Cache.lookup_id {id : ℕ} (h : cache.lookup id = some channel) :
    channel.id = id := by
  simpa using find?_some h

theorem cacheUpdateChannelStatus_lookup (cache : Cache) (id status x : ℕ) :
    (cacheUpdateChannelStatus cache id status).lookup x = (cache.lookup x).map fun channel =>
        if channel.id = id then { channel with status := status } else channel := by
  have hsame : (fun channel : Channel => decide (channel.id = x)) ∘ (fun channel : Channel =>
      if channel.id = id then { channel with status := status } else channel) =
      fun channel => decide (channel.id = x) := by
    funext channel
    dsimp only [comp]
    split_ifs <;> rfl
  rw [Cache.lookup, cacheUpdateChannelStatus, find?_map, hsame]
  rfl

/-- A channel of the cache carries the latest status. -/
theorem applyUpdates_status (updates : List (ℕ × ℕ)) {id : ℕ}
    (hsome : (cache.lookup id).isSome)
    (hlatest : (cache.lookup id).map Channel.status = latest id) :
    ((applyUpdates cache updates).lookup id).map Channel.status =
      latestFrom latest updates id := by
  induction updates generalizing cache latest with
  | nil => exact hlatest
  | cons update rest ih =>
    obtain ⟨channel, hchannel⟩ := Option.isSome_iff_exists.1 hsome
    have hid := Cache.lookup_id hchannel
    have hlookup := cacheUpdateChannelStatus_lookup cache update.1 update.2 id
    rw [hchannel] at hlookup hlatest
    refine @ih _ (Function.update latest update.1 (some update.2)) ?_ ?_
    · rw [hlookup]
      rfl
    rw [hlookup, update_apply]
    by_cases hupdate : id = update.1
    · simp [hid, hupdate]
    · simpa [hid, hupdate] using hlatest

theorem getRandomSatisfiedChannel_candidate {supportsPath : Channel → String → String → Bool}
    {normalize : String → String} {group model : String} {retry : ℤ}
    {filters : List ChannelFilter} {draw : ℕ}
    (h : getRandomSatisfiedChannel supportsPath normalize cache group model retry filters draw =
      .ok (some channel)) : ∃ name, channel.id ∈ cache.candidates group name := by
  obtain ⟨id, hid, hlookup⟩ := selectChannel_mem h
  rw [Cache.lookup_id hlookup]
  split_ifs at hid
  · exact ⟨normalize model, (filterCandidateIDs_sublist _ model filters).subset hid⟩
  · exact ⟨model, (filterCandidateIDs_sublist _ model filters).subset hid⟩

/-! ## Occurrences in the lists -/

/-- How often a channel puts its id into the list of a group and a model. -/
def Channel.share (channel : Channel) (group model : String) : ℕ :=
  if channel.status = statusEnabled then
    (splitComma channel.group).count group * (splitComma channel.models).count model
  else 0

/-- A channel that repeats neither a group nor a model name. -/
def Channel.Distinct (channel : Channel) : Prop :=
  (splitComma channel.group).Nodup ∧ (splitComma channel.models).Nodup

instance (channel : Channel) : Decidable channel.Distinct :=
  inferInstanceAs (Decidable (_ ∧ _))

theorem Channel.Distinct.share_le (h : channel.Distinct) (group model : String) :
    channel.share group model ≤ 1 := by
  unfold Channel.share
  split_ifs
  · have hgroup := nodup_iff_count_le_one.1 h.1 group
    have hmodel := nodup_iff_count_le_one.1 h.2 model
    exact Nat.mul_le_mul hgroup hmodel
  · exact Nat.zero_le 1

theorem Index.append_count (index : Index) (g m : String) (id x : ℕ) (group model : String) :
    (index.append g m id group model).count x =
      (index group model).count x + if group = g ∧ model = m ∧ id = x then 1 else 0 := by
  unfold Index.append
  by_cases hg : group = g
  · subst hg
    by_cases hm : model = m
    · subst hm
      by_cases hid : id = x <;> simp [hid]
    · simp [hm]
  · simp [hg]

/-- The loop over the models appends the id once for each occurrence of the model. -/
theorem addModels_count (g : String) (id x : ℕ) (models : List String) (index : Index)
    (group model : String) :
    (models.foldl (fun index m => index.append g m id) index group model).count x =
      (index group model).count x + if group = g ∧ id = x then models.count model else 0 := by
  induction models generalizing index with
  | nil => simp
  | cons m rest ih =>
    rw [foldl_cons, ih, Index.append_count, count_cons]
    by_cases hg : group = g ∧ id = x
    · by_cases hm : model = m
      · simp [hg, hm, Nat.add_comm, Nat.add_left_comm]
      · simp [hg, hm, Ne.symm hm]
    · have hnot : ¬ (group = g ∧ model = m ∧ id = x) := fun h => hg ⟨h.1, h.2.2⟩
      simp only [hg, hnot, if_false, Nat.add_zero]

theorem addGroups_count {names : List String}
    (h : addGroups groups channel index names = some index') (x : ℕ) (group model : String) :
    (index' group model).count x = (index group model).count x +
      if channel.id = x then names.count group * (splitComma channel.models).count model
      else 0 := by
  induction names generalizing index with
  | nil =>
    cases h
    simp
  | cons name rest ih =>
    simp only [addGroups] at h
    split_ifs at h
    rw [ih h, addModels_count, count_cons]
    by_cases hid : channel.id = x
    · by_cases hname : group = name
      · simp [hid, hname, Nat.add_mul, Nat.add_assoc, Nat.add_comm]
      · simp [hid, hname, Ne.symm hname]
    · simp [hid]

/-- How often an id stands in a list after loading: the shares of the channels with that id. -/
theorem build_count (h : buildIndex groups index channels = some index') (x : ℕ)
    (group model : String) :
    (index' group model).count x = (index group model).count x + (channels.map fun channel =>
        if channel.id = x then channel.share group model else 0).sum := by
  induction channels generalizing index with
  | nil =>
    cases h
    simp
  | cons channel rest ih =>
    simp only [buildIndex] at h
    rw [map_cons, sum_cons, Channel.share]
    split_ifs at h with hstatus
    · rw [ih h, if_neg hstatus]
      simp
    · obtain ⟨middle, hmiddle, hrest⟩ := Option.bind_eq_some_iff.1 h
      rw [ih hrest, addGroups_count hmiddle, if_pos (not_not.1 hstatus), Nat.add_assoc]

/-- With unique ids one channel at most has a share. -/
theorem sum_share (hids : (channels.map Channel.id).Nodup) (x : ℕ) (group model : String) :
    (channels.map fun channel => if channel.id = x then channel.share group model else 0).sum =
      ((channels.find? (·.id = x)).map (·.share group model)).getD 0 := by
  induction channels with
  | nil => rfl
  | cons channel rest ih =>
    obtain ⟨hnot, hrest⟩ := nodup_cons.1 hids
    rw [map_cons, sum_cons, ih hrest, find?_cons]
    by_cases hx : channel.id = x
    · have hnone : rest.find? (·.id = x) = none := by
        rw [find?_eq_none]
        intro other hother hsame
        have hsame : other.id = x := by simpa using hsame
        exact hnot (mem_map.2 ⟨other, hother, hsame.trans hx.symm⟩)
      simp [hx, hnone]
    · simp [hx]

/-! ## Invariant -/

/-- No list repeats an id, and every listed id has the status enabled. -/
structure Cache.Sound (cache : Cache) (latest : ℕ → Option ℕ) : Prop where
  nodup : ∀ group model, (cache.candidates group model).Nodup
  enabled : ∀ group model, ∀ id ∈ cache.candidates group model, latest id = some statusEnabled

theorem sound_init {order : SliceSort} (hids : (channels.map Channel.id).Nodup)
    (hdistinct : ∀ channel ∈ channels, channel.Distinct)
    (h : initChannelCache order channels groups = some cache) :
    cache.Sound fun id => (channels.find? (·.id = id)).map Channel.status := by
  obtain ⟨index, hindex, rfl⟩ := Option.map_eq_some_iff.1 h
  have hcount : ∀ x group model, (index group model).count x =
      ((channels.find? (·.id = x)).map (·.share group model)).getD 0 := by
    intro x group model
    rw [build_count hindex, sum_share hids, count_nil, Nat.zero_add]
  constructor
  · intro group model
    refine (order.perm _ (index group model)).nodup_iff.2 (nodup_iff_count_le_one.2 ?_)
    intro x
    rw [hcount]
    cases hfind : channels.find? (·.id = x) with
    | none => exact Nat.zero_le 1
    | some channel =>
      exact (hdistinct channel (mem_of_find?_eq_some hfind)).share_le group model
  · intro group model id hid
    have hpos := count_pos_iff.2 ((order.perm _ _).mem_iff.1 hid)
    rw [hcount] at hpos
    cases hfind : channels.find? (·.id = id) with
    | none =>
      rw [hfind] at hpos
      exact absurd hpos (Nat.lt_irrefl 0)
    | some channel =>
      rw [hfind] at hpos
      by_contra hstatus
      have hstatus : channel.status ≠ statusEnabled := fun h => hstatus (congrArg some h)
      simp [Channel.share, hstatus] at hpos

/-- One update keeps the invariant: what it takes out of a list does not stand there again. -/
theorem Cache.Sound.update (h : cache.Sound latest) (id status : ℕ) :
    (cacheUpdateChannelStatus cache id status).Sound
      (Function.update latest id (some status)) := by
  by_cases hstatus : status = statusEnabled
  · subst hstatus
    have hsame : (cacheUpdateChannelStatus cache id statusEnabled).candidates =
        cache.candidates := by
      funext group model
      simp [cacheUpdateChannelStatus]
    constructor
    · intro group model
      exact h.nodup group model
    intro group model x hx
    rw [update_apply]
    split_ifs
    · rfl
    · exact h.enabled group model x hx
  · have herase : ∀ group model, (cacheUpdateChannelStatus cache id status).candidates group model =
        (cache.candidates group model).erase id := by
      intro group model
      exact if_pos hstatus
    constructor
    · intro group model
      rw [herase]
      exact (h.nodup group model).erase id
    · intro group model x hx
      rw [herase, (h.nodup group model).mem_erase_iff] at hx
      rw [update_of_ne hx.1]
      exact h.enabled group model x hx.2

theorem Cache.Sound.updates (h : cache.Sound latest)
    (updates : List (ℕ × ℕ)) : (applyUpdates cache updates).Sound (latestFrom latest updates) := by
  induction updates generalizing cache latest with
  | nil => exact h
  | cons update rest ih => exact ih (h.update update.1 update.2)

/-- Where no loaded channel repeats a group or a model name, a channel whose latest status is
not enabled is in no candidate list, and no draw returns it. -/
theorem candidate_enabled (order : SliceSort) (channels : List Channel) (groups : List String)
    (hids : (channels.map Channel.id).Nodup)
    (hdistinct : ∀ channel ∈ channels, channel.Distinct) {cache : Cache}
    (hload : initChannelCache order channels groups = some cache) (updates : List (ℕ × ℕ))
    (id status : ℕ) (hlatest : latestStatus channels updates id = some status)
    (hstatus : status ≠ statusEnabled) :
    (∀ group model, id ∉ (applyUpdates cache updates).candidates group model) ∧
      ∀ supportsPath normalize group model retry filters draw channel,
        getRandomSatisfiedChannel supportsPath normalize (applyUpdates cache updates) group model
          retry filters draw = .ok (some channel) → channel.id ≠ id := by
  have hsound := (sound_init hids hdistinct hload).updates updates
  have hlisted : ∀ group model, id ∉ (applyUpdates cache updates).candidates group model := by
    intro group model hmem
    have henabled : latestStatus channels updates id = some statusEnabled :=
      hsound.enabled group model id hmem
    rw [hlatest] at henabled
    exact hstatus (Option.some.inj henabled)
  refine ⟨hlisted, ?_⟩
  intro supportsPath normalize group model retry filters draw channel hdraw hid
  obtain ⟨name, hmem⟩ := getRandomSatisfiedChannel_candidate hdraw
  exact hlisted group name (hid ▸ hmem)

/-! ## A channel that repeats a model -/

/-- The insertion sort as `sort.Slice`. -/
def insertionOrder : SliceSort where
  sort priority ids := ids.insertionSort fun a b => priority a ≥ priority b
  perm _ ids := List.perm_insertionSort _ ids

/-- An enabled channel of the group `default`. -/
def channelOf (id : ℕ) (models : String) : Channel :=
  { id := id, channelType := 1, status := statusEnabled, group := "default", models := models
    priority := none, weight := none, taskPluginKey := "", taskExtendPluginKeys := [] }

/-- Two channels of distinct names, one of which is disabled. -/
theorem candidate_enabled_two :
    ∃ cache, initChannelCache insertionOrder [channelOf 1 "a,b", channelOf 2 "b"] ["default"] =
        some cache ∧
      (∀ group model, 1 ∉ (applyUpdates cache [(1, statusAutoDisabled)]).candidates group model) ∧
      ∀ supportsPath normalize group model retry filters draw channel,
        getRandomSatisfiedChannel supportsPath normalize
          (applyUpdates cache [(1, statusAutoDisabled)]) group model retry filters draw =
            .ok (some channel) → channel.id ≠ 1 := by
  have hsome : (initChannelCache insertionOrder [channelOf 1 "a,b", channelOf 2 "b"]
      ["default"]).isSome = true := by decide +kernel
  obtain ⟨cache, hcache⟩ := Option.isSome_iff_exists.1 hsome
  exact ⟨cache, hcache, candidate_enabled insertionOrder _ _ (by decide) (by decide +kernel) hcache
    [(1, statusAutoDisabled)] 1 statusAutoDisabled (by decide +kernel) (by decide)⟩

/-- A channel that lists a model twice stands twice in its list. Disabling it takes out one
occurrence, and the draw returns the disabled channel. -/
theorem repeated_model_drawn :
    ∃ cache, initChannelCache insertionOrder [channelOf 1 "a,a"] ["default"] = some cache ∧
      latestStatus [channelOf 1 "a,a"] [(1, statusManuallyDisabled)] 1 =
        some statusManuallyDisabled ∧
      1 ∈ (applyUpdates cache [(1, statusManuallyDisabled)]).candidates "default" "a" ∧
      getRandomSatisfiedChannel (fun _ _ _ => true) id
        (applyUpdates cache [(1, statusManuallyDisabled)]) "default" "a" 0 [] 0 =
          .ok (some { channelOf 1 "a,a" with status := statusManuallyDisabled }) := by
  show ∃ cache ∈ initChannelCache insertionOrder [channelOf 1 "a,a"] ["default"], _
  decide +kernel

end OmniRouters.ChannelCache
