import OmniRouters.Channel.Cache
import OmniRouters.Lib.Runs

/-!
# The key states of a multi-key channel

Model of `UpdateChannelStatus` and `handlerMultiKeyUpdate` (`model/channel.go`): a channel with
several keys keeps the state of each key, once in the channel cache and once in its row. A call
updates the cached channel and then, by separate code, the row. The calls of a channel exclude
each other by its lock and the database does not fail. What a change of status does to the
candidate lists is `ChannelCache.cacheUpdateChannelStatus`.

* `handlerMultiKeyUpdate_mem`, `handlerMultiKeyUpdate_status`: what the update of one copy does
  to its set of disabled keys and its status.
* `copies_agree`: the cache and the row agree after every call, as long as no call asks for the
  status the row has already while the key is in the other state.
* `enable_key_disagree`: enabling a key of an enabled channel changes the cache only.
-/

namespace OmniRouters.MultiKey

open ChannelCache List
open OmniRouters.Lib

/-! ## Channels -/

/-- `ChannelInfo`: the maps from the position of a key to its status and to the reason and the
time of its disabling. -/
structure ChannelInfo where
  isMultiKey : Bool
  multiKeyStatusList : ℕ → Option ℕ
  multiKeyDisabledReason : ℕ → Option String
  multiKeyDisabledTime : ℕ → Option ℤ

/-- The entries `status_reason` and `status_time` of `OtherInfo`. -/
structure OtherInfo where
  statusReason : Option String
  statusTime : Option ℤ

/-- The fields of a channel that the status flow reads and writes; `keys` is `GetKeys`, which the
cached copy holds since it was loaded. -/
structure Channel where
  keys : List String
  status : ℕ
  info : ChannelInfo
  otherInfo : OtherInfo

/-- `hasEnabledMultiKey` (lines 730-741). -/
def hasEnabledMultiKey (keys : List String) (statusList : ℕ → Option ℕ) : Bool :=
  (List.range keys.length).any fun i =>
    match statusList i with
    | none => true
    | some status => status = statusEnabled

/-- The arguments of a call of `UpdateChannelStatus`, with the clock. -/
structure Call where
  usingKey : String
  status : ℕ
  reason : String
  now : ℤ

/-- The entry of one key in the three maps (lines 703-717). -/
def setKey (info : ChannelInfo) (keyIndex : ℕ) (call : Call) : ChannelInfo :=
  if call.status = statusEnabled then
    { info with multiKeyStatusList := Function.update info.multiKeyStatusList keyIndex none }
  else
    { info with
      multiKeyStatusList := Function.update info.multiKeyStatusList keyIndex (some call.status)
      multiKeyDisabledReason :=
        Function.update info.multiKeyDisabledReason keyIndex (some call.reason)
      multiKeyDisabledTime := Function.update info.multiKeyDisabledTime keyIndex (some call.now) }

/-- `handlerMultiKeyUpdate` (lines 678-728). -/
def handlerMultiKeyUpdate (channel : Channel) (call : Call) : Channel :=
  if channel.keys = [] then { channel with status := call.status }
  else
    match channel.keys.idxOf? call.usingKey with
    | none =>
      if call.usingKey ≠ "" then channel
      else { channel with
        status := call.status
        otherInfo := { statusReason := some call.reason, statusTime := some call.now } }
    | some keyIndex =>
      let info := setKey channel.info keyIndex call
      if !hasEnabledMultiKey channel.keys info.multiKeyStatusList then
        { channel with
          info := info
          status := statusAutoDisabled
          otherInfo :=
            { statusReason := some "All keys are disabled", statusTime := some call.now } }
      else if call.status = statusEnabled then
        { channel with info := info, status := statusEnabled }
      else { channel with info := info }

/-! ## Cache and database -/

/-- The two copies of a channel, which may be missing, and the flag of its abilities. -/
structure State where
  cache : Option Channel
  row : Option Channel
  abilitiesEnabled : Bool

/-- The part of `UpdateChannelStatus` on the cached channel (lines 756-777); `none` is an early
return. -/
def updateCache (cache : Option Channel) (call : Call) : Option Channel :=
  match cache with
  | none => none
  | some channel =>
    if channel.info.isMultiKey then some (handlerMultiKeyUpdate channel call)
    else if channel.status = call.status then none
    else some { channel with status := call.status }

/-- The part on the row (lines 788-816): the new row and whether the abilities follow; `none` is
an early return. -/
def updateRow (row : Option Channel) (call : Call) : Option (Channel × Bool) :=
  match row with
  | none => none
  | some channel =>
    if channel.status = call.status then none
    else if channel.info.isMultiKey then
      let updated := handlerMultiKeyUpdate channel call
      some (updated, channel.status ≠ updated.status)
    else
      some ({ channel with
        status := call.status
        otherInfo := { statusReason := some call.reason, statusTime := some call.now } }, true)

/-- `UpdateChannelStatus` (lines 743-817) with the memory cache enabled. -/
def updateChannelStatus (s : State) (call : Call) : State × Bool :=
  match updateCache s.cache call with
  | none => (s, false)
  | some cached =>
    match updateRow s.row call with
    | none => ({ s with cache := some cached }, false)
    | some (row, abilities) =>
      ({ cache := some cached
         row := some row
         abilitiesEnabled :=
          if abilities then call.status = statusEnabled else s.abilitiesEnabled }, true)

/-! ## Disabled keys -/

/-- The key at a position is disabled. -/
def ChannelInfo.disabled (info : ChannelInfo) (i : ℕ) : Bool :=
  match info.multiKeyStatusList i with
  | none => false
  | some status => status ≠ statusEnabled

def Channel.disabledKeys (channel : Channel) : List String :=
  (channel.keys.zipIdx.filter fun entry => channel.info.disabled entry.2).map Prod.fst

theorem Channel.mem_disabledKeys {channel : Channel} {key : String} :
    key ∈ channel.disabledKeys ↔
      ∃ i, channel.keys[i]? = some key ∧ channel.info.disabled i = true := by
  constructor
  · intro h
    obtain ⟨⟨name, i⟩, hmem, rfl⟩ := mem_map.1 h
    obtain ⟨hentry, hdisabled⟩ := mem_filter.1 hmem
    exact ⟨i, mem_zipIdx_iff_getElem?.1 hentry, hdisabled⟩
  · rintro ⟨i, hi, hdisabled⟩
    exact mem_map.2 ⟨(key, i),
      mem_filter.2 ⟨mem_zipIdx_iff_getElem?.2 hi, hdisabled⟩, rfl⟩

theorem hasEnabledMultiKey_iff (keys : List String) (info : ChannelInfo) :
    hasEnabledMultiKey keys info.multiKeyStatusList = true ↔
      ∃ i < keys.length, info.disabled i = false := by
  have hone : ∀ i, (match info.multiKeyStatusList i with
      | none => true
      | some status => decide (status = statusEnabled)) = true ↔ info.disabled i = false := by
    intro i
    unfold ChannelInfo.disabled
    cases info.multiKeyStatusList i with
    | none | some => simp
  simp only [hasEnabledMultiKey, any_eq_true, mem_range, hone]

theorem setKey_disabled (info : ChannelInfo) (keyIndex : ℕ) (call : Call) (i : ℕ) :
    (setKey info keyIndex call).disabled i =
      if i = keyIndex then decide (call.status ≠ statusEnabled) else info.disabled i := by
  unfold setKey ChannelInfo.disabled
  by_cases hi : i = keyIndex
  · subst hi
    by_cases hstatus : call.status = statusEnabled <;> simp [hstatus]
  · by_cases hstatus : call.status = statusEnabled <;> simp [hstatus, hi]

def Channel.allDisabled (channel : Channel) : Prop :=
  ∀ key ∈ channel.keys, key ∈ channel.disabledKeys

instance (channel : Channel) : Decidable channel.allDisabled :=
  inferInstanceAs (Decidable (∀ key ∈ channel.keys, key ∈ channel.disabledKeys))

theorem Channel.allDisabled_congr {a b : Channel} (hkeys : a.keys = b.keys)
    (hdisabled : ∀ key, key ∈ a.disabledKeys ↔ key ∈ b.disabledKeys) :
    a.allDisabled ↔ b.allDisabled := by
  unfold Channel.allDisabled
  rw [hkeys]
  simp only [hdisabled]

section Update

variable {channel : Channel} {call : Call}

theorem setKey_isMultiKey (info : ChannelInfo) (keyIndex : ℕ) (call : Call) :
    (setKey info keyIndex call).isMultiKey = info.isMultiKey := by
  unfold setKey
  split <;> rfl

theorem handlerMultiKeyUpdate_frame (channel : Channel) (call : Call) :
    (handlerMultiKeyUpdate channel call).keys = channel.keys ∧
      (handlerMultiKeyUpdate channel call).info.isMultiKey = channel.info.isMultiKey := by
  unfold handlerMultiKeyUpdate
  split
  · exact ⟨rfl, rfl⟩
  split
  · split <;> exact ⟨rfl, rfl⟩
  next keyIndex _ =>
  have hmulti := setKey_isMultiKey channel.info keyIndex call
  dsimp only
  split
  · exact ⟨rfl, hmulti⟩
  · split <;> exact ⟨rfl, hmulti⟩

theorem handlerMultiKeyUpdate_keys (channel : Channel) (call : Call) :
    (handlerMultiKeyUpdate channel call).keys = channel.keys :=
  (handlerMultiKeyUpdate_frame channel call).1

theorem handlerMultiKeyUpdate_isMultiKey (channel : Channel) (call : Call) :
    (handlerMultiKeyUpdate channel call).info.isMultiKey = channel.info.isMultiKey :=
  (handlerMultiKeyUpdate_frame channel call).2

/-- The update of a key of the channel: the entry of its position is set, and the status is
computed from what is left. -/
theorem handlerMultiKeyUpdate_of_mem (hkey : call.usingKey ∈ channel.keys) :
    ∃ keyIndex, channel.keys[keyIndex]? = some call.usingKey ∧
      (handlerMultiKeyUpdate channel call).info = setKey channel.info keyIndex call ∧
      (handlerMultiKeyUpdate channel call).status =
        if hasEnabledMultiKey channel.keys (setKey channel.info keyIndex call).multiKeyStatusList
        then if call.status = statusEnabled then statusEnabled else channel.status
        else statusAutoDisabled := by
  have hne : channel.keys ≠ [] := ne_nil_of_mem hkey
  obtain ⟨keyIndex, hindex⟩ : ∃ i, channel.keys.idxOf? call.usingKey = some i := by
    cases hidx : channel.keys.idxOf? call.usingKey with
    | none => exact absurd hkey (idxOf?_eq_none_iff.1 hidx)
    | some i => exact ⟨i, rfl⟩
  refine ⟨keyIndex, ?_, ?_⟩
  · obtain ⟨hlt, heq, -⟩ := findIdx?_eq_some_iff_getElem.1 hindex
    rw [getElem?_eq_getElem hlt]
    exact congrArg some (eq_of_beq heq)
  · simp only [handlerMultiKeyUpdate, if_neg hne, hindex]
    cases hasEnabledMultiKey channel.keys (setKey channel.info keyIndex call).multiKeyStatusList
    · exact ⟨rfl, rfl⟩
    · by_cases hstatus : call.status = statusEnabled <;> simp [hstatus]

section

variable (hnodup : channel.keys.Nodup) (hkey : call.usingKey ∈ channel.keys)

include hnodup hkey

/-- The update of a key changes the state of this key only. -/
theorem handlerMultiKeyUpdate_mem (key : String) :
    key ∈ (handlerMultiKeyUpdate channel call).disabledKeys ↔
      if key = call.usingKey then call.status ≠ statusEnabled else key ∈ channel.disabledKeys := by
  obtain ⟨keyIndex, hindex, hinfo, -⟩ := handlerMultiKeyUpdate_of_mem hkey
  rw [Channel.mem_disabledKeys, handlerMultiKeyUpdate_keys, hinfo]
  by_cases hsame : key = call.usingKey
  · rw [if_pos hsame, hsame]
    constructor
    · rintro ⟨i, hi, hdisabled⟩
      have heq : i = keyIndex := by
        obtain ⟨hlt, -⟩ := List.getElem?_eq_some_iff.1 hi
        exact (getElem?_inj hlt hnodup).1 (hi.trans hindex.symm)
      simpa [setKey_disabled, heq] using hdisabled
    · intro hstatus
      refine ⟨keyIndex, hindex, ?_⟩
      simpa [setKey_disabled] using hstatus
  · rw [if_neg hsame, Channel.mem_disabledKeys]
    have hother : ∀ i, channel.keys[i]? = some key →
        (setKey channel.info keyIndex call).disabled i = channel.info.disabled i := by
      intro i hi
      have hne : i ≠ keyIndex := by
        rintro rfl
        exact hsame (Option.some.inj (hi.symm.trans hindex))
      rw [setKey_disabled, if_neg hne]
    constructor
    · rintro ⟨i, hi, hdisabled⟩
      exact ⟨i, hi, hother i hi ▸ hdisabled⟩
    · rintro ⟨i, hi, hdisabled⟩
      exact ⟨i, hi, (hother i hi).trans hdisabled⟩

theorem handlerMultiKeyUpdate_status : (handlerMultiKeyUpdate channel call).status =
      if (handlerMultiKeyUpdate channel call).allDisabled then statusAutoDisabled
      else if call.status = statusEnabled then statusEnabled else channel.status := by
  obtain ⟨keyIndex, -, hinfo, hstatus⟩ := handlerMultiKeyUpdate_of_mem hkey
  have hall : (handlerMultiKeyUpdate channel call).allDisabled ↔
      hasEnabledMultiKey channel.keys
        (setKey channel.info keyIndex call).multiKeyStatusList = false := by
    rw [← Bool.not_eq_true, hasEnabledMultiKey_iff, Channel.allDisabled,
      handlerMultiKeyUpdate_keys]
    constructor
    · rintro h ⟨i, hi, henabled⟩
      obtain ⟨j, hj, hdisabled⟩ := Channel.mem_disabledKeys.1 (h _ (getElem_mem hi))
      rw [handlerMultiKeyUpdate_keys] at hj
      have hij : i = j :=
        (getElem?_inj hi hnodup).1 ((getElem?_eq_getElem hi).trans hj.symm)
      rw [hinfo, ← hij, henabled] at hdisabled
      cases hdisabled
    · intro h key hmem
      obtain ⟨i, hi, rfl⟩ := mem_iff_getElem.1 hmem
      refine Channel.mem_disabledKeys.2 ⟨i, ?_, ?_⟩
      · rw [handlerMultiKeyUpdate_keys, getElem?_eq_getElem hi]
      · rw [hinfo]
        by_contra henabled
        exact h ⟨i, hi, Bool.not_eq_true _ ▸ henabled⟩
  rw [hstatus]
  by_cases hdis : (handlerMultiKeyUpdate channel call).allDisabled
  · rw [if_pos hdis, if_neg (by rw [hall.1 hdis]; decide)]
  · rw [if_neg hdis, if_pos (by rw [← Bool.not_eq_false]; exact fun h => hdis (hall.2 h))]

end

end Update

/-! ## Agreement of the copies -/

/-- The cache and the row hold the same multi-key channel: the same distinct keys, the same set
of disabled keys and the same status, which is auto-disabled exactly when no key is
enabled. -/
structure Agree (cached row : Channel) : Prop where
  keys : cached.keys = row.keys
  nodup : row.keys.Nodup
  multiCached : cached.info.isMultiKey = true
  multiRow : row.info.isMultiKey = true
  disabled : ∀ key, key ∈ cached.disabledKeys ↔ key ∈ row.disabledKeys
  status : cached.status = row.status
  auto : row.status = statusAutoDisabled ↔ row.allDisabled

/-- Both copies of a state exist and agree. -/
def State.Agree (s : State) : Prop :=
  ∃ cached row, s.cache = some cached ∧ s.row = some row ∧ MultiKey.Agree cached row

/-- Where the row has the requested status already, the key has the requested state already. -/
def Settled (s : State) (call : Call) : Prop :=
  ∀ row, s.row = some row → call.usingKey ∈ row.keys ∧
    (row.status = call.status →
      (call.usingKey ∈ row.disabledKeys ↔ call.status ≠ statusEnabled))

section Step

variable {cached row : Channel} {call : Call}

/-- Both copies are updated. -/
theorem Agree.both (h : Agree cached row) (hkey : call.usingKey ∈ row.keys) :
    Agree (handlerMultiKeyUpdate cached call) (handlerMultiKeyUpdate row call) := by
  have hkeyCached : call.usingKey ∈ cached.keys := h.keys ▸ hkey
  have hnodupCached : cached.keys.Nodup := h.keys ▸ h.nodup
  have hkeys : (handlerMultiKeyUpdate cached call).keys =
      (handlerMultiKeyUpdate row call).keys := by
    rw [handlerMultiKeyUpdate_keys, handlerMultiKeyUpdate_keys, h.keys]
  have hdisabled : ∀ key, key ∈ (handlerMultiKeyUpdate cached call).disabledKeys ↔
      key ∈ (handlerMultiKeyUpdate row call).disabledKeys := by
    intro key
    rw [handlerMultiKeyUpdate_mem hnodupCached hkeyCached,
      handlerMultiKeyUpdate_mem h.nodup hkey, h.disabled]
  refine ⟨hkeys, ?_, ?_, ?_, hdisabled, ?_, ?_⟩
  · rw [handlerMultiKeyUpdate_keys]
    exact h.nodup
  · rw [handlerMultiKeyUpdate_isMultiKey, h.multiCached]
  · rw [handlerMultiKeyUpdate_isMultiKey, h.multiRow]
  · have hall := Channel.allDisabled_congr hkeys hdisabled
    rw [handlerMultiKeyUpdate_status hnodupCached hkeyCached,
      handlerMultiKeyUpdate_status h.nodup hkey, h.status]
    simp only [hall]
  · rw [handlerMultiKeyUpdate_status h.nodup hkey]
    by_cases hall : (handlerMultiKeyUpdate row call).allDisabled
    · simp [hall]
    rw [if_neg hall]
    refine iff_of_false ?_ hall
    by_cases hstatus : call.status = statusEnabled
    · rw [if_pos hstatus]
      decide
    rw [if_neg hstatus]
    -- An auto-disabled channel has no enabled key, and this call enables none.
    intro hauto
    refine hall fun key hmem => ?_
    rw [handlerMultiKeyUpdate_keys] at hmem
    rw [handlerMultiKeyUpdate_mem h.nodup hkey]
    split_ifs
    · exact hstatus
    · exact h.auto.1 hauto key hmem

/-- The row has the requested status and is left alone; the update of the cache changes nothing
that is compared. -/
theorem Agree.cacheOnly (h : Agree cached row) (hkey : call.usingKey ∈ row.keys)
    (hstatus : row.status = call.status)
    (hsettled : call.usingKey ∈ row.disabledKeys ↔ call.status ≠ statusEnabled) :
    Agree (handlerMultiKeyUpdate cached call) row := by
  have hkeyCached : call.usingKey ∈ cached.keys := h.keys ▸ hkey
  have hnodupCached : cached.keys.Nodup := h.keys ▸ h.nodup
  have hdisabled : ∀ key, key ∈ (handlerMultiKeyUpdate cached call).disabledKeys ↔
      key ∈ row.disabledKeys := by
    intro key
    rw [handlerMultiKeyUpdate_mem hnodupCached hkeyCached]
    split_ifs with hsame
    · rw [hsame, hsettled]
    · exact h.disabled key
  have hkeys : (handlerMultiKeyUpdate cached call).keys = row.keys := by
    rw [handlerMultiKeyUpdate_keys, h.keys]
  have hall := Channel.allDisabled_congr hkeys hdisabled
  refine ⟨hkeys, h.nodup, ?_, h.multiRow, hdisabled, ?_, h.auto⟩
  · rw [handlerMultiKeyUpdate_isMultiKey, h.multiCached]
  rw [handlerMultiKeyUpdate_status hnodupCached hkeyCached]
  by_cases hdis : row.allDisabled
  · rw [if_pos (hall.2 hdis), h.auto.2 hdis]
  rw [if_neg fun hd => hdis (hall.1 hd)]
  split_ifs with henabled
  · rw [hstatus, henabled]
  · exact h.status

end Step

/-- One call keeps the agreement. -/
theorem State.Agree.step {s : State} {call : Call} (h : s.Agree) (hok : Settled s call) :
    (updateChannelStatus s call).1.Agree := by
  obtain ⟨cached, row, hcache, hrow, hagree⟩ := h
  obtain ⟨hkey, hsettled⟩ := hok row hrow
  have hcached : updateCache s.cache call = some (handlerMultiKeyUpdate cached call) := by
    rw [hcache]
    exact if_pos hagree.multiCached
  by_cases hstatus : row.status = call.status
  · have hnone : updateRow s.row call = none := by
      rw [hrow]
      exact if_pos hstatus
    simp only [updateChannelStatus, hcached, hnone]
    exact ⟨_, row, rfl, hrow, hagree.cacheOnly hkey hstatus (hsettled hstatus)⟩
  · have hsome : updateRow s.row call = some (handlerMultiKeyUpdate row call,
        decide (row.status ≠ (handlerMultiKeyUpdate row call).status)) := by
      rw [hrow]
      simp only [updateRow, if_neg hstatus, if_pos hagree.multiRow]
    simp only [updateChannelStatus, hcached, hsome]
    exact ⟨_, _, rfl, rfl, hagree.both hkey⟩

/-- The calls as a system. -/
def step (s : State) (call : Call) : Option State := some (updateChannelStatus s call).1

/-- Starting from copies that agree, the cache and the row have the same disabled keys and the
same status after every call of a run of settled calls, and the channel is auto-disabled
exactly when none of its keys is enabled. -/
theorem copies_agree {s t : State} (hstart : s.Agree) (hrun : Exec step Settled s t) :
    ∃ cached row, t.cache = some cached ∧ t.row = some row ∧
      (∀ key, key ∈ cached.disabledKeys ↔ key ∈ row.disabledKeys) ∧
      cached.status = row.status ∧
      (row.status = statusAutoDisabled ↔ ∀ key ∈ row.keys, key ∈ row.disabledKeys) := by
  have hagree : t.Agree := by
    refine hrun.invariant (I := State.Agree) ?_ hstart
    rintro t call _ ht hok ⟨⟩
    exact ht.step hok
  obtain ⟨cached, row, hcache, hrow, h⟩ := hagree
  exact ⟨cached, row, hcache, hrow, h.disabled, h.status, h.auto⟩

/-! ## A key of an enabled channel -/

/-- An enabled channel with the keys `a` and `b`, the first of which is disabled. -/
def twoKeys : Channel where
  keys := ["a", "b"]
  status := statusEnabled
  info :=
    { isMultiKey := true
      multiKeyStatusList := fun i => if i = 0 then some statusAutoDisabled else none
      multiKeyDisabledReason := fun _ => none
      multiKeyDisabledTime := fun _ => none }
  otherInfo := { statusReason := none, statusTime := none }

/-- Both copies are `twoKeys`. -/
def twoKeysState : State := { cache := some twoKeys, row := some twoKeys, abilitiesEnabled := true }

theorem twoKeysState_agree : twoKeysState.Agree :=
  ⟨twoKeys, twoKeys, rfl, rfl, rfl, by decide, rfl, rfl, fun _ => Iff.rfl, rfl, by decide⟩

/-- Disabling the second key disables the channel in both copies, and enabling it again enables
it. -/
theorem copies_agree_two_keys :
    ∃ t, Exec step Settled twoKeysState t ∧ ∃ cached row, t.cache = some cached ∧
      t.row = some row ∧ (∀ key, key ∈ cached.disabledKeys ↔ key ∈ row.disabledKeys) ∧
      cached.status = row.status ∧
      (row.status = statusAutoDisabled ↔ ∀ key ∈ row.keys, key ∈ row.disabledKeys) := by
  have hdisable : Exec step Settled twoKeysState
      (updateChannelStatus twoKeysState ⟨"b", statusAutoDisabled, "", 0⟩).1 := by
    refine Exec.refl.tail ?_ rfl
    rintro row ⟨⟩
    exact ⟨by decide, by decide⟩
  have henable := hdisable.tail (a := ⟨"b", statusEnabled, "", 1⟩) (by
    rintro row ⟨⟩
    exact ⟨by decide, by decide⟩) rfl
  exact ⟨_, henable, copies_agree twoKeysState_agree henable⟩

/-- Enabling the disabled key of an enabled channel: the cached channel enables the key, the row
has the status enabled already and is not written. -/
theorem enable_key_disagree :
    twoKeysState.Agree ∧
      ((updateChannelStatus twoKeysState ⟨"a", statusEnabled, "", 0⟩).1.cache.map
        Channel.disabledKeys = some []) ∧
      ((updateChannelStatus twoKeysState ⟨"a", statusEnabled, "", 0⟩).1.row.map
        Channel.disabledKeys = some ["a"]) :=
  ⟨twoKeysState_agree, by decide, by decide⟩

end OmniRouters.MultiKey
