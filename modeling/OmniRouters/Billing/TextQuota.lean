import OmniRouters.Billing.Tiered
import OmniRouters.Lib.Int64

/-!
# The price of a text request

Models of `ModelPriceHelper` (`relay/helper/price.go`), which prices a text request before
its first attempt, and of `calculateTextQuotaSummary` and `PostTextConsumeQuota`
(`service/text_quota.go`), which price the answer of the attempt that serves it.

Prices, ratios and the decimals computed from them are rationals. Sums of token counts are of the
type `int` and wrap around.

* `modelPriceHelper_spec`: which requests are priced as free.
* `postTextQuota_eq_zero`: in a free group an expression price charges nothing.
* `textQuota_bounded_monotone`: the quota is bounded, and more tokens never make it smaller.
* `textQuota_overflow`: where their sum overflows, they do.
-/

namespace OmniRouters.Billing

open OmniRouters.Lib

/-! ## Before the request -/

/-- `QuotaFromFloatStrict` (common/quota_math.go:123-125): truncated towards zero; a
value that would be clamped is an error. -/
def quotaFromFloatStrict (d : ℚ) : Option ℤ :=
  if maxQuota < d ∨ d < minQuota then none
  else some (if 0 ≤ d then d.floor else d.ceil)

/-- The settings that pricing reads: `common.PreConsumedQuota`, `common.QuotaPerUnit` and
`EnableFreeModelPreConsume`. -/
structure QuotaSetting where
  preConsumedQuota : ℤ
  quotaPerUnit : ℚ
  enableFreeModelPreConsume : Bool

/-- The configured price of a model. `expr` is the billing expression of a model in the mode
`tiered_expr`, as the raw cost for an estimated number of completion tokens; it may fail.
`ratioKnown` is set if the ratio is configured or the user accepts an unset one. -/
structure ModelPricing where
  expr : Option (ℤ → Option ℚ)
  usePrice : Bool
  modelPrice : ℚ
  ratioKnown : Bool
  modelRatio : ℚ
  completionRatio : ℚ
  cacheRatio : ℚ
  cacheCreationRatio : ℚ
  imageRatio : ℚ

/-- What pricing reads of a request (`types.TokenCountMeta`). The values of `billingRatios`
are those `AddOtherRatio` accepts. -/
structure TokenCountMeta where
  promptTokens : ℤ
  maxTokens : ℤ
  imagePriceRatio : ℚ
  billingRatios : List ℚ

/-- The fields of `PriceData` (`types/price_data.go`) that text requests use, without the
group ratio. -/
structure PriceData where
  freeModel : Bool := false
  modelPrice : ℚ := 0
  modelRatio : ℚ := 0
  completionRatio : ℚ := 0
  cacheRatio : ℚ := 0
  cacheCreationRatio : ℚ := 0
  cacheCreation5mRatio : ℚ := 0
  cacheCreation1hRatio : ℚ := 0
  cacheCreation12hRatio : ℚ := 0
  imageRatio : ℚ := 0
  otherRatios : List ℚ := []
  usePrice : Bool := false
  quotaToPreConsume : ℤ := 0

/-- `ApplyOtherRatiosToDecimal` (types/price_data.go:99-106). -/
def PriceData.applyOtherRatios (price : PriceData) (value : ℚ) : ℚ :=
  price.otherRatios.foldl (· * ·) value

/-- `defaultTieredPreConsumeMaxTokens` (price.go:44). -/
def defaultTieredPreConsumeMaxTokens : ℤ := 8192

/-- `modelPriceHelperTiered` (price.go:382-463); `none` is an error. -/
def modelPriceHelperTiered (setting : QuotaSetting) (expr : ℤ → Option ℚ) (tokens : TokenCountMeta)
    (groupRatio : ℚ) : Option (PriceData × BillingSnapshot) :=
  let estimatedCompletionTokens :=
    if tokens.maxTokens = 0 ∧ groupRatio ≠ 0 then defaultTieredPreConsumeMaxTokens
    else tokens.maxTokens
  match expr estimatedCompletionTokens with
  | none => none
  | some rawCost =>
    let quotaBeforeGroup := rawCost / 1000000 * setting.quotaPerUnit
    match quotaRoundStrict (quotaBeforeGroup * groupRatio) with
    | none => none
    | some quota =>
      let freeModel := !setting.enableFreeModelPreConsume && groupRatio = 0
      let preConsumedQuota := if freeModel then 0 else quota
      some ({ freeModel := freeModel, quotaToPreConsume := preConsumedQuota },
        ⟨groupRatio, quotaBeforeGroup, preConsumedQuota⟩)

/-- The quota that a ratio model pre-consumes (price.go:120-151). -/
def ratioPreConsume (setting : QuotaSetting) (model : ModelPricing) (tokens : TokenCountMeta)
    (groupRatio : ℚ) : Option ℤ :=
  let preConsumedTokens := max tokens.promptTokens setting.preConsumedQuota +
    if tokens.maxTokens ≠ 0 then tokens.maxTokens else 0
  if ¬ model.ratioKnown then none
  else quotaFromFloatStrict (preConsumedTokens * (model.modelRatio * groupRatio))

/-- `ModelPriceHelper` (price.go:92-248) for a text request: the price
and, for an expression, its snapshot. -/
def modelPriceHelper (setting : QuotaSetting) (model : ModelPricing) (tokens : TokenCountMeta)
    (groupRatio : ℚ) : Option (PriceData × Option BillingSnapshot) :=
  match model.expr with
  | some expr =>
    (modelPriceHelperTiered setting expr tokens groupRatio).map fun p => (p.1, some p.2)
  | none =>
    let modelPrice :=
      if model.usePrice ∧ tokens.imagePriceRatio ≠ 0 then model.modelPrice * tokens.imagePriceRatio
      else model.modelPrice
    let freeModel := !setting.enableFreeModelPreConsume &&
      (groupRatio = 0 || if model.usePrice then modelPrice = 0 else model.modelRatio = 0)
    if model.usePrice then
      let price : PriceData := {
        freeModel := freeModel, modelPrice := modelPrice, usePrice := true,
        otherRatios := tokens.billingRatios }
      (quotaFromFloatStrict
        (price.applyOtherRatios (modelPrice * setting.quotaPerUnit * groupRatio))).map fun quota =>
          ({ price with quotaToPreConsume := quota }, none)
    else
      (ratioPreConsume setting model tokens groupRatio).map fun quota =>
        ({ freeModel := freeModel
           modelPrice := modelPrice
           modelRatio := model.modelRatio
           completionRatio := model.completionRatio
           cacheRatio := model.cacheRatio
           cacheCreationRatio := model.cacheCreationRatio
           cacheCreation5mRatio := model.cacheCreationRatio
           cacheCreation1hRatio := model.cacheCreationRatio * (6 / (375 / 100))
           cacheCreation12hRatio := model.cacheCreationRatio * 2
           imageRatio := model.imageRatio
           quotaToPreConsume := if freeModel then 0 else quota }, none)

/-! ## After the answer -/

/-- A tool call that the answer reports, with its price per thousand calls. -/
structure ToolSurchargeItem where
  count : ℤ
  price : ℚ

/-- What `calculateTextQuotaSummary` reads of `dto.Usage`. `openRouter` is set for the Claude
usage of an OpenRouter channel; `maybeCacheCreationTokens` is what its cost tells about
cache writes, where that is used. -/
structure TextUsage where
  promptTokens : ℤ
  completionTokens : ℤ
  cacheTokens : ℤ := 0
  cacheCreationTokens : ℤ := 0
  cacheCreationTokens5m : ℤ := 0
  cacheCreationTokens1h : ℤ := 0
  cacheWrite12hTokens : ℤ := 0
  imageTokens : ℤ := 0
  audioTokens : ℤ := 0
  audioInputPrice : ℚ := 0
  isClaudeUsageSemantic : Bool := false
  legacyClaudeDerived : Bool := false
  openRouter : Bool := false
  maybeCacheCreationTokens : Option ℤ := none
  tools : List ToolSurchargeItem := []

/-- `collectToolSurchargeItem` (text_quota.go:110-123) over the reported calls. -/
def collectToolSurchargeItems (tools : List ToolSurchargeItem) : List ToolSurchargeItem :=
  tools.filter fun item => 0 < item.count ∧ 0 < item.price

/-- The sum of `calculateTextToolCallSurcharge` (text_quota.go:155-204). -/
def calculateTextToolCallSurcharge (quotaPerUnit groupRatio : ℚ)
    (tools : List ToolSurchargeItem) : ℚ :=
  ((collectToolSurchargeItems tools).map fun item =>
    item.price * item.count / 1000 * groupRatio * quotaPerUnit).sum

/-- Whether the cache tokens are reported beside the prompt tokens. -/
def TextUsage.separateCache (usage : TextUsage) : Bool :=
  usage.isClaudeUsageSemantic || usage.legacyClaudeDerived

/-- `summary.CacheCreationTokens` after the OpenRouter correction
(text_quota.go:285-295). -/
def TextUsage.cacheCreation (usage : TextUsage) : ℤ :=
  match usage.openRouter, usage.maybeCacheCreationTokens with
  | true, some maybe =>
    if usage.cacheCreationTokens = 0 ∧ 0 ≤ maybe ∧
        maybe ≤ wrap64 (usage.promptTokens - usage.cacheTokens) then maybe
    else usage.cacheCreationTokens
  | _, _ => usage.cacheCreationTokens

/-- `summary.PromptTokens` after the OpenRouter correction. -/
def TextUsage.prompt (usage : TextUsage) : ℤ :=
  if usage.openRouter then wrap64 (usage.promptTokens - usage.cacheTokens - usage.cacheCreation)
  else usage.promptTokens

/-- `summary.CacheCreationTokens12h`. -/
def TextUsage.cacheCreationTokens12h (usage : TextUsage) : ℤ :=
  if usage.separateCache then 0 else usage.cacheWrite12hTokens

/-- Whether any cache write is reported (text_quota.go:327-328). -/
def TextUsage.writesCache (usage : TextUsage) : Bool :=
  usage.cacheCreation ≠ 0 || 0 < usage.cacheCreationTokens5m || 0 < usage.cacheCreationTokens1h ||
    0 < usage.cacheCreationTokens12h

/-- `cachedCreationTokensWithRatio` (text_quota.go:326-343). -/
def TextUsage.cacheCreationWithRatio (usage : TextUsage) (price : PriceData) : ℚ :=
  if usage.writesCache = false then 0
  else if usage.separateCache then
    let remaining := max 0 (wrap64
      (usage.cacheCreation - usage.cacheCreationTokens5m - usage.cacheCreationTokens1h))
    remaining * price.cacheCreationRatio +
      usage.cacheCreationTokens5m * price.cacheCreation5mRatio +
      usage.cacheCreationTokens1h * price.cacheCreation1hRatio
  else
    (usage.cacheCreation - usage.cacheCreationTokens12h) * price.cacheCreationRatio +
      usage.cacheCreationTokens12h * price.cacheCreation12hRatio

/-- `baseTokens` (text_quota.go:316-369): the prompt tokens that are not
priced otherwise, at least zero. -/
def TextUsage.baseTokens (usage : TextUsage) : ℤ :=
  max 0 (usage.prompt -
    (if usage.separateCache then 0 else usage.cacheTokens) -
    (if usage.writesCache && !usage.separateCache then usage.cacheCreation else 0) -
    usage.imageTokens -
    if 0 < usage.audioInputPrice then usage.audioTokens else 0)

/-- `promptQuota` plus `completionQuota`, in tokens. -/
def TextUsage.weightedTokens (usage : TextUsage) (price : PriceData) : ℚ :=
  usage.baseTokens + usage.cacheTokens * price.cacheRatio + usage.imageTokens * price.imageRatio +
    usage.cacheCreationWithRatio price + usage.completionTokens * price.completionRatio

/-- `audioInputQuota` (text_quota.go:351-359). -/
def TextUsage.audioInputQuota (usage : TextUsage) (quotaPerUnit groupRatio : ℚ) : ℚ :=
  if 0 < usage.audioInputPrice then
    usage.audioInputPrice / 1000000 * usage.audioTokens * groupRatio * quotaPerUnit
  else 0

/-- `hasBillableUsage` (text_quota.go:80-85) of a summary that is not billed
at a fixed price. -/
def TextUsage.hasBillableUsage (usage : TextUsage) (surcharge : ℚ) : Bool :=
  0 < wrap64 (usage.promptTokens + usage.completionTokens) ||
    (usage.isClaudeUsageSemantic && (0 < usage.cacheTokens || 0 < usage.cacheCreation ||
      0 < usage.cacheCreationTokens5m || 0 < usage.cacheCreationTokens1h ||
      0 < usage.cacheCreationTokens12h)) ||
    surcharge ≠ 0

/-- `calculateTextQuotaSummary` (text_quota.go:243-404): the quota. -/
def calculateTextQuota (quotaPerUnit : ℚ) (price : PriceData) (groupRatio : ℚ)
    (usage : TextUsage) : ℤ :=
  let ratio := price.modelRatio * groupRatio
  let surcharge := calculateTextToolCallSurcharge quotaPerUnit groupRatio usage.tools
  let quota :=
    if price.usePrice then
      quotaFromDecimal
        (price.applyOtherRatios (price.modelPrice * quotaPerUnit * groupRatio) + surcharge)
    else
      let quotaCalculate := price.applyOtherRatios (usage.weightedTokens price * ratio +
        usage.audioInputQuota quotaPerUnit groupRatio) + surcharge
      quotaFromDecimal (if ratio ≠ 0 ∧ quotaCalculate ≤ 0 then 1 else quotaCalculate)
  if usage.hasBillableUsage surcharge = false then 0
  else if ratio ≠ 0 ∧ quota = 0 then 1
  else quota

/-- How the expression of a snapshot evaluates on the actual usage: it may fail. `fixedPrice`
is `isFixedPriceSettlement`. -/
inductive TieredEvaluation
  | failed (fixedPrice : Bool)
  | result (quotaBeforeGroup : ℚ) (fixedPrice : Bool)

def TieredEvaluation.fixedPrice : TieredEvaluation → Bool
  | failed fixed => fixed
  | result _ fixed => fixed

/-- `TryTieredSettle` (service/tiered_settle.go:234-265): a failed evaluation keeps
the reservation, or the estimate where there is none. -/
def tryTieredSettle (snap : BillingSnapshot) (finalPreConsumedQuota : ℤ) :
    TieredEvaluation → ℤ
  | .failed _ =>
    if finalPreConsumedQuota ≤ 0 then snap.estimatedQuotaAfterGroup else finalPreConsumedQuota
  | .result before _ => quotaFromDecimal (before * snap.groupRatio)

/-- `composeTieredTextQuota` (text_quota.go:218-242). -/
def composeTieredTextQuota (snap : BillingSnapshot) (surcharge : ℚ) (tieredQuota : ℤ)
    (evaluation : TieredEvaluation) : ℤ :=
  if surcharge = 0 then tieredQuota
  else match evaluation with
    | .result before _ => quotaFromDecimal (before * snap.groupRatio + surcharge)
    | .failed _ => quotaFromDecimal (tieredQuota + surcharge)

/-- What an answered attempt reports. `evaluation` is missing where there is no usage to
evaluate an expression on. `clientGone` is set if the client has left and the usage is
only an estimate. -/
structure TextReport where
  usage : TextUsage
  evaluation : Option TieredEvaluation := none
  clientGone : Bool := false

/-- The quota that `PostTextConsumeQuota` (text_quota.go:416-507) settles for
a request that is not counted in tokens. -/
def postTextQuota (quotaPerUnit : ℚ) (price : PriceData) (groupRatio : ℚ)
    (snap : Option BillingSnapshot) (finalPreConsumedQuota : ℤ) (report : TextReport) : ℤ :=
  let quota := calculateTextQuota quotaPerUnit price groupRatio report.usage
  let surcharge := calculateTextToolCallSurcharge quotaPerUnit groupRatio report.usage.tools
  match snap, report.evaluation with
  | some snap, some evaluation =>
    if report.clientGone && !evaluation.fixedPrice then 0
    else composeTieredTextQuota snap surcharge
      (tryTieredSettle snap finalPreConsumedQuota evaluation) evaluation
  | _, _ => if report.clientGone then 0 else quota

/-! ## Free prices -/

/-- The first price of a request is free, and nothing is pre-consumed for it: the group or
the model costs nothing. -/
def ModelPricing.Free (setting : QuotaSetting) (model : ModelPricing) (groupRatio : ℚ) : Prop :=
  setting.enableFreeModelPreConsume = false ∧
    (groupRatio = 0 ∨ model.expr = none ∧
      if model.usePrice then model.modelPrice = 0 else model.modelRatio = 0)

def BillingSnapshot.FreeIfZero (snap : BillingSnapshot) : Prop :=
  snap.groupRatio = 0 → snap.estimatedQuotaAfterGroup = 0

theorem roundHalfAway_zero : roundHalfAway 0 = 0 := by
  unfold roundHalfAway
  rw [if_pos le_rfl, zero_add]
  decide +kernel

theorem quotaFromDecimal_zero : quotaFromDecimal 0 = 0 := by
  rw [quotaFromDecimal, roundHalfAway_zero]
  decide

theorem quotaRoundStrict_zero : quotaRoundStrict 0 = some 0 := by
  rw [quotaRoundStrict, roundHalfAway_zero]
  decide

theorem refreshTieredBillingGroup_ok {snap snap' : BillingSnapshot} {groupRatio : ℚ}
    (h : refreshTieredBillingGroup snap groupRatio = some snap') :
    snap'.groupRatio = groupRatio ∧ (snap.FreeIfZero → snap'.FreeIfZero) := by
  revert h
  fun_cases refreshTieredBillingGroup snap groupRatio <;> rintro ⟨⟩
  case case1 hsame => exact ⟨hsame, id⟩
  case case3 quota _ hquota =>
    refine ⟨rfl, fun _ hzero => ?_⟩
    simp only at hzero
    rw [hzero, mul_zero, quotaRoundStrict_zero] at hquota
    exact (Option.some.inj hquota).symm

section Helper

variable {setting : QuotaSetting} {model : ModelPricing} {tokens : TokenCountMeta} {groupRatio : ℚ}
  {price : PriceData} {snap : Option BillingSnapshot}

theorem modelPriceHelperTiered_ok {expr : ℤ → Option ℚ} {snap : BillingSnapshot}
    (h : modelPriceHelperTiered setting expr tokens groupRatio = some (price, snap)) :
    (price.freeModel = true ↔ setting.enableFreeModelPreConsume = false ∧ groupRatio = 0) ∧
      snap.FreeIfZero := by
  revert h
  fun_cases modelPriceHelperTiered setting expr tokens groupRatio <;> rintro ⟨⟩
  rename_i quota hquota freeModel preConsumedQuota
  refine ⟨by simp [freeModel], fun hzero => ?_⟩
  simp only at hzero
  rw [hzero, mul_zero, quotaRoundStrict_zero] at hquota
  simp [preConsumedQuota, ← Option.some.inj hquota]

section

variable (h : modelPriceHelper setting model tokens groupRatio = some (price, snap))

include h

/-- **Free models.** A request is priced as free if its group or its model costs nothing,
unless free models are to be pre-consumed. An expression price comes with a snapshot, and no
other does. -/
theorem modelPriceHelper_spec : (price.freeModel = true ↔ model.Free setting groupRatio) ∧
    (snap = none ↔ model.expr = none) ∧ ∀ s, snap = some s → s.FreeIfZero := by
  unfold modelPriceHelper at h
  unfold ModelPricing.Free
  cases hexpr : model.expr with
  | some expr =>
    rw [hexpr] at h
    obtain ⟨p, hp, heq⟩ := Option.map_eq_some_iff.1 h
    cases heq
    rw [(modelPriceHelperTiered_ok hp).1]
    refine ⟨by simp, by simp, fun s hs => ?_⟩
    cases hs
    exact (modelPriceHelperTiered_ok hp).2
  | none =>
    rw [hexpr] at h
    dsimp only at h
    by_cases huse : model.usePrice = true
    · rw [if_pos huse] at h
      obtain ⟨quota, -, heq⟩ := Option.map_eq_some_iff.1 h
      cases heq
      refine ⟨?_, by simp, nofun⟩
      by_cases hratio : tokens.imagePriceRatio = 0 <;> simp [huse, hratio]
    · rw [if_neg huse] at h
      obtain ⟨quota, -, heq⟩ := Option.map_eq_some_iff.1 h
      cases heq
      exact ⟨by simp [huse], by simp, nofun⟩

end

end Helper

/-! ## Free groups -/

theorem toolCallSurcharge_zero (quotaPerUnit : ℚ) (tools : List ToolSurchargeItem) :
    calculateTextToolCallSurcharge quotaPerUnit 0 tools = 0 := by
  unfold calculateTextToolCallSurcharge
  apply List.sum_eq_zero
  intro x hx
  obtain ⟨item, -, rfl⟩ := List.mem_map.1 hx
  ring

theorem PriceData.applyOtherRatios_zero (price : PriceData) : price.applyOtherRatios 0 = 0 := by
  unfold PriceData.applyOtherRatios
  induction price.otherRatios with
  | nil => rfl
  | cons ratio rest ih => rwa [List.foldl_cons, zero_mul]

theorem calculateTextQuota_zero (quotaPerUnit : ℚ) (price : PriceData) (usage : TextUsage) :
    calculateTextQuota quotaPerUnit price 0 usage = 0 := by
  have haudio : usage.audioInputQuota quotaPerUnit 0 = 0 := by
    unfold TextUsage.audioInputQuota
    split
    · ring
    · rfl
  unfold calculateTextQuota
  simp [toolCallSurcharge_zero, haudio, PriceData.applyOtherRatios_zero, quotaFromDecimal_zero]

/-- **Free groups.** An expression price in a free group charges nothing, unless something is
reserved. -/
theorem postTextQuota_eq_zero {snap : BillingSnapshot} (hfree : snap.FreeIfZero)
    (hzero : snap.groupRatio = 0) (quotaPerUnit : ℚ) (price : PriceData) (report : TextReport) :
    postTextQuota quotaPerUnit price 0 (some snap) 0 report = 0 := by
  unfold postTextQuota
  cases hev : report.evaluation with
  | none => simp [calculateTextQuota_zero]
  | some evaluation =>
    have hsettle : tryTieredSettle snap 0 evaluation = 0 := by
      cases evaluation with
      | failed fixed => simp [tryTieredSettle, hfree hzero]
      | result before fixed => simp [tryTieredSettle, hzero, quotaFromDecimal_zero]
    simp [toolCallSurcharge_zero, composeTieredTextQuota, hsettle]

/-! ## Larger usages -/

/-- Prices, ratios and the audio tokens are not negative, the sums of token counts fit, and cache
writes are not inferred from the cost of a usage. -/
structure Plain (quotaPerUnit : ℚ) (price : PriceData) (groupRatio : ℚ) (usage : TextUsage) :
    Prop where
  unit : 0 ≤ quotaPerUnit
  group : 0 ≤ groupRatio
  modelPrice : 0 ≤ price.modelPrice
  modelRatio : 0 ≤ price.modelRatio
  completionRatio : 0 ≤ price.completionRatio
  otherRatios : ∀ ratio ∈ price.otherRatios, 0 ≤ ratio
  audio : 0 ≤ usage.audioTokens
  total : fits64 (usage.promptTokens + usage.completionTokens) = true
  rest : usage.openRouter = true →
    fits64 (usage.promptTokens - usage.cacheTokens - usage.cacheCreation) = true
  reported : usage.openRouter = true → usage.maybeCacheCreationTokens = none

/-- The price of a usage before it is rounded and raised to the least charge. -/
def TextUsage.amount (quotaPerUnit : ℚ) (price : PriceData) (groupRatio : ℚ)
    (usage : TextUsage) : ℚ :=
  price.applyOtherRatios
    (if price.usePrice then price.modelPrice * quotaPerUnit * groupRatio
    else usage.weightedTokens price * (price.modelRatio * groupRatio) +
      usage.audioInputQuota quotaPerUnit groupRatio) +
    calculateTextToolCallSurcharge quotaPerUnit groupRatio usage.tools

/-- `hasBillableUsage` of the summary of a usage. -/
def TextUsage.billable (quotaPerUnit groupRatio : ℚ) (usage : TextUsage) : Bool :=
  usage.hasBillableUsage (calculateTextToolCallSurcharge quotaPerUnit groupRatio usage.tools)

/-- The usage with other counts of its prompt and completion tokens. -/
def TextUsage.withTokens (usage : TextUsage) (prompt completion : ℤ) : TextUsage :=
  { usage with promptTokens := prompt, completionTokens := completion }

theorem foldl_mul_mono {ratios : List ℚ} (h : ∀ ratio ∈ ratios, 0 ≤ ratio) {c d : ℚ} (hle : c ≤ d) :
    ratios.foldl (· * ·) c ≤ ratios.foldl (· * ·) d := by
  induction ratios generalizing c d with
  | nil => exact hle
  | cons ratio rest ih =>
    obtain ⟨hratio, hrest⟩ := List.forall_mem_cons.1 h
    exact ih hrest (mul_le_mul_of_nonneg_right hle hratio)

namespace Plain

variable {quotaPerUnit groupRatio : ℚ} {price : PriceData} {usage : TextUsage}
  (h : Plain quotaPerUnit price groupRatio usage)

include h

theorem surcharge_nonneg :
    0 ≤ calculateTextToolCallSurcharge quotaPerUnit groupRatio usage.tools := by
  obtain ⟨hunit, hgroup, -⟩ := h
  apply List.sum_nonneg
  intro x hx
  obtain ⟨item, hitem, rfl⟩ := List.mem_map.1 hx
  obtain ⟨hcount, hprice⟩ : 0 < item.count ∧ 0 < item.price := by
    simpa [collectToolSurchargeItems] using (List.mem_filter.1 hitem).2
  positivity

theorem amount_nonneg (hfree : price.usePrice = true ∨ price.modelRatio * groupRatio = 0) :
    0 ≤ usage.amount quotaPerUnit price groupRatio := by
  refine add_nonneg ?_ h.surcharge_nonneg
  rw [← price.applyOtherRatios_zero]
  refine foldl_mul_mono h.otherRatios ?_
  split
  · exact mul_nonneg (mul_nonneg h.modelPrice h.unit) h.group
  · rename_i huse
    obtain ⟨hunit, hgroup, -, -, -, -, haudio, -⟩ := h
    rw [hfree.resolve_left huse, mul_zero, zero_add, TextUsage.audioInputQuota]
    split
    · positivity
    · exact le_rfl

/-- A billable usage costs its amount, at least one unit where the ratios are not zero. -/
theorem quota_of_billable (hbillable : usage.billable quotaPerUnit groupRatio = true) :
    calculateTextQuota quotaPerUnit price groupRatio usage =
      if price.modelRatio * groupRatio ≠ 0 then
        max 1 (quotaFromDecimal (usage.amount quotaPerUnit price groupRatio))
      else quotaFromDecimal (usage.amount quotaPerUnit price groupRatio) := by
  refine (if_neg (ne_of_eq_of_ne hbillable (by decide))).trans ?_
  have hamount := h.amount_nonneg
  generalize hd : usage.amount quotaPerUnit price groupRatio = d at hamount ⊢
  unfold TextUsage.amount at hd
  by_cases hratio : price.modelRatio * groupRatio = 0
  · simp only [hratio, ne_eq, not_true, false_and, if_false, ← hd]
    split <;> rfl
  · simp only [hratio, ne_eq, not_false_eq_true, true_and, if_true]
    by_cases huse : price.usePrice = true
    · have hnonneg := quotaFromDecimal_nonneg (hamount (Or.inl huse))
      rw [if_pos huse] at hd ⊢
      rw [hd]
      split <;> omega
    · rw [if_neg huse] at hd ⊢
      rw [hd]
      by_cases hle : d ≤ 0
      · have hone : quotaFromDecimal 1 = 1 := by decide +kernel
        have hzero := quotaFromDecimal_mono hle
        rw [quotaFromDecimal_zero] at hzero
        rw [if_pos hle, hone]
        omega
      · have hnonneg := quotaFromDecimal_nonneg (not_le.1 hle).le
        rw [if_neg hle]
        split <;> omega

theorem quota_bounds : 0 ≤ calculateTextQuota quotaPerUnit price groupRatio usage ∧
    calculateTextQuota quotaPerUnit price groupRatio usage ≤ maxQuota := by
  cases hbillable : usage.billable quotaPerUnit groupRatio with
  | false =>
    have hzero : calculateTextQuota quotaPerUnit price groupRatio usage = 0 := if_pos hbillable
    rw [hzero]
    decide
  | true =>
    rw [h.quota_of_billable hbillable]
    split
    · exact ⟨zero_le_one.trans (le_max_left _ _), max_le (by decide) (quotaFromDecimal_le _)⟩
    · rename_i hratio
      have hamount := h.amount_nonneg (Or.inr (not_not.1 hratio))
      exact ⟨quotaFromDecimal_nonneg hamount, quotaFromDecimal_le _⟩

theorem one_le_quota (hmodel : 0 < price.modelRatio) (hgroup : 0 < groupRatio)
    (hbillable : usage.billable quotaPerUnit groupRatio = true) :
    1 ≤ calculateTextQuota quotaPerUnit price groupRatio usage := by
  rw [h.quota_of_billable hbillable, if_pos (mul_pos hmodel hgroup).ne']
  exact le_max_left _ _

theorem prompt_eq : usage.prompt = if usage.openRouter then
    usage.promptTokens - usage.cacheTokens - usage.cacheCreation else usage.promptTokens := by
  unfold TextUsage.prompt
  cases hopen : usage.openRouter with
  | false => rfl
  | true => exact wrap64_of_fits64 (h.rest hopen)

theorem cacheCreation_withTokens (prompt completion : ℤ) :
    (usage.withTokens prompt completion).cacheCreation = usage.cacheCreation := by
  simp only [TextUsage.cacheCreation, TextUsage.withTokens]
  cases hopen : usage.openRouter with
  | false => rfl
  | true => rw [h.reported hopen]

section Larger

variable {prompt completion : ℤ} (hprompt : usage.promptTokens ≤ prompt)
  (hcompletion : usage.completionTokens ≤ completion)
  (h' : Plain quotaPerUnit price groupRatio (usage.withTokens prompt completion))

include hprompt hcompletion h'

/-- More tokens are more to pay for: what is priced otherwise stays the same. -/
theorem weightedTokens_mono :
    usage.weightedTokens price ≤ (usage.withTokens prompt completion).weightedTokens price := by
  have hcreation := h.cacheCreation_withTokens prompt completion
  have hwrites : (usage.withTokens prompt completion).writesCache = usage.writesCache := by
    rw [TextUsage.writesCache, hcreation]
    rfl
  have hratio : (usage.withTokens prompt completion).cacheCreationWithRatio price =
      usage.cacheCreationWithRatio price := by
    rw [TextUsage.cacheCreationWithRatio, hwrites, hcreation]
    rfl
  have hle : usage.prompt ≤ (usage.withTokens prompt completion).prompt := by
    rw [h.prompt_eq, h'.prompt_eq, hcreation]
    cases hopen : usage.openRouter <;> simp [TextUsage.withTokens, hopen, hprompt]
  have hbase : usage.baseTokens ≤ (usage.withTokens prompt completion).baseTokens := by
    rw [TextUsage.baseTokens, TextUsage.baseTokens, hwrites, hcreation]
    exact max_le_max_left 0 (sub_le_sub_right
      (sub_le_sub_right (sub_le_sub_right (sub_le_sub_right hle _) _) _) _)
  have htokens : (usage.completionTokens : ℚ) * price.completionRatio ≤
      completion * price.completionRatio :=
    mul_le_mul_of_nonneg_right (by exact_mod_cast hcompletion) h.completionRatio
  qify at hbase
  rw [TextUsage.weightedTokens, TextUsage.weightedTokens, hratio]
  dsimp only [TextUsage.withTokens] at hbase ⊢
  linarith

theorem amount_mono : usage.amount quotaPerUnit price groupRatio ≤
    (usage.withTokens prompt completion).amount quotaPerUnit price groupRatio := by
  refine add_le_add_left (foldl_mul_mono h.otherRatios ?_) _
  split
  · exact le_rfl
  · exact add_le_add_left (mul_le_mul_of_nonneg_right (h.weightedTokens_mono hprompt hcompletion h')
      (mul_nonneg h.modelRatio h.group)) _

theorem billable_mono (hbillable : usage.billable quotaPerUnit groupRatio = true) :
    (usage.withTokens prompt completion).billable quotaPerUnit groupRatio = true := by
  rw [TextUsage.billable, TextUsage.hasBillableUsage, h.cacheCreation_withTokens]
  simp only [TextUsage.billable, TextUsage.hasBillableUsage, Bool.or_eq_true, decide_eq_true_eq]
    at hbillable ⊢
  refine hbillable.imp_left (Or.imp_left fun hpos => ?_)
  rw [wrap64_of_fits64 h.total] at hpos
  rw [wrap64_of_fits64 h'.total]
  change 0 < prompt + completion
  omega

theorem quota_mono : calculateTextQuota quotaPerUnit price groupRatio usage ≤
    calculateTextQuota quotaPerUnit price groupRatio (usage.withTokens prompt completion) := by
  cases hbillable : usage.billable quotaPerUnit groupRatio with
  | false =>
    exact (if_pos hbillable).trans_le h'.quota_bounds.1
  | true =>
    have hquota := quotaFromDecimal_mono (h.amount_mono hprompt hcompletion h')
    rw [h.quota_of_billable hbillable,
      h'.quota_of_billable (h.billable_mono hprompt hcompletion h' hbillable)]
    split
    · exact max_le_max_left 1 hquota
    · exact hquota

end Larger

end Plain

/-- **Quotas of a usage.** The quota is between zero and the maximum, more prompt or completion
tokens never make it smaller, and a billable usage costs at least one unit where the ratios are
positive. -/
theorem textQuota_bounded_monotone {quotaPerUnit groupRatio : ℚ} {price : PriceData}
    {usage : TextUsage} (h : Plain quotaPerUnit price groupRatio usage) :
    (0 ≤ calculateTextQuota quotaPerUnit price groupRatio usage ∧
      calculateTextQuota quotaPerUnit price groupRatio usage ≤ maxQuota) ∧
    (∀ prompt completion, usage.promptTokens ≤ prompt → usage.completionTokens ≤ completion →
      Plain quotaPerUnit price groupRatio (usage.withTokens prompt completion) →
      calculateTextQuota quotaPerUnit price groupRatio usage ≤
        calculateTextQuota quotaPerUnit price groupRatio (usage.withTokens prompt completion)) ∧
    (0 < price.modelRatio → 0 < groupRatio → usage.billable quotaPerUnit groupRatio = true →
      1 ≤ calculateTextQuota quotaPerUnit price groupRatio usage) :=
  ⟨h.quota_bounds, fun _ _ => h.quota_mono, h.one_le_quota⟩

/-- A ratio model at a tenth of a unit for a prompt token, and one such token. -/
def smallPrice : PriceData := { modelRatio := 1 / 10, completionRatio := 2 }

@[inherit_doc smallPrice] def oneToken : TextUsage := { promptTokens := 1, completionTokens := 0 }

theorem plain_oneToken (completion : ℤ) (hcompletion : fits64 (1 + completion) = true) :
    Plain 500000 smallPrice 1 (oneToken.withTokens 1 completion) := by
  refine ⟨?_, ?_, ?_, ?_, ?_, ?_, ?_, hcompletion, ?_, ?_⟩ <;>
    norm_num [smallPrice, oneToken, TextUsage.withTokens]

theorem textQuota_bounded_monotone_small :
    calculateTextQuota 500000 smallPrice 1 oneToken = 1 ∧
      calculateTextQuota 500000 smallPrice 1 oneToken ≤
        calculateTextQuota 500000 smallPrice 1 (oneToken.withTokens 1 50) :=
  ⟨by decide +kernel, (textQuota_bounded_monotone (plain_oneToken 0 (by decide))).2.1 1 50 le_rfl
    (by decide) (plain_oneToken 50 (by decide))⟩

/-- As many completion tokens as prompt tokens make the sum overflow: the usage is not billable,
and costs nothing. -/
theorem textQuota_overflow :
    calculateTextQuota 500000 smallPrice 1 (oneToken.withTokens (2 ^ 62) 0) = maxQuota ∧
      calculateTextQuota 500000 smallPrice 1 (oneToken.withTokens (2 ^ 62) (2 ^ 62)) = 0 := by
  decide +kernel

end OmniRouters.Billing
