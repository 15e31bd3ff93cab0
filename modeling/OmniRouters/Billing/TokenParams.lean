import Mathlib.Tactic.Linarith

/-!
# The token counts of a billing expression

Model of `BuildTieredTokenParams` (`service/tiered_settle.go`), which turns a usage into the
variables of a billing expression, and of the two ways in which the usage of a Responses
answer reaches it: `OaiResponsesHandler` (`relay/channel/openai/relay_responses.go`) for a
client that speaks Responses, and `UsageFromResponsesUsage` with the billing snapshot of
`dto/billing_usage.go` for every other client.

* `converted_params_iff`: both ways give the same variables exactly if no cached image tokens and
  no 12-hour cache writes make a difference.
* `converted_params_split`: the snapshot loses the 12-hour cache writes.
* `params_partition`: the variables divide the reported counts among them.
* `params_claude_output`: with Claude semantics the categories of the output are in `c` as well.
-/

namespace OmniRouters.Billing

open List

/-! ## Usage -/

/-- `CachedTokenDetails` (`dto/openai_response.go`); `none` is an unreported modality. -/
structure CachedTokenDetails where
  textTokens : Option ℤ := none
  imageTokens : Option ℤ := none
  audioTokens : Option ℤ := none

/-- `CacheWriteTokenDetails` (`dto/openai_response.go`). -/
structure CacheWriteTokenDetails where
  ttl30mTokens : ℤ := 0
  ttl12hTokens : ℤ := 0

/-- `InputTokenDetails` (`dto/openai_response.go`). `Clone` copies all of it. -/
structure InputTokenDetails where
  cachedTokens : ℤ := 0
  cachedTokensDetails : Option CachedTokenDetails := none
  cachedCreationTokens : ℤ := 0
  cacheWriteTokens : ℤ := 0
  cacheWriteTokensDetails : Option CacheWriteTokenDetails := none
  textTokens : ℤ := 0
  audioTokens : ℤ := 0
  imageTokens : ℤ := 0

/-- `OutputTokenDetails` (`dto/openai_response.go`). -/
structure OutputTokenDetails where
  textTokens : ℤ := 0
  audioTokens : ℤ := 0
  imageTokens : ℤ := 0
  reasoningTokens : ℤ := 0

/-- The values of `UsageSemantic`; `unset` is the empty string. -/
inductive UsageSemantic
  | unset | openai | anthropic | gemini
deriving DecidableEq

/-- The counts of `dto.Usage`, its semantic and its source. -/
structure Usage where
  promptTokens : ℤ := 0
  completionTokens : ℤ := 0
  totalTokens : ℤ := 0
  promptCacheHitTokens : ℤ := 0
  usageSemantic : UsageSemantic := .unset
  usageSource : String := ""
  promptTokensDetails : InputTokenDetails := {}
  completionTokenDetails : OutputTokenDetails := {}
  inputTokens : ℤ := 0
  outputTokens : ℤ := 0
  inputTokensDetails : Option InputTokenDetails := none
  claudeCacheCreation5mTokens : ℤ := 0
  claudeCacheCreation1hTokens : ℤ := 0

/-- `CacheCreationTokensTotal` (dto/openai_response.go:396-405). -/
def InputTokenDetails.cacheCreationTokensTotal (d : InputTokenDetails) : ℤ :=
  max (max d.cachedCreationTokens d.cacheWriteTokens) 0

/-- `CacheWrite12hTokens` (dto/openai_response.go:409-414). -/
def InputTokenDetails.cacheWrite12hTokens (d : InputTokenDetails) : ℤ :=
  match d.cacheWriteTokensDetails with
  | none => 0
  | some write => min (max write.ttl12hTokens 0) d.cacheCreationTokensTotal

/-- `NormalizeCacheCreationSplit` (`relayconvert/internal/shared/claude/cache.go`). -/
def normalizeCacheCreationSplit (total tokens5m tokens1h : ℤ) : ℤ × ℤ :=
  (tokens5m + max (total - tokens5m - tokens1h) 0, tokens1h)

/-! ## `BuildTieredTokenParams` -/

/-- The token variables of a billing expression. -/
inductive Variable
  | p | c | len | cr | cc | cc1h | cc12h | img | imgCR | imgO | ai | ao
deriving DecidableEq

/-- `billingexpr.TokenParams`: a value for each variable. -/
abbrev TokenParams := Variable → ℚ

/-- `ClaudeCacheCreation1hMultiplier` (types/price_data.go:11). -/
def claudeCacheCreation1hMultiplier : ℚ := 6 / (375 / 100)

/-- `OpenAICacheCreation12hMultiplier` (types/price_data.go:12). -/
def openAICacheCreation12hMultiplier : ℚ := 2

/-- The check of the other modalities (tiered_settle.go:58-69): each reported
count fits into what is left of the cached tokens. -/
def fitsRemaining : ℤ → List (Option ℤ) → Bool
  | _, [] => true
  | remaining, none :: counts => fitsRemaining remaining counts
  | remaining, some count :: counts =>
    !(count < 0 || remaining < count) && fitsRemaining (remaining - count) counts

/-- The cached image tokens that are priced on their own
(tiered_settle.go:48-78). An inconsistent breakdown counts as none. -/
def cachedImage (usage : Usage) (isClaudeUsageSemantic : Bool) (used : Variable → Bool) : ℤ :=
  if used .imgCR && !isClaudeUsageSemantic then
    match usage.promptTokensDetails.cachedTokensDetails with
    | none => 0
    | some details =>
      match details.imageTokens with
      | none => 0
      | some cachedImage =>
        let cached := usage.promptTokensDetails.cachedTokens
        let image := usage.promptTokensDetails.imageTokens
        if 0 ≤ cachedImage ∧ cachedImage ≤ cached ∧ cachedImage ≤ image ∧
            cached ≤ usage.promptTokens ∧ image ≤ usage.promptTokens - (cached - cachedImage) ∧
            fitsRemaining (cached - cachedImage) [details.textTokens, details.audioTokens] then
          cachedImage
        else 0
  else 0

/-- What is taken off a total for a category that the expression prices on its own. -/
def takeOff (priced : Bool) (tokens : ℚ) : ℚ :=
  if priced then tokens else 0

/-- `BuildTieredTokenParams` (tiered_settle.go:27-166). -/
def buildTieredTokenParams (usage : Usage) (isClaudeUsageSemantic : Bool)
    (used : Variable → Bool) : TokenParams :=
  let details := usage.promptTokensDetails
  let total := details.cacheCreationTokensTotal
  let split :=
    if usage.usageSemantic = .anthropic then
      normalizeCacheCreationSplit total usage.claudeCacheCreation5mTokens
        usage.claudeCacheCreation1hTokens
    else (total, 0)
  let imgCR : ℚ := cachedImage usage isClaudeUsageSemantic used
  let cr : ℚ := details.cachedTokens - imgCR
  let img : ℚ := details.imageTokens - imgCR
  let ai : ℚ := details.audioTokens
  let imgO : ℚ := usage.completionTokenDetails.imageTokens
  let ao : ℚ := usage.completionTokenDetails.audioTokens
  let prompt : ℚ := usage.promptTokens
  let completion : ℚ := usage.completionTokens
  let shared : TokenParams := fun
    | .cr => cr | .img => img | .imgCR => imgCR | .imgO => imgO | .ai => ai | .ao => ao | _ => 0
  if isClaudeUsageSemantic then
    -- Anthropic input excludes the cache: what has no price of its own joins the input.
    let cc1h := takeOff (used .cc1h) split.2
    let cc5m := split.1 + (split.2 - cc1h) * claudeCacheCreation1hMultiplier
    let cc := takeOff (used .cc) cc5m
    let p := prompt + (cr - takeOff (used .cr) cr) + (cc5m - cc)
    fun
    | .p => max p 0 | .c => max completion 0 | .len => prompt + cr + split.1 + split.2
    | .cc => cc | .cc1h => cc1h | .cc12h => 0 | v => shared v
  else
    let written12h : ℚ := details.cacheWrite12hTokens
    let cc12h := takeOff (used .cc12h) written12h
    let ccTokens := split.1 - cc12h
    let cc5m := split.1 - written12h + (written12h - cc12h) * openAICacheCreation12hMultiplier
    let cc := takeOff (used .cc) cc5m
    let p := prompt - takeOff (used .cr) cr - cc12h +
      (if used .cc then -ccTokens else cc5m - ccTokens) -
      takeOff (used .cc1h) split.2 - takeOff (used .img) img - takeOff (used .imgCR) imgCR -
      takeOff (used .ai) ai
    let c := completion - takeOff (used .imgO) imgO - takeOff (used .ao) ao
    fun
    | .p => max p 0 | .c => max c 0 | .len => prompt | .cc => cc | .cc1h => split.2
    | .cc12h => cc12h | v => shared v

/-! ## The usage of a Responses answer -/

/-- The usage that `OaiResponsesHandler` settles
(relay_responses.go:46-54). -/
def oaiResponsesHandlerUsage (src : Usage) : Usage where
  promptTokens := src.inputTokens
  completionTokens := src.outputTokens
  totalTokens := src.totalTokens
  promptTokensDetails := src.inputTokensDetails.getD {}

/-- `HasTokens` of the two breakdowns, and the counts that `HasOpenAIUsageTokens` tests of
input details (dto/billing_usage.go:91-98 and 110-117). -/
def InputTokenDetails.hasTokens (d : InputTokenDetails) : Bool :=
  d.cachedTokensDetails.any (fun c => c.textTokens.any (· ≠ 0) || c.imageTokens.any (· ≠ 0) ||
      c.audioTokens.any (· ≠ 0)) ||
    d.cacheWriteTokensDetails.any (fun w => w.ttl30mTokens ≠ 0 || w.ttl12hTokens ≠ 0) ||
    d.cachedTokens ≠ 0 || d.cachedCreationTokens ≠ 0 || d.cacheWriteTokens ≠ 0 ||
    d.textTokens ≠ 0 || d.imageTokens ≠ 0 || d.audioTokens ≠ 0

/-- `HasOpenAIUsageTokens` (dto/billing_usage.go:77-118). -/
def hasOpenAIUsageTokens (u : Usage) : Bool :=
  u.promptTokens ≠ 0 || u.completionTokens ≠ 0 || u.totalTokens ≠ 0 || u.inputTokens ≠ 0 ||
    u.outputTokens ≠ 0 || u.promptCacheHitTokens ≠ 0 || u.claudeCacheCreation5mTokens ≠ 0 ||
    u.claudeCacheCreation1hTokens ≠ 0 || u.promptTokensDetails.hasTokens ||
    u.completionTokenDetails.reasoningTokens ≠ 0 || u.completionTokenDetails.textTokens ≠ 0 ||
    u.completionTokenDetails.imageTokens ≠ 0 || u.completionTokenDetails.audioTokens ≠ 0 ||
    u.inputTokensDetails.any (·.hasTokens)

/-- `newOpenAIBillingUsage` (dto/billing_usage.go:66-75): the snapshot of a usage. -/
def newOpenAIBillingUsage (usage : Usage) : Option Usage :=
  if hasOpenAIUsageTokens usage then some usage else none

/-- A count that a default replaces if it is zero. -/
def orElse (count other : ℤ) : ℤ :=
  if count = 0 then other else count

/-- `usageFromResponsesUsage`
(relayconvert/internal/oai_responses/to_oai_chat_resp.go:195-240): the converted usage. -/
def usageFromResponsesUsage (src : Usage) : Usage where
  usageSemantic := src.usageSemantic
  usageSource := src.usageSource
  promptTokens := src.inputTokens
  inputTokens := src.inputTokens
  completionTokens := src.outputTokens
  outputTokens := src.outputTokens
  totalTokens := orElse src.totalTokens (src.inputTokens + src.outputTokens)
  promptTokensDetails :=
    match src.inputTokensDetails with
    | none => {}
    | some d =>
      { cachedTokens := d.cachedTokens, cachedCreationTokens := d.cachedCreationTokens
        cacheWriteTokens := d.cacheWriteTokens, textTokens := d.textTokens
        imageTokens := d.imageTokens, audioTokens := d.audioTokens }
  completionTokenDetails := src.completionTokenDetails
  claudeCacheCreation5mTokens := src.claudeCacheCreation5mTokens
  claudeCacheCreation1hTokens := src.claudeCacheCreation1hTokens

/-- How `canonicalOpenAIUsage` completes the prompt details from the input details
(dto/billing_usage.go:206-225): only the counts, not the breakdowns. -/
def InputTokenDetails.completedBy (details d : InputTokenDetails) : InputTokenDetails :=
  { details with
    cachedTokens := orElse details.cachedTokens d.cachedTokens
    cachedCreationTokens := orElse details.cachedCreationTokens d.cachedCreationTokens
    cacheWriteTokens := orElse details.cacheWriteTokens d.cacheWriteTokens
    textTokens := orElse details.textTokens d.textTokens
    imageTokens := orElse details.imageTokens d.imageTokens
    audioTokens := orElse details.audioTokens d.audioTokens }

/-- `canonicalOpenAIUsage` (dto/billing_usage.go:188-232) of a Responses snapshot. -/
def canonicalOpenAIUsage (u : Usage) : Usage :=
  let promptTokens := orElse u.promptTokens u.inputTokens
  let completionTokens := orElse u.completionTokens u.outputTokens
  let details := u.promptTokensDetails.completedBy (u.inputTokensDetails.getD {})
  { u with
    promptTokens := promptTokens
    completionTokens := completionTokens
    inputTokens := orElse u.inputTokens promptTokens
    outputTokens := orElse u.outputTokens completionTokens
    totalTokens := orElse u.totalTokens (promptTokens + completionTokens)
    promptTokensDetails :=
      { details with cachedTokens := orElse details.cachedTokens u.promptCacheHitTokens }
    usageSemantic := .openai
    usageSource := "oai_responses" }

/-- `effectiveBillingUsage` (service/billing_usage.go:19-24) of the usage that
`UsageFromResponsesUsage` returns: `CanonicalUsage` of its snapshot, if it has one. -/
def effectiveConvertedUsage (src : Usage) : Usage :=
  match newOpenAIBillingUsage src with
  | some snapshot => canonicalOpenAIUsage snapshot
  | none => usageFromResponsesUsage src

/-- The fields of `dto.Usage` that a Responses usage object does not have are left at zero. -/
structure Usage.IsResponses (u : Usage) : Prop where
  promptTokens : u.promptTokens = 0
  completionTokens : u.completionTokens = 0
  promptCacheHitTokens : u.promptCacheHitTokens = 0
  usageSemantic : u.usageSemantic = .unset
  promptTokensDetails : u.promptTokensDetails = {}
  completionTokenDetails : u.completionTokenDetails = {}

/-! ## Both ways compared -/

open InputTokenDetails

/-- What `BuildTieredTokenParams` reads of a usage under OpenAI semantics, the second one without
breakdowns. -/
structure Usage.SameCounts (u v : Usage) : Prop where
  promptTokens : u.promptTokens = v.promptTokens
  completionTokens : u.completionTokens = v.completionTokens
  output : u.completionTokenDetails = v.completionTokenDetails
  cached : u.promptTokensDetails.cachedTokens = v.promptTokensDetails.cachedTokens
  written : u.promptTokensDetails.cacheCreationTokensTotal =
    v.promptTokensDetails.cacheCreationTokensTotal
  image : u.promptTokensDetails.imageTokens = v.promptTokensDetails.imageTokens
  audio : u.promptTokensDetails.audioTokens = v.promptTokensDetails.audioTokens
  left : u.usageSemantic ≠ .anthropic
  right : v.usageSemantic ≠ .anthropic
  plain : v.promptTokensDetails.cachedTokensDetails = none ∧
    v.promptTokensDetails.cacheWriteTokensDetails = none

/-- The breakdowns make no difference: no cached image tokens are priced on their own, and no cache
writes for twelve hours are reported, or they join an input that is used up. -/
def Usage.Indifferent (u : Usage) (used : Variable → Bool) : Prop :=
  let details := u.promptTokensDetails
  cachedImage u false used = 0 ∧ (details.cacheWrite12hTokens = 0 ∨
    used .cc12h = false ∧ used .cc = false ∧
      (u.promptTokens + details.cacheWrite12hTokens : ℚ) ≤ takeOff (used .cr) details.cachedTokens +
        takeOff (used .img) details.imageTokens + takeOff (used .ai) details.audioTokens)

theorem InputTokenDetails.cacheWrite12hTokens_bounds (d : InputTokenDetails) :
    0 ≤ d.cacheWrite12hTokens ∧ d.cacheWrite12hTokens ≤ d.cacheCreationTokensTotal := by
  have htotal : 0 ≤ d.cacheCreationTokensTotal := le_max_right _ _
  unfold cacheWrite12hTokens
  split
  · exact ⟨le_rfl, htotal⟩
  · exact ⟨le_min (le_max_right _ _) htotal, min_le_right _ _⟩

@[simp]
theorem takeOff_true (tokens : ℚ) : takeOff true tokens = tokens := rfl

@[simp]
theorem takeOff_false (tokens : ℚ) : takeOff false tokens = 0 := rfl

@[simp]
theorem takeOff_zero (priced : Bool) : takeOff priced 0 = 0 := ite_self 0

/-- The input where the cache writes have no price of their own. -/
theorem params_p_of_unused {u : Usage} {used : Variable → Bool}
    (hsemantic : u.usageSemantic ≠ .anthropic) (himage : cachedImage u false used = 0)
    (hcc12h : used .cc12h = false) (hcc : used .cc = false) :
    buildTieredTokenParams u false used .p =
      max (u.promptTokens + u.promptTokensDetails.cacheWrite12hTokens -
        (takeOff (used .cr) u.promptTokensDetails.cachedTokens +
          takeOff (used .img) u.promptTokensDetails.imageTokens +
          takeOff (used .ai) u.promptTokensDetails.audioTokens)) 0 := by
  simp only [buildTieredTokenParams, himage, hcc12h, hcc, if_neg hsemantic, Bool.false_eq_true,
    if_false, openAICacheCreation12hMultiplier, Int.cast_zero, takeOff_zero, takeOff_false,
    sub_zero]
  congr 1
  linarith

theorem Usage.SameCounts.params_iff {u v : Usage} (h : u.SameCounts v) (used : Variable → Bool) :
    buildTieredTokenParams u false used = buildTieredTokenParams v false used ↔
      u.Indifferent used := by
  have hv : cachedImage v false used = 0 := by simp [cachedImage, h.plain.1]
  have hv12h : v.promptTokensDetails.cacheWrite12hTokens = 0 := by
    simp [InputTokenDetails.cacheWrite12hTokens, h.plain.2]
  constructor
  · intro heq
    have himage : cachedImage u false used = 0 := by
      simpa [buildTieredTokenParams, hv] using congrFun heq .imgCR
    refine ⟨himage, or_iff_not_imp_left.2 fun hne => ?_⟩
    have hpos : (0 : ℚ) < u.promptTokensDetails.cacheWrite12hTokens :=
      Int.cast_pos.2 (lt_of_le_of_ne (cacheWrite12hTokens_bounds _).1 (Ne.symm hne))
    have h12h := congrFun heq .cc12h
    have hcc := congrFun heq .cc
    simp only [buildTieredTokenParams, hv12h, h.written, if_neg h.left, if_neg h.right,
      Bool.false_eq_true, if_false, openAICacheCreation12hMultiplier, Int.cast_zero, takeOff_zero]
      at h12h hcc
    cases hused12h : used .cc12h with
    | true =>
      rw [hused12h, takeOff_true] at h12h
      linarith
    | false =>
      cases hused : used .cc with
      | true =>
        simp only [hused12h, hused, takeOff_true, takeOff_false] at hcc
        linarith
      | false =>
        have hp := congrFun heq .p
        rw [params_p_of_unused h.left himage hused12h hused,
          params_p_of_unused h.right hv hused12h hused, hv12h, h.promptTokens, h.cached, h.image,
          h.audio, Int.cast_zero, add_zero] at hp
        refine ⟨rfl, rfl, ?_⟩
        rw [h.promptTokens, h.cached, h.image, h.audio]
        by_contra hlt
        rw [max_eq_left (by linarith)] at hp
        rcases max_choice (v.promptTokens - _ : ℚ) 0 with hmax | hmax <;>
          rw [hmax] at hp <;> linarith
  · rintro ⟨himage, hzero | ⟨hcc12h, hcc, hle⟩⟩
    · simp only [buildTieredTokenParams, himage, hv, hzero, hv12h, h.promptTokens,
        h.completionTokens, h.output, h.cached, h.written, h.image, h.audio, if_neg h.left,
        if_neg h.right]
    · have hpos : (0 : ℚ) ≤ u.promptTokensDetails.cacheWrite12hTokens :=
        Int.cast_nonneg (cacheWrite12hTokens_bounds _).1
      funext x
      cases x with
      | p =>
        rw [params_p_of_unused h.left himage hcc12h hcc, params_p_of_unused h.right hv hcc12h hcc,
          max_eq_right (sub_nonpos.2 hle), max_eq_right]
        rw [hv12h, ← h.promptTokens, ← h.cached, ← h.image, ← h.audio, Int.cast_zero]
        linarith
      | _ =>
        simp [buildTieredTokenParams, himage, hv, hv12h, hcc12h, hcc, h.promptTokens,
          h.completionTokens, h.output, h.cached, h.written, h.image, h.audio, if_neg h.left,
          if_neg h.right]

theorem orElse_zero (other : ℤ) : orElse 0 other = other := rfl

theorem orElse_self_zero (count : ℤ) : orElse count 0 = count := by
  unfold orElse
  split <;> simp_all

section Responses

variable {u : Usage} (hu : u.IsResponses)

include hu

theorem canonical_sameCounts :
    (oaiResponsesHandlerUsage u).SameCounts (canonicalOpenAIUsage u) := by
  constructor <;>
    simp [oaiResponsesHandlerUsage, canonicalOpenAIUsage, completedBy, hu.promptTokensDetails,
      hu.promptTokens, hu.completionTokens, hu.promptCacheHitTokens, hu.completionTokenDetails,
      orElse_zero, orElse_self_zero, cacheCreationTokensTotal]

theorem converted_sameCounts :
    (oaiResponsesHandlerUsage u).SameCounts (usageFromResponsesUsage u) := by
  cases hd : u.inputTokensDetails <;> constructor <;>
    simp [oaiResponsesHandlerUsage, usageFromResponsesUsage, hd, hu.usageSemantic,
      hu.completionTokenDetails, cacheCreationTokensTotal]

/-- A Responses usage is billed the same whichever format the client is answered in exactly if its
breakdowns make no difference. -/
theorem converted_params_iff (used : Variable → Bool) :
    buildTieredTokenParams (oaiResponsesHandlerUsage u) false used =
      buildTieredTokenParams (effectiveConvertedUsage u) false used ↔
    (oaiResponsesHandlerUsage u).Indifferent used := by
  unfold effectiveConvertedUsage newOpenAIBillingUsage
  by_cases htokens : hasOpenAIUsageTokens u
  · rw [if_pos htokens]
    exact (canonical_sameCounts hu).params_iff used
  · rw [if_neg htokens]
    exact (converted_sameCounts hu).params_iff used

end Responses

/-- Half of the input is read from the cache, a quarter written to it. -/
def cachedUsage : Usage where
  inputTokens := 1000
  outputTokens := 10
  totalTokens := 1010
  inputTokensDetails := some { cachedTokens := 500, cacheWriteTokens := 250 }

theorem converted_params_cached :
    buildTieredTokenParams (oaiResponsesHandlerUsage cachedUsage) false (fun _ => true) =
      buildTieredTokenParams (effectiveConvertedUsage cachedUsage) false (fun _ => true) :=
  (converted_params_iff ⟨rfl, rfl, rfl, rfl, rfl, rfl⟩ (fun _ => true)).2
    ⟨by decide, .inl (by decide)⟩

/-- The same usage with the cache writes made for twelve hours. -/
def splitUsage : Usage where
  inputTokens := 1000
  outputTokens := 10
  totalTokens := 1010
  inputTokensDetails := some
    { cachedTokens := 500, cacheWriteTokens := 250
      cacheWriteTokensDetails := some { ttl12hTokens := 250 } }

/-- The native usage has 250 tokens at the 12-hour price, the converted one has none. -/
theorem converted_params_split :
    let used : Variable → Bool := fun _ => true
    buildTieredTokenParams (oaiResponsesHandlerUsage splitUsage) false used .cc12h = 250 ∧
      buildTieredTokenParams (effectiveConvertedUsage splitUsage) false used .cc12h = 0 := by
  decide +kernel

/-! ## The counts add up -/

/-- The counts that `BuildTieredTokenParams` reads are not negative. -/
structure Usage.NonNegative (u : Usage) : Prop where
  prompt : 0 ≤ u.promptTokens
  completion : 0 ≤ u.completionTokens
  cached : 0 ≤ u.promptTokensDetails.cachedTokens
  image : 0 ≤ u.promptTokensDetails.imageTokens
  audio : 0 ≤ u.promptTokensDetails.audioTokens
  imageOutput : 0 ≤ u.completionTokenDetails.imageTokens
  audioOutput : 0 ≤ u.completionTokenDetails.audioTokens
  written5m : 0 ≤ u.claudeCacheCreation5mTokens
  written1h : 0 ≤ u.claudeCacheCreation1hTokens

/-- The cache writes for five minutes and for one hour. -/
def Usage.cacheWrites (u : Usage) : ℤ × ℤ :=
  if u.usageSemantic = .anthropic then
    normalizeCacheCreationSplit u.promptTokensDetails.cacheCreationTokensTotal
      u.claudeCacheCreation5mTokens u.claudeCacheCreation1hTokens
  else (u.promptTokensDetails.cacheCreationTokensTotal, 0)

/-- The sum of the used variables of a list. -/
def TokenParams.sumUsed (params : TokenParams) (used : Variable → Bool) (vs : List Variable) : ℚ :=
  (vs.map fun v => takeOff (used v) (params v)).sum

/-- The separately priced counts that are subtracted from the prompt tokens. -/
def subtractedInput (u : Usage) (used : Variable → Bool) : ℚ :=
  let params := buildTieredTokenParams u false used
  params.sumUsed used [.cr, .cc1h, .cc12h, .img, .imgCR, .ai] +
    takeOff (used .cc) (u.cacheWrites.1 - params .cc12h)

theorem cachedImage_bounds {u : Usage} (h : u.NonNegative) (claude : Bool)
    (used : Variable → Bool) : 0 ≤ cachedImage u claude used ∧
      cachedImage u claude used ≤ u.promptTokensDetails.cachedTokens ∧
      cachedImage u claude used ≤ u.promptTokensDetails.imageTokens := by
  unfold cachedImage
  have hzero := And.intro (le_refl (0 : ℤ)) (And.intro h.cached h.image)
  split
  · split
    · exact hzero
    split
    · exact hzero
    dsimp only
    split
    next hvalid =>
      exact ⟨hvalid.1, hvalid.2.1, hvalid.2.2.1⟩
    · exact hzero
  · exact hzero

theorem Usage.NonNegative.cacheWrites {u : Usage} (h : u.NonNegative) :
    0 ≤ u.cacheWrites.1 ∧ 0 ≤ u.cacheWrites.2 := by
  have htotal : 0 ≤ u.promptTokensDetails.cacheCreationTokensTotal := le_max_right _ _
  unfold Usage.cacheWrites normalizeCacheCreationSplit
  split
  · exact ⟨add_nonneg h.written5m (le_max_right _ _), h.written1h⟩
  · exact ⟨htotal, le_rfl⟩

theorem takeOff_bounds {tokens : ℚ} (h : 0 ≤ tokens) (priced : Bool) :
    0 ≤ takeOff priced tokens ∧ takeOff priced tokens ≤ tokens := by
  cases priced
  · exact ⟨le_rfl, h⟩
  · exact ⟨h, le_rfl⟩

/-- The variables that a price per input token, and per output token, can be given for. -/
def inputCategories : List Variable := [.cr, .cc, .cc1h, .cc12h, .img, .imgCR, .ai]

def outputCategories : List Variable := [.imgO, .ao]

section Partition

variable {u : Usage} (used : Variable → Bool)

/-- OpenAI semantics: nothing of the prompt tokens is lost or counted twice. -/
theorem openAI_input (hsemantic : u.usageSemantic ≠ .anthropic)
    (hfits : subtractedInput u used ≤ u.promptTokens) :
    let params := buildTieredTokenParams u false used
    params .p + params.sumUsed used inputCategories = u.promptTokens + if used .cc12h then 0
      else u.promptTokensDetails.cacheWrite12hTokens * (openAICacheCreation12hMultiplier - 1) := by
  have h12h : (0 : ℚ) ≤ u.promptTokensDetails.cacheWrite12hTokens :=
    Int.cast_nonneg (cacheWrite12hTokens_bounds _).1
  simp only [subtractedInput, Usage.cacheWrites, if_neg hsemantic, TokenParams.sumUsed,
    buildTieredTokenParams, map_cons, map_nil, sum_cons, sum_nil,
    Bool.false_eq_true, if_false, inputCategories, openAICacheCreation12hMultiplier] at hfits ⊢
  cases hcc : used .cc <;> cases hcc12h : used .cc12h <;>
    simp only [hcc, hcc12h, takeOff_true, takeOff_false, if_true, Bool.false_eq_true, if_false]
      at hfits ⊢
  all_goals
    rw [max_eq_left (by linarith)]
    linarith

/-- Claude semantics: the cache reads and writes without a price of their own join the input. -/
theorem claude_input (h : u.NonNegative) :
    let params := buildTieredTokenParams u true used
    params .p + params.sumUsed used [.cr, .cc, .cc1h] = u.promptTokens +
      u.promptTokensDetails.cachedTokens + (u.cacheWrites.1 + u.cacheWrites.2) +
      if used .cc1h then 0 else u.cacheWrites.2 * (claudeCacheCreation1hMultiplier - 1) := by
  have hprompt : (0 : ℚ) ≤ u.promptTokens := Int.cast_nonneg h.prompt
  have hcached : (0 : ℚ) ≤ u.promptTokensDetails.cachedTokens := Int.cast_nonneg h.cached
  have h5m : (0 : ℚ) ≤ u.cacheWrites.1 := Int.cast_nonneg h.cacheWrites.1
  have h1h : (0 : ℚ) ≤ u.cacheWrites.2 := Int.cast_nonneg h.cacheWrites.2
  have himage : cachedImage u true used = 0 := by simp [cachedImage]
  simp only [buildTieredTokenParams, himage, TokenParams.sumUsed, map_cons, map_nil,
    sum_cons, sum_nil, claudeCacheCreation1hMultiplier, if_true, Int.cast_zero, sub_zero]
  rw [← Usage.cacheWrites]
  cases hcr : used .cr <;> cases hcc : used .cc <;> cases hcc1h : used .cc1h <;>
    simp only [takeOff_true, takeOff_false, if_true, Bool.false_eq_true, if_false]
  all_goals
    rw [max_eq_left (by linarith)]
    linarith

theorem params_nonneg (h : u.NonNegative) {claude : Bool}
    (hsemantic : u.usageSemantic = .anthropic → claude = true) (v : Variable) :
    0 ≤ buildTieredTokenParams u claude used v := by
  obtain ⟨himg, hcached, himage⟩ := cachedImage_bounds h claude used
  obtain ⟨h12h, htotal⟩ := u.promptTokensDetails.cacheWrite12hTokens_bounds
  have hcr : (0 : ℚ) ≤ u.promptTokensDetails.cachedTokens - cachedImage u claude used :=
    sub_nonneg.2 (Int.cast_le.2 hcached)
  have h5m : (0 : ℚ) ≤ u.cacheWrites.1 := Int.cast_nonneg h.cacheWrites.1
  have h1h : (0 : ℚ) ≤ u.cacheWrites.2 := Int.cast_nonneg h.cacheWrites.2
  have hcc1h := takeOff_bounds h1h (used .cc1h)
  have hcc12h := takeOff_bounds (Int.cast_nonneg h12h : (0 : ℚ) ≤ _) (used .cc12h)
  have hprompt : (0 : ℚ) ≤ u.promptTokens := Int.cast_nonneg h.prompt
  cases v with
  | p | c => cases claude <;> exact le_max_right _ _
  | cr => cases claude <;> exact hcr
  | img => cases claude <;> exact sub_nonneg.2 (Int.cast_le.2 himage)
  | imgCR => cases claude <;> exact Int.cast_nonneg himg
  | imgO => cases claude <;> exact Int.cast_nonneg h.imageOutput
  | ai => cases claude <;> exact Int.cast_nonneg h.audio
  | ao => cases claude <;> exact Int.cast_nonneg h.audioOutput
  | len =>
    cases claude
    · exact hprompt
    · exact add_nonneg (add_nonneg (add_nonneg hprompt hcr) h5m) h1h
  | cc =>
    cases claude
    · have hwrites : u.cacheWrites = (u.promptTokensDetails.cacheCreationTokensTotal, 0) :=
        if_neg fun hanthropic => Bool.false_ne_true (hsemantic hanthropic)
      have hle : (u.promptTokensDetails.cacheWrite12hTokens : ℚ) ≤ u.cacheWrites.1 := by
        rw [hwrites]
        exact Int.cast_le.2 htotal
      exact (takeOff_bounds (add_nonneg (sub_nonneg.2 hle)
        (mul_nonneg (sub_nonneg.2 hcc12h.2) (by decide +kernel))) _).1
    · exact (takeOff_bounds (add_nonneg h5m
        (mul_nonneg (sub_nonneg.2 hcc1h.2) (by decide +kernel))) _).1
  | cc1h =>
    cases claude
    · exact h1h
    · exact hcc1h.1
  | cc12h =>
    cases claude
    · exact hcc12h.1
    · exact le_rfl

end Partition

/-- The variables of an expression divide the reported counts among them. Claude usage reports its
output without the categories, so nothing is subtracted there. -/
theorem params_partition (u : Usage) (claude : Bool) (used : Variable → Bool) (h : u.NonNegative)
    (hsemantic : u.usageSemantic = .anthropic → claude = true) :
    let params := buildTieredTokenParams u claude used
    (∀ v, 0 ≤ params v) ∧ (claude = false → subtractedInput u used ≤ u.promptTokens →
        params .p + params.sumUsed used inputCategories = u.promptTokens + if used .cc12h then 0
          else u.promptTokensDetails.cacheWrite12hTokens * (openAICacheCreation12hMultiplier - 1)) ∧
      (claude = true → params .p + params.sumUsed used [.cr, .cc, .cc1h] = u.promptTokens +
          u.promptTokensDetails.cachedTokens + (u.cacheWrites.1 + u.cacheWrites.2) +
          if used .cc1h then 0 else u.cacheWrites.2 * (claudeCacheCreation1hMultiplier - 1)) ∧
      (claude = false → params.sumUsed used outputCategories ≤ u.completionTokens →
        params .c + params.sumUsed used outputCategories = u.completionTokens) ∧
      (claude = true → params .c = u.completionTokens) := by
  refine ⟨params_nonneg used h hsemantic, ?_, ?_, ?_, ?_⟩
  · rintro rfl hfits
    exact openAI_input used (fun hanthropic => Bool.false_ne_true (hsemantic hanthropic)) hfits
  · rintro rfl
    exact claude_input used h
  · rintro rfl hfits
    simp only [buildTieredTokenParams, TokenParams.sumUsed, outputCategories, map_cons,
      map_nil, sum_cons, sum_nil, Bool.false_eq_true, if_false] at hfits ⊢
    rw [max_eq_left (by linarith)]
    linarith
  · rintro rfl
    exact max_eq_left (Int.cast_nonneg h.completion)

/-- Cached, written and spoken tokens in a hundred of input and thirty of output. -/
def mixedUsage : Usage where
  promptTokens := 100
  completionTokens := 30
  promptTokensDetails :=
    { cachedTokens := 40, cacheWriteTokens := 20, audioTokens := 5
      cacheWriteTokensDetails := some { ttl12hTokens := 8 } }
  completionTokenDetails := { audioTokens := 10 }

theorem mixedUsage_nonNegative : mixedUsage.NonNegative := by
  constructor <;> decide

theorem params_partition_mixed :
    let used : Variable → Bool := fun v => v ≠ .cc12h
    let params := buildTieredTokenParams mixedUsage false used
    params .p + params.sumUsed used inputCategories = 108 ∧
      params .c + params.sumUsed used outputCategories = 30 := by
  intro used params
  obtain ⟨-, hinput, -, houtput, -⟩ :=
    params_partition mixedUsage false used mixedUsage_nonNegative (by decide)
  refine ⟨(hinput rfl (by decide +kernel)).trans ?_, houtput rfl (by decide +kernel)⟩
  decide +kernel

/-- With Claude semantics the spoken output is counted in `c` and in `ao`; and a Claude usage that
is read as an OpenAI one can have a negative count. -/
theorem params_claude_output : (let used : Variable → Bool := fun v => v = .ao
      let params := buildTieredTokenParams mixedUsage true used
      params .c + params.sumUsed used outputCategories = 40) ∧
      buildTieredTokenParams
        { promptTokens := 100, usageSemantic := .anthropic, claudeCacheCreation1hTokens := 8
          promptTokensDetails :=
            { cacheWriteTokens := 8, cacheWriteTokensDetails := some { ttl12hTokens := 8 } } }
        false (fun _ => true) .cc = -8 := by
  decide +kernel

end OmniRouters.Billing
