import OmniRouters.Billing.TokenParams

/-!
# OpenAI usage in Claude responses

The two bridges from an OpenAI usage to a Claude usage: `buildClaudeUsageFromOpenAIUsage`
(oai_chat/to_claude_messages_resp.go:39-87) for converted Chat responses and
`UsageFromOpenAI` (shared/claude/usage.go:5-52) for the other conversions.

OpenAI counts the tokens read from and written to a cache among the prompt tokens, Claude reports
them beside the input tokens. `UsageFromOpenAI` subtracts them from every usage of OpenAI semantics,
the other bridge only where `cache_write_tokens` is reported.

* `bridges_agree_iff`: both report the same, with the prompt tokens split without loss, exactly
  where the first bridge subtracts or has nothing to subtract.
* `cache_reads_counted_twice`: a usage with tokens read from a cache only.
-/

namespace OmniRouters.Convert.UsageBridge

open OmniRouters.Billing (Usage normalizeCacheCreationSplit)

/-- `dto.ClaudeUsage`; `S` are the billing snapshots, `cacheCreation` are the ephemeral tokens of
five minutes and of one hour. -/
structure ClaudeUsage (S : Type) where
  inputTokens : ℤ
  outputTokens : ℤ
  cacheCreationInputTokens : ℤ
  cacheReadInputTokens : ℤ
  billingUsage : Option S
  cacheCreation : Option (ℤ × ℤ)
deriving DecidableEq

/-- What the bridges ask of a snapshot: its Claude usage where its source or semantic is Claude's,
whether it has an OpenAI usage of an OpenAI source or semantic, and the snapshot that
`NewOpenAIChatBillingUsage` takes of a usage. -/
structure Snapshots (S : Type) where
  claude : S → Option (ClaudeUsage S)
  openAI : S → Bool
  newOpenAIChat : Usage → Option S

variable {S : Type}

/-- The end of both bridges; both packages split the cache writes in the same way. -/
def toClaude (usage : Usage) (inputTokens : ℤ) (billingUsage : Option S) : ClaudeUsage S :=
  let (cacheCreation5m, cacheCreation1h) := normalizeCacheCreationSplit
    usage.promptTokensDetails.cachedCreationTokens usage.claudeCacheCreation5mTokens
    usage.claudeCacheCreation1hTokens
  { inputTokens
    outputTokens := usage.completionTokens
    cacheCreationInputTokens := usage.promptTokensDetails.cacheCreationTokensTotal
    cacheReadInputTokens := usage.promptTokensDetails.cachedTokens
    billingUsage
    cacheCreation := if 0 < cacheCreation5m ∨ 0 < cacheCreation1h then
      some (cacheCreation5m, cacheCreation1h) else none }

/-- The prompt tokens that were neither read from nor written to a cache, at least zero. -/
def uncached (usage : Usage) : ℤ :=
  max 0 (usage.promptTokens - usage.promptTokensDetails.cachedTokens -
    usage.promptTokensDetails.cacheCreationTokensTotal)

/-- The bridge of Chat responses, for a usage with the snapshot `billingUsage`. -/
def buildClaudeUsageFromOpenAIUsage (cfg : Snapshots S) (usage : Usage) (billingUsage : Option S) :
    ClaudeUsage S :=
  match billingUsage.bind cfg.claude with
  | some claude => claude
  | none =>
    toClaude usage
      (if 0 < usage.promptTokensDetails.cacheWriteTokens then uncached usage
        else usage.promptTokens)
      ((billingUsage.filter cfg.openAI).or (cfg.newOpenAIChat usage))

/-- The other bridge. -/
def usageFromOpenAI (cfg : Snapshots S) (usage : Usage) (billingUsage : Option S) : ClaudeUsage S :=
  match billingUsage.bind cfg.claude with
  | some claude => { claude with billingUsage }
  | none =>
    toClaude usage
      (if usage.usageSemantic ≠ .anthropic then uncached usage else usage.promptTokens)
      (billingUsage.or (cfg.newOpenAIChat usage))

/-- Tokens of a Claude usage that went in, from a cache or not. -/
def ClaudeUsage.prompt (usage : ClaudeUsage S) : ℤ :=
  usage.inputTokens + usage.cacheReadInputTokens + usage.cacheCreationInputTokens

/-- **The bridges agree** exactly on a usage whose cache writes are reported as
`cache_write_tokens` and on one without cached tokens. -/
theorem bridges_agree_iff (cfg : Snapshots S) (usage : Usage)
    (hsemantic : usage.usageSemantic ≠ .anthropic)
    (hle : usage.promptTokensDetails.cachedTokens +
      usage.promptTokensDetails.cacheCreationTokensTotal ≤ usage.promptTokens) :
    (buildClaudeUsageFromOpenAIUsage cfg usage none = usageFromOpenAI cfg usage none ∧
      (usageFromOpenAI cfg usage none).prompt = usage.promptTokens) ↔
    0 < usage.promptTokensDetails.cacheWriteTokens ∨
      usage.promptTokensDetails.cachedTokens +
        usage.promptTokensDetails.cacheCreationTokensTotal = 0 := by
  have huncached : uncached usage = usage.promptTokens - usage.promptTokensDetails.cachedTokens -
      usage.promptTokensDetails.cacheCreationTokensTotal := by
    unfold uncached
    omega
  have hclaude : usageFromOpenAI cfg usage none =
      toClaude usage (uncached usage) (cfg.newOpenAIChat usage) := by
    simp [usageFromOpenAI, hsemantic]
  have hprompt : (toClaude usage (uncached usage) (cfg.newOpenAIChat usage)).prompt =
      usage.promptTokens := by
    change uncached usage + usage.promptTokensDetails.cachedTokens +
      usage.promptTokensDetails.cacheCreationTokensTotal = _
    omega
  rw [hclaude, and_iff_left hprompt]
  constructor
  · intro h
    have hinput : (if 0 < usage.promptTokensDetails.cacheWriteTokens then uncached usage
        else usage.promptTokens) = uncached usage := congrArg ClaudeUsage.inputTokens h
    split at hinput <;> omega
  · intro h
    have hinput : (if 0 < usage.promptTokensDetails.cacheWriteTokens then uncached usage
        else usage.promptTokens) = uncached usage := by
      split <;> omega
    simp [buildClaudeUsageFromOpenAIUsage, hinput]

/-- No snapshot is ever there. -/
def noSnapshots : Snapshots Unit := ⟨fun _ => none, fun _ => false, fun _ => none⟩

/-- Of 100 prompt tokens 20 were read from a cache. -/
def cachedUsage (cacheWriteTokens : ℤ) : Usage :=
  { promptTokens := 100, promptTokensDetails := { cachedTokens := 20, cacheWriteTokens } }

theorem bridges_agree_written :
    buildClaudeUsageFromOpenAIUsage noSnapshots (cachedUsage 30) none =
        usageFromOpenAI noSnapshots (cachedUsage 30) none ∧
      (usageFromOpenAI noSnapshots (cachedUsage 30) none).prompt = 100 :=
  (bridges_agree_iff noSnapshots (cachedUsage 30) (by decide) (by decide)).2 (.inl (by decide))

/-- Without writes to the cache, one bridge reports 100 input tokens beside the 20 cached ones, the
other 80. -/
theorem cache_reads_counted_twice :
    (buildClaudeUsageFromOpenAIUsage noSnapshots (cachedUsage 0) none).prompt = 120 ∧
      (usageFromOpenAI noSnapshots (cachedUsage 0) none).prompt = 100 := by
  decide

end OmniRouters.Convert.UsageBridge
