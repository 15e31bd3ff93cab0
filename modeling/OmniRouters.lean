import OmniRouters.AuthFlow.Consume
import OmniRouters.Billing.ExprCache
import OmniRouters.Billing.TokenBilling
import OmniRouters.Channel.MultiKey
import OmniRouters.Convert.ChatToClaudeOutput
import OmniRouters.Convert.ChatToGemini
import OmniRouters.Convert.GeminiToChat
import OmniRouters.Convert.MarkdownImages
import OmniRouters.Convert.ResponsesToClaudeStream
import OmniRouters.Convert.UsageBridge
import OmniRouters.Midjourney.Refunds
import OmniRouters.Organization.Ownership
import OmniRouters.Organization.Wallet
import OmniRouters.Payment.CreditedTotal
import OmniRouters.Payment.FailedOrders
import OmniRouters.Payment.Redemption
import OmniRouters.PerfMetrics.Quantile
import OmniRouters.Plugin.Routing
import OmniRouters.Quota.Invite
import OmniRouters.Quota.TokenCache
import OmniRouters.Quota.UserCache
import OmniRouters.Quota.WalletCeiling
import OmniRouters.RateLimit.FixedWindow
import OmniRouters.RateLimit.ModelLimit
import OmniRouters.RateLimit.Redis
import OmniRouters.RateLimit.TokenBucket
import OmniRouters.Realtime.Billing
import OmniRouters.Reasoning.Suffix
import OmniRouters.Relay.AutoRelay
import OmniRouters.Relay.ResponsesUsage
import OmniRouters.Session.Refresh
import OmniRouters.Session.Revocation
import OmniRouters.Subscription.Idempotence
import OmniRouters.Subscription.Periods
import OmniRouters.Subscription.Refund
import OmniRouters.Subscription.ResetTime
import OmniRouters.Subscription.UserGroup
import OmniRouters.SystemTask.Lease
import OmniRouters.Task.Completion
import OmniRouters.Task.Finalization
import OmniRouters.Task.Pricing
import OmniRouters.TwoFA.Attempts
import OmniRouters.TwoFA.BackupCodes
