import FfxNexus.Adapters.AnthropicStream
import FfxNexus.Adapters.AnthropicUsage
import FfxNexus.Adapters.Gemini
import FfxNexus.AllowList
import FfxNexus.Apierr
import FfxNexus.Balancer
import FfxNexus.Benchmark.Settled
import FfxNexus.Blending
import FfxNexus.CacheAdmission
import FfxNexus.ChartBuckets
import FfxNexus.Credentials
import FfxNexus.Cron
import FfxNexus.DenialBursts
import FfxNexus.Egress
import FfxNexus.EmailSpellings
import FfxNexus.Evals.Delivery
import FfxNexus.Evals.Evaluate
import FfxNexus.Evals.ProfileAdmin
import FfxNexus.Evals.Reconcile
import FfxNexus.Evals.RougeL
import FfxNexus.Evals.Secrets
import FfxNexus.Evals.TracePII
import FfxNexus.ForwardedFor
import FfxNexus.InviteAudit
import FfxNexus.Limiter.Memory
import FfxNexus.Limiter.Route
import FfxNexus.MCP.Registry
import FfxNexus.MessagesText
import FfxNexus.Migrate
import FfxNexus.ModelSync
import FfxNexus.OtlpNumbers
import FfxNexus.OutputRedaction
import FfxNexus.PriceResolution
import FfxNexus.ProviderScope
import FfxNexus.ResponsesTranslators
import FfxNexus.Revocation
import FfxNexus.RouteGroups
import FfxNexus.ScopedKeys
import FfxNexus.Spend.Stamp
import FfxNexus.Statements
import FfxNexus.StructuredOutput
import FfxNexus.TurnKey
import FfxNexus.UpstreamRedirect
