import WaveFlow.Library.Transition
import WaveFlow.Library.KeyedStore
import WaveFlow.Library.Component
import WaveFlow.Library.Prog
import WaveFlow.Library.Observer
import WaveFlow.Library.Table
import WaveFlow.Escrow.Solvency
import WaveFlow.Escrow.ProgramIds
import WaveFlow.Escrow.ProcessedPrs
import WaveFlow.Escrow.ProgramHistory
import WaveFlow.Escrow.Ledger
import WaveFlow.Escrow.Milestone
import WaveFlow.Escrow.EventLog
import WaveFlow.Escrow.Stranded
import WaveFlow.Escrow.Checks
import WaveFlow.Escrow.Independence
import WaveFlow.Escrow.Recipients
import WaveFlow.Escrow.MergeOrder
import WaveFlow.Escrow.Account
import WaveFlow.Escrow.AccountRefinement
import WaveFlow.Escrow.Reads
import WaveFlow.Escrow.WindingUp
import WaveFlow.Postgres.Rules
import WaveFlow.Gateway.AllOrNothing
import WaveFlow.Gateway.Unauthenticated
import WaveFlow.Gateway.Redelivery
import WaveFlow.Gateway.OneAttestation
import WaveFlow.Gateway.Replay
import WaveFlow.Gateway.Audit
import WaveFlow.Gateway.Authentic
import WaveFlow.Gateway.Spending
import WaveFlow.Gateway.Price
import WaveFlow.Gateway.Fence
import WaveFlow.Gateway.OneClaim
import WaveFlow.Gateway.Mirror
import WaveFlow.Gateway.Registrations
import WaveFlow.Gateway.Startup
import WaveFlow.Gateway.Columns
import WaveFlow.Gateway.Conflicts
import WaveFlow.Shared.Slugs
import WaveFlow.Gateway.Paused
import WaveFlow.Gateway.PayoutCounter
import WaveFlow.Api.AdminKeys
import WaveFlow.Api.Registry
import WaveFlow.Gateway.Signature
import WaveFlow.Api.RegistryRefinement
import WaveFlow.Gateway.Lasting
import WaveFlow.Api.Public
import WaveFlow.Api.Provenance
import WaveFlow.Api.Site
import WaveFlow.Gateway.Counters
import WaveFlow.Gateway.Settlement
import WaveFlow.Api.Isolation
import WaveFlow.Api.Custody
import WaveFlow.Library.Budget
import WaveFlow.Api.Progress
import WaveFlow.Api.Retries
