import ImpactRelay.Lib.Dict
import ImpactRelay.Lib.Raise
import ImpactRelay.Lib.Reading
import ImpactRelay.Lib.Fate
import ImpactRelay.Lib.FileTree
import ImpactRelay.Lib.Run
import ImpactRelay.Lib.Json
import ImpactRelay.Lib.Decimal
import ImpactRelay.Lib.Text
import ImpactRelay.Lib.Iso
import ImpactRelay.Lib.IsoText
import ImpactRelay.Lib.IsoOrder
import ImpactRelay.Lib.Table
import ImpactRelay.Lib.Owned
import ImpactRelay.Domain.Types
import ImpactRelay.Domain.Ledger
import ImpactRelay.Domain.LedgerSpec
import ImpactRelay.Domain.Postings
import ImpactRelay.Domain.Writes
import ImpactRelay.Domain.Attribution
import ImpactRelay.Domain.Balance
import ImpactRelay.Domain.Acceptance
import ImpactRelay.Domain.Charges
import ImpactRelay.Domain.Shares
import ImpactRelay.Domain.Atomicity
import ImpactRelay.Domain.AppendOnly
import ImpactRelay.Domain.Corrections
import ImpactRelay.Domain.LedgerLog
import ImpactRelay.Domain.Growth
import ImpactRelay.Agents.Types
import ImpactRelay.Agents.Authority
import ImpactRelay.Agents.Privacy
import ImpactRelay.Domain.LifeCycle
import ImpactRelay.Domain.Designations
import ImpactRelay.Domain.Classification
import ImpactRelay.Domain.LiveReceipts
import ImpactRelay.Domain.Aggregates
import ImpactRelay.Domain.Notifications
import ImpactRelay.Agents.NotificationComposer
import ImpactRelay.Agents.Executor
import ImpactRelay.Agents.Fates
import ImpactRelay.Agents.Failure
import ImpactRelay.Agents.Replay
import ImpactRelay.Agents.Once
import ImpactRelay.Agents.Aggregates
import ImpactRelay.Workflows.Types
import ImpactRelay.Workflows.Machine
import ImpactRelay.Workflows.Store
import ImpactRelay.Workflows.StoreMemory
import ImpactRelay.Workflows.StoreSql
import ImpactRelay.Workflows.Lease
import ImpactRelay.Workflows.Fencing
import ImpactRelay.Workflows.Exceptions
import ImpactRelay.Workflows.Commands
import ImpactRelay.Workflows.Steps
import ImpactRelay.Workflows.Runtime
import ImpactRelay.Workflows.Start
import ImpactRelay.Workflows.System
import ImpactRelay.Workflows.Advance
import ImpactRelay.Workflows.Moves
import ImpactRelay.Workflows.Sound
import ImpactRelay.Workflows.HumanAuthority
import ImpactRelay.Workflows.Rows
import ImpactRelay.Workflows.Terminal
import ImpactRelay.Workflows.LegalMoves
import ImpactRelay.Workflows.Queues
import ImpactRelay.Workflows.Attempts
import ImpactRelay.Workflows.Rest
import ImpactRelay.Workflows.BoundedRetries
import ImpactRelay.Workflows.RetryDecision
import ImpactRelay.Workflows.Timeouts
import ImpactRelay.Workflows.Deadlines
import ImpactRelay.Workflows.Expiry
import ImpactRelay.Workflows.Decisions
import ImpactRelay.Workflows.LostApprovals
import ImpactRelay.Workflows.GaplessHistory
import ImpactRelay.Workflows.Schedules
import ImpactRelay.Agents.LiveExpenses
import ImpactRelay.Storage.RoundTrip
import ImpactRelay.Storage.LogsAlike
import ImpactRelay.Agents.Erasure
import ImpactRelay.Workflows.EmailText
import ImpactRelay.Domain.ReceiptNumbers
import ImpactRelay.Domain.DonorViews
import ImpactRelay.Domain.ProRata
import ImpactRelay.Domain.ReceiptHash
import ImpactRelay.Workflows.Classifications
import ImpactRelay.Workflows.OwnReceipt
import ImpactRelay.Workflows.EvidenceGate
import ImpactRelay.Agents.Redaction
import ImpactRelay.Domain.StuckIntents
import ImpactRelay.Domain.Impact
import ImpactRelay.Domain.ImpactReceipts
import ImpactRelay.Workflows.Listings
import ImpactRelay.Domain.DonorReads
import ImpactRelay.Domain.DonorExport
import ImpactRelay.Domain.TenantRuns
import ImpactRelay.Domain.DonorPrivacy
import ImpactRelay.Host.GateAuthority
import ImpactRelay.Storage.Placeholders
import ImpactRelay.Storage.Objects
import ImpactRelay.Storage.Retention
import ImpactRelay.Reporting.Digest
import ImpactRelay.Reporting.EveryOrg
import ImpactRelay.Lib.DecimalText
import ImpactRelay.Storage.SessionObjects
import ImpactRelay.Storage.OpsSession
import ImpactRelay.Storage.SessionReading
import ImpactRelay.Storage.SessionFollows
import ImpactRelay.Storage.SessionDecoding
import ImpactRelay.Lib.JsonRead
import ImpactRelay.Storage.Policy
import ImpactRelay.Storage.Portable
import ImpactRelay.Storage.Scaffolds
import ImpactRelay.Storage.Outbox
import ImpactRelay.Storage.Bundle
import ImpactRelay.Storage.Workspaces
import ImpactRelay.Auth.Identity
import ImpactRelay.Host.Console
