import TraceBackedMemory.Foundation.Text
import TraceBackedMemory.Foundation.Decimal
import TraceBackedMemory.Foundation.Dict
import TraceBackedMemory.Foundation.Raising
import TraceBackedMemory.Foundation.Json
import TraceBackedMemory.Foundation.JsonString
import TraceBackedMemory.Store.Records
import TraceBackedMemory.Store.Checks
import TraceBackedMemory.Store.Policy
import TraceBackedMemory.Store.Lifecycle
import TraceBackedMemory.Store.State
import TraceBackedMemory.Store.LessonsYaml
import TraceBackedMemory.Store.Completion
import TraceBackedMemory.Store.Operations
import TraceBackedMemory.Store.GateOperations
import TraceBackedMemory.Store.Runs
import TraceBackedMemory.Store.Effects
import TraceBackedMemory.Store.Steps
import TraceBackedMemory.Store.Invariant
import TraceBackedMemory.Store.Reachability
import TraceBackedMemory.Store.Atomicity
import TraceBackedMemory.Store.GateSafety
import TraceBackedMemory.Store.Provenance
import TraceBackedMemory.Store.RequestIds
import TraceBackedMemory.Store.RoundTrip
import TraceBackedMemory.Store.YamlLines
import TraceBackedMemory.Store.YamlRoundTrip
import TraceBackedMemory.Foundation.ChainedLog
import TraceBackedMemory.Foundation.Paging
import TraceBackedMemory.Foundation.OrderBy
import TraceBackedMemory.Ledger.Events
import TraceBackedMemory.Ledger.Port
import TraceBackedMemory.Ledger.Database
import TraceBackedMemory.Ledger.Append
import TraceBackedMemory.Ledger.Chain
import TraceBackedMemory.Ledger.Interleaving
import TraceBackedMemory.Store.Instants
import TraceBackedMemory.Store.Obsolescence
import TraceBackedMemory.Gate.Session
import TraceBackedMemory.Gate.SessionRuns
import TraceBackedMemory.Gate.Repository
import TraceBackedMemory.Gate.DueListing
import TraceBackedMemory.Gate.SteadyClock
import TraceBackedMemory.Gate.Advancing
import TraceBackedMemory.Gate.Exits
import TraceBackedMemory.Gate.FinalizationClaim
import TraceBackedMemory.Foundation.BoundedPass
import TraceBackedMemory.Gate.RecoveryWorker
import TraceBackedMemory.Outbox.Delivery
import TraceBackedMemory.Outbox.Steps
import TraceBackedMemory.Outbox.Ownership
import TraceBackedMemory.Outbox.ClaimDue
import TraceBackedMemory.Outbox.History
import TraceBackedMemory.Outbox.Workers
import TraceBackedMemory.Foundation.JsonText
import TraceBackedMemory.Foundation.JsonScan
import TraceBackedMemory.Foundation.JsonBounds
import TraceBackedMemory.Foundation.CappedWalk
import TraceBackedMemory.Projection.State
import TraceBackedMemory.Projection.Checkpoint
import TraceBackedMemory.Projection.Compare
import TraceBackedMemory.Projection.Exactness
import TraceBackedMemory.Foundation.SortedKeys
import TraceBackedMemory.Gate.SessionEvents
import TraceBackedMemory.Projection.Reducer
import TraceBackedMemory.Gate.SessionReducer
import TraceBackedMemory.Gate.SessionRevisions
import TraceBackedMemory.Gate.SessionParity
import TraceBackedMemory.Ledger.PayloadSchema
import TraceBackedMemory.Ledger.Payloads
import TraceBackedMemory.Ledger.SchemaDefinitions
import TraceBackedMemory.Ledger.SchemaSemantics
import TraceBackedMemory.Ledger.Registry
import TraceBackedMemory.Ledger.RegistryConsumption
import TraceBackedMemory.Ledger.EventContract
import TraceBackedMemory.Ledger.PayloadShapes
import TraceBackedMemory.Ledger.EventLoading
import TraceBackedMemory.Ledger.EventRoundTrip
import TraceBackedMemory.Ledger.EventDocuments
import TraceBackedMemory.Ledger.EventBuilding
import TraceBackedMemory.Ledger.EventSizes
import TraceBackedMemory.Gate.IdentifierDomains
import TraceBackedMemory.Outbox.Records
import TraceBackedMemory.Effects.Events
import TraceBackedMemory.Effects.Parsing
import TraceBackedMemory.Effects.Reducer
import TraceBackedMemory.Effects.Steps
import TraceBackedMemory.Foundation.RetryProtocol
import TraceBackedMemory.Effects.ProviderSafety
import TraceBackedMemory.Projection.Limits
import TraceBackedMemory.Gate.SessionLimits
import TraceBackedMemory.Git.Observations
import TraceBackedMemory.Git.Graph
import TraceBackedMemory.Git.Validation
import TraceBackedMemory.Git.Parsing
import TraceBackedMemory.Git.Updates
import TraceBackedMemory.Git.Steps
import TraceBackedMemory.Git.Consistency
import TraceBackedMemory.Semantic.Attempts
import TraceBackedMemory.Replay.Artifacts
import TraceBackedMemory.Semantic.Artifacts
import TraceBackedMemory.Semantic.EvidenceEvents
import TraceBackedMemory.Semantic.AttemptEvents
import TraceBackedMemory.Semantic.AttemptBuilding
import TraceBackedMemory.Semantic.AttemptReducer
import TraceBackedMemory.Semantic.Chains
import TraceBackedMemory.Semantic.ChainProjection
import TraceBackedMemory.Semantic.ArtifactStore
import TraceBackedMemory.Semantic.GateService
import TraceBackedMemory.Semantic.ArtifactTables
import TraceBackedMemory.Semantic.ArtifactConflicts
import TraceBackedMemory.Ledger.Verification
import TraceBackedMemory.Ledger.Recorded
import TraceBackedMemory.Foundation.AtomicClients
import TraceBackedMemory.Projection.Activations
import TraceBackedMemory.Projection.ActivationHistory
import TraceBackedMemory.Foundation.JsonRecord
import TraceBackedMemory.Migration.Contracts
import TraceBackedMemory.Migration.Documents
import TraceBackedMemory.Migration.Texts
import TraceBackedMemory.Migration.RoundTrip
import TraceBackedMemory.Migration.Decoding
import TraceBackedMemory.Migration.Planner
import TraceBackedMemory.Migration.OrderFree
import TraceBackedMemory.Migration.Rearrangement
import TraceBackedMemory.Migration.Loading
import TraceBackedMemory.Migration.Soundness
import TraceBackedMemory.Migration.Hazards
import TraceBackedMemory.Migration.Issues
import TraceBackedMemory.Migration.Totality
import TraceBackedMemory.Foundation.JsonLimits
import TraceBackedMemory.Authorization.Contracts
import TraceBackedMemory.Authorization.Decisions
import TraceBackedMemory.Authorization.Isolation
import TraceBackedMemory.Authorization.OrderFree
import TraceBackedMemory.Authorization.Loading
import TraceBackedMemory.Authorization.Decoding
import TraceBackedMemory.Authorization.RoundTrip
import TraceBackedMemory.Authorization.Reloading
import TraceBackedMemory.Authorization.Answers
import TraceBackedMemory.Publication.Evidence
import TraceBackedMemory.Publication.Revisions
import TraceBackedMemory.Publication.Events
import TraceBackedMemory.Publication.Store
import TraceBackedMemory.Publication.Steps
import TraceBackedMemory.Publication.Proposals
import TraceBackedMemory.Publication.Runs
import TraceBackedMemory.Publication.Growth
import TraceBackedMemory.Publication.Chain
import TraceBackedMemory.Publication.Tenants
import TraceBackedMemory.Publication.Duties
import TraceBackedMemory.Publication.Freezing
import TraceBackedMemory.Publication.Ordering
import TraceBackedMemory.Index.GitGraph
import TraceBackedMemory.Index.Tokens
import TraceBackedMemory.Foundation.JsonSize
import TraceBackedMemory.Store.TraceMonotone
import TraceBackedMemory.Store.MetricsAgree
import TraceBackedMemory.Store.Selection
import TraceBackedMemory.Store.Snippets
import TraceBackedMemory.Gate.Calendar
import TraceBackedMemory.Foundation.StackWalk
import TraceBackedMemory.Store.BudgetedWalks
import TraceBackedMemory.Foundation.Utf8
import TraceBackedMemory.Foundation.JsonBudget
import TraceBackedMemory.Gate.SessionDocuments
import TraceBackedMemory.Store.CommitAnchors
import TraceBackedMemory.Audit.Trail
