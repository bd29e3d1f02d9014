import CashMesh.Lib.Guarded
import CashMesh.Lib.Process
import CashMesh.Lib.Embedding
import CashMesh.Lib.Table
import CashMesh.Lib.Fencing
import CashMesh.Lib.Positional
import CashMesh.Lib.Feed
import CashMesh.StellarSettlement.Machine
import CashMesh.StellarSettlement.Types
import CashMesh.StellarSettlement.Store
import CashMesh.StellarSettlement.Calls
import CashMesh.StellarSettlement.Processor
import CashMesh.StellarSettlement.Safety
import CashMesh.StellarSettlement.System
import CashMesh.StellarSettlement.Amount
import CashMesh.StellarSettlement.Profile
import CashMesh.StellarSettlement.Deposits
import CashMesh.StellarSettlement.Crediting
import CashMesh.StellarSettlement.Scanner
import CashMesh.StellarSettlement.Scanning
import CashMesh.StellarSettlement.Horizon
import CashMesh.Acquirer.Types
import CashMesh.Acquirer.Domain
import CashMesh.Acquirer.PaymentRequest
import CashMesh.Acquirer.Schema
import CashMesh.Acquirer.Statements
import CashMesh.Acquirer.QuoteRecord
import CashMesh.Acquirer.Lifecycle
import CashMesh.Acquirer.LifecycleCommands
import CashMesh.Acquirer.Intake
import CashMesh.Acquirer.Evidence
import CashMesh.Acquirer.RecoveryJobs
import CashMesh.Acquirer.System
import CashMesh.Acquirer.StatementSpecs
import CashMesh.Acquirer.LifecycleReads
import CashMesh.Acquirer.Changes
import CashMesh.Acquirer.Events
import CashMesh.Acquirer.RecoveryHistory
import CashMesh.Acquirer.Claims
import CashMesh.Acquirer.Accounting
import CashMesh.Acquirer.Observations
import CashMesh.Acquirer.Decisions
import CashMesh.Acquirer.Readable
import CashMesh.Acquirer.Recorded
import CashMesh.Acquirer.Replays
import CashMesh.Acquirer.Idempotency
import CashMesh.Acquirer.RecoveryAttempts
import CashMesh.Acquirer.Quotes
import CashMesh.Acquirer.ProofStates
import CashMesh.Acquirer.BearerProofBundle
import CashMesh.Acquirer.InputFee
import CashMesh.StellarSettlement.Decimals
import CashMesh.Lib.FormUrlencoded
import CashMesh.StellarSettlement.Addresses
import CashMesh.StellarSettlement.Sep7
import CashMesh.StellarSettlement.Insertions
import CashMesh.StellarSettlement.StateJournal
import CashMesh.StellarSettlement.Incoming
import CashMesh.StellarSettlement.IncomingScans
import CashMesh.StellarSettlement.IncomingDiscipline
import CashMesh.StellarSettlement.IncomingStatuses
import CashMesh.Acquirer.Sep7Request
import CashMesh.StellarSettlement.Sep7Agreement
import CashMesh.Acquirer.QuoteRecording
import CashMesh.Acquirer.EventConstraints
import CashMesh.Acquirer.Writers
import CashMesh.Acquirer.ProofCustodyRecords
import CashMesh.Acquirer.CanonicalDestination
import CashMesh.Acquirer.KeysetConcurrency
import CashMesh.Domain.Ledger
import CashMesh.Domain.Invoice
import CashMesh.Acquirer.LeaseEligibility
import CashMesh.Lib.Sorting
import CashMesh.Acquirer.Reserving
import CashMesh.Acquirer.Reservations
import CashMesh.Acquirer.ReserveInterleavings
import CashMesh.Acquirer.KeysetSnapshots
import CashMesh.Acquirer.KeysetObservations
import CashMesh.Acquirer.KeysetObserver
import CashMesh.Acquirer.KeysetRepository
import CashMesh.Acquirer.KeysetHistory
import CashMesh.Acquirer.EventBound
import CashMesh.Acquirer.EventAppending
import CashMesh.Acquirer.EventExhaustion
import CashMesh.Lib.Url
import CashMesh.Acquirer.Endpoints
import CashMesh.Lib.Transaction
import CashMesh.Lib.Failures
import CashMesh.Acquirer.MeltDispatch
import CashMesh.Acquirer.MeltRecovery
import CashMesh.Acquirer.MeltRecoveryResults
import CashMesh.Acquirer.MeltAuthority
import CashMesh.Acquirer.MeltCoverage
import CashMesh.Acquirer.InvoiceService
import CashMesh.Acquirer.InvoiceCreations
import CashMesh.Acquirer.InvoiceResponses
