import Disburse.Api.Body
import Disburse.Api.MediaType
import Disburse.Api.Request
import Disburse.Api.Server
import Disburse.Config
import Disburse.Crypto.Ed25519
import Disburse.Crypto.Sha512
import Disburse.Database.Address
import Disburse.Database.Disk
import Disburse.Database.FileUri
import Disburse.Database.Location
import Disburse.Decimal.Basic
import Disburse.Decimal.Reader
import Disburse.Engine.Execution
import Disburse.Engine.Interface
import Disburse.Engine.Service
import Disburse.Engine.Sweep
import Disburse.Error
import Disburse.Event.Audit
import Disburse.Event.Basic
import Disburse.Event.Bus
import Disburse.Executor
import Disburse.Http.Exchange
import Disburse.Http.Status
import Disburse.Http.Url
import Disburse.Json.Reader
import Disburse.Json.Record
import Disburse.Json.Value
import Disburse.Json.Writer
import Disburse.Ledger.Client
import Disburse.Ledger.Interface
import Disburse.Ledger.Response
import Disburse.Ledger.Signer
import Disburse.Ledger.Transfer
import Disburse.Outcome
import Disburse.Payout.Basic
import Disburse.Payout.Codec
import Disburse.Payout.Id
import Disburse.Payout.Status
import Disburse.Program
import Disburse.Proofs.Concurrency.Alike
import Disburse.Proofs.Concurrency.Conduct
import Disburse.Proofs.Concurrency.Discipline
import Disburse.Proofs.Concurrency.Lives
import Disburse.Proofs.Concurrency.Machine
import Disburse.Proofs.Concurrency.Solo
import Disburse.Proofs.Concurrency.Task
import Disburse.Proofs.Concurrency.Turns
import Disburse.Proofs.Config.Dates
import Disburse.Proofs.Config.Threshold
import Disburse.Proofs.Decimal.Reader
import Disburse.Proofs.Engine.Announcements
import Disburse.Proofs.Engine.Budget
import Disburse.Proofs.Engine.Calm
import Disburse.Proofs.Engine.Chapters
import Disburse.Proofs.Engine.Checkpoint
import Disburse.Proofs.Engine.Claimable
import Disburse.Proofs.Engine.Claims
import Disburse.Proofs.Engine.Conduct
import Disburse.Proofs.Engine.Contention
import Disburse.Proofs.Engine.Copies
import Disburse.Proofs.Engine.Creation
import Disburse.Proofs.Engine.Custody
import Disburse.Proofs.Engine.Demands
import Disburse.Proofs.Engine.Dispatch
import Disburse.Proofs.Engine.Executions
import Disburse.Proofs.Engine.FailureEvents
import Disburse.Proofs.Engine.Faults
import Disburse.Proofs.Engine.Independence
import Disburse.Proofs.Engine.Interleaving
import Disburse.Proofs.Engine.Journal
import Disburse.Proofs.Engine.LostUpdate
import Disburse.Proofs.Engine.Observance
import Disburse.Proofs.Engine.OnePayout
import Disburse.Proofs.Engine.PerfectLedger
import Disburse.Proofs.Engine.PerfectServices
import Disburse.Proofs.Engine.Provenance
import Disburse.Proofs.Engine.RecordLaws
import Disburse.Proofs.Engine.Recovery
import Disburse.Proofs.Engine.Requests
import Disburse.Proofs.Engine.Resubmission
import Disburse.Proofs.Engine.Retries
import Disburse.Proofs.Engine.Scope
import Disburse.Proofs.Engine.Server
import Disburse.Proofs.Engine.Settlement
import Disburse.Proofs.Engine.SingleTransfer
import Disburse.Proofs.Engine.Sweeps
import Disburse.Proofs.Engine.Timely
import Disburse.Proofs.Engine.Traces
import Disburse.Proofs.Engine.Transitions
import Disburse.Proofs.Engine.Troubled
import Disburse.Proofs.Engine.Undisturbed
import Disburse.Proofs.Engine.Unreadable
import Disburse.Proofs.Engine.Wiring
import Disburse.Proofs.Event.Audit
import Disburse.Proofs.Json.Record
import Disburse.Proofs.Json.Text
import Disburse.Proofs.Ledger.Acceptance
import Disburse.Proofs.Ledger.Attempt
import Disburse.Proofs.Ledger.Client
import Disburse.Proofs.Ledger.Confirmation
import Disburse.Proofs.Ledger.Envelope
import Disburse.Proofs.Ledger.Executor
import Disburse.Proofs.Payout.Bookkeeping
import Disburse.Proofs.Payout.Budget
import Disburse.Proofs.Payout.Codec
import Disburse.Proofs.Payout.History
import Disburse.Proofs.Payout.Id
import Disburse.Proofs.Payout.Legal
import Disburse.Proofs.Payout.Schedule
import Disburse.Proofs.Payout.Stale
import Disburse.Proofs.Payout.Times
import Disburse.Proofs.Payout.Transition
import Disburse.Proofs.Store.Agreement
import Disburse.Proofs.Store.Batch
import Disburse.Proofs.Store.Memory
import Disburse.Proofs.Store.Mirror
import Disburse.Proofs.Store.Pages
import Disburse.Proofs.Store.Row
import Disburse.Proofs.Store.Table
import Disburse.Proofs.Text.Base64
import Disburse.Proofs.Text.Hex
import Disburse.Proofs.Text.Numeral
import Disburse.Proofs.Text.Percent
import Disburse.Proofs.Time.Calendar
import Disburse.Proofs.Time.Instant
import Disburse.Proofs.Time.Range
import Disburse.Proofs.Time.Stamp
import Disburse.Proofs.Time.Wait
import Disburse.Rehearsal.Faults
import Disburse.Rehearsal.Ledger
import Disburse.Rehearsal.Network
import Disburse.Rehearsal.Step
import Disburse.Rehearsal.Transfers
import Disburse.Rehearsal.World
import Disburse.Store.Call
import Disburse.Store.Cell
import Disburse.Store.Distinct
import Disburse.Store.Filter
import Disburse.Store.Memory
import Disburse.Store.Quantity
import Disburse.Store.Row
import Disburse.Store.Table
import Disburse.Text.Base64
import Disburse.Text.Characters
import Disburse.Text.Hex
import Disburse.Text.Numeral
import Disburse.Text.Percent
import Disburse.Text.Scientific
import Disburse.Text.Utf8
import Disburse.Time.Calendar
import Disburse.Time.Instant
import Disburse.Time.Span
import Disburse.Time.Stamp
import Disburse.Time.Wait
