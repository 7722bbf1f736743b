import Corebank.Library.Keyed
import Corebank.Library.Relational
import Corebank.Library.Resume
import Corebank.Library.TwoPhase
import Corebank.Library.Snapshot
import Corebank.Library.Isolation
import Corebank.Library.Serial
import Corebank.Library.Interleaving
import Corebank.Library.RowInvariant
import Corebank.Library.Progress
import Corebank.Library.Mixed
import Corebank.Library.History
import Corebank.Library.Text
import Corebank.Library.Layers
import Corebank.Library.OrderBy
import Corebank.Library.Threads
import Corebank.Library.Book
import Corebank.Library.Removal
import Corebank.Library.Numeral
import Corebank.Exceptions
import Corebank.Values
import Corebank.Schema
import Corebank.Database
import Corebank.Session
import Corebank.Repositories
import Corebank.Services.Helpers
import Corebank.Services.Resources
import Corebank.Services.Users
import Corebank.Services.Transactions
import Corebank.Operations
import Corebank.Api
import Corebank.Concurrency
import Corebank.Sessions
import Corebank.Migrations
import Corebank.Text
import Corebank.Statements
import Corebank.Seeds
import Corebank.Config
import Corebank.Http
import Corebank.Pool
import Corebank.Demo
import Corebank.AccountCalls
import Corebank.Journal
import Corebank.Money
import Corebank.Proof.Integrity
import Corebank.Proof.Transfer
import Corebank.Proof.Conservation
import Corebank.Proof.Spelling
import Corebank.Proof.Atomicity
import Corebank.Proof.Constraints
import Corebank.Proof.Updates
import Corebank.Proof.Ownership
import Corebank.Proof.WriteIsolation
import Corebank.Proof.ReadIsolation
import Corebank.Proof.Jobs
import Corebank.Proof.SerialTransfers
import Corebank.Proof.Liveness
import Corebank.Proof.Resumption
import Corebank.Proof.TransferOutcome
import Corebank.Proof.MoneyRange
import Corebank.Proof.Listings
import Corebank.Proof.Reports
import Corebank.Proof.Credentials
import Corebank.Proof.Secrets
import Corebank.Proof.Blindness
import Corebank.Proof.Sessions
import Corebank.Proof.CardStatus
import Corebank.Proof.Tickets
import Corebank.Proof.Replay
import Corebank.Proof.Statements
import Corebank.Proof.Config
import Corebank.Proof.Seeds
import Corebank.Proof.Undo
import Corebank.Proof.Payments
import Corebank.Proof.Echo
import Corebank.Proof.Traffic
import Corebank.Proof.Pool
import Corebank.Proof.Demo
import Corebank.Proof.DemoProgress
import Corebank.Proof.DemoAtomic
import Corebank.Proof.AccountCalls
import Corebank.Proof.Journal
import Corebank.Proof.Removal
import Corebank.Proof.Money
