import SqlBuilder.Config.Source
import SqlBuilder.Session.Start
import SqlBuilder.Proofs.Session.ClosedScope
import SqlBuilder.Proofs.Session.Compile
import SqlBuilder.Proofs.Driver.Call
import SqlBuilder.Proofs.Session.Executing
import SqlBuilder.Proofs.Session.Transacting
import SqlBuilder.Proofs.Transaction.Stage
import SqlBuilder.Proofs.Session.Callback
import SqlBuilder.Proofs.Transaction.Course
import SqlBuilder.Proofs.Transaction.Control
import SqlBuilder.Proofs.Transaction.Outcome
import SqlBuilder.Proofs.Transaction.Flat
import SqlBuilder.Proofs.Transaction.Atomic
import SqlBuilder.Proofs.Session.Lifecycle
import SqlBuilder.Proofs.Session.Uniting
import SqlBuilder.Proofs.Placeholder.Marks
import SqlBuilder.Proofs.Session.Limit
import SqlBuilder.Proofs.Literal
import SqlBuilder.Proofs.Driver.Discipline
import SqlBuilder.Proofs.Driver.Exposure
import SqlBuilder.Proofs.Session.Engines
import SqlBuilder.Proofs.Session.GeneratedId
import SqlBuilder.Proofs.Driver.Agreement
import SqlBuilder.Proofs.Hooks.OneHook
import SqlBuilder.Proofs.Registry
import SqlBuilder.Proofs.Statement.Unambiguous
import SqlBuilder.Proofs.Session.LastStatement
import SqlBuilder.Proofs.Transaction.Batch
import SqlBuilder.Proofs.Session.Sheltering
import SqlBuilder.Proofs.Session.Ledger
import SqlBuilder.Proofs.Session.Footing
import SqlBuilder.Proofs.Session.Summarizing
import SqlBuilder.Proofs.Equality
import SqlBuilder.Proofs.Session.Aliases
import SqlBuilder.Proofs.Session.Aliasing
import SqlBuilder.Proofs.Session.Listing
import SqlBuilder.Proofs.Session.Qualifying
import SqlBuilder.Proofs.Transaction.Closing
import SqlBuilder.Proofs.Hooks.Aggregates
import SqlBuilder.Proofs.Session.Upserting
import SqlBuilder.Proofs.Session.Joining
import SqlBuilder.Proofs.Session.Filtering
import SqlBuilder.Proofs.Session.Terminating
import SqlBuilder.Proofs.Statement.Joins
import SqlBuilder.Proofs.Driver.InStep
import SqlBuilder.Proofs.Session.Connecting
import SqlBuilder.Proofs.Session.Offering
