import RecordStore.Adapter.Change
import RecordStore.Adapter.Find
import RecordStore.Adapter.Lifecycle
import RecordStore.Log.Console
import RecordStore.Proofs.Query.Discipline
import RecordStore.Proofs.Query.Meaning
import RecordStore.Proofs.Record.RoundTrip
import RecordStore.Proofs.Request.Texts
import RecordStore.Script.Store
import RecordStore.Settings.Load
import RecordStore.Proofs.Sql.Drivers
import RecordStore.Proofs.Mutation.Insert
import RecordStore.Proofs.Query.SearchText
import RecordStore.Proofs.Mutation.Assignments
import RecordStore.Proofs.Mutation.Numbers
import RecordStore.Proofs.Request.Delivery
import RecordStore.Proofs.Mutation.UpdateText
import RecordStore.Proofs.Mutation.Execution
import RecordStore.Proofs.Mutation.InsertText
import RecordStore.Proofs.Record.Batch
import RecordStore.Proofs.Adapter.Create
import RecordStore.Proofs.Adapter.Update
import RecordStore.Proofs.Store.Exchange
import RecordStore.Proofs.Store.Completion
import RecordStore.Proofs.Connector.Lifetime
import RecordStore.Proofs.Connector.Exclusion
import RecordStore.Proofs.Adapter.Operations
import RecordStore.Proofs.Adapter.Effects
import RecordStore.Proofs.Adapter.Sessions
import RecordStore.Proofs.Adapter.Isolation
import RecordStore.Proofs.Adapter.Completion
import RecordStore.Proofs.Adapter.Connecting
import RecordStore.Proofs.Adapter.Keys
import RecordStore.Proofs.Connector.Failures
import RecordStore.Proofs.Mutation.Replacement
import RecordStore.Proofs.Adapter.Failures
import RecordStore.Proofs.Connector.Surfacing
import RecordStore.Proofs.Settings.Load
import RecordStore.Proofs.Query.SearchLexemes
import RecordStore.Proofs.Query.Decision
import RecordStore.Proofs.Query.Window
import RecordStore.Proofs.Adapter.Window
import RecordStore.Proofs.Store.Hosting
import RecordStore.Proofs.Connector.Loans
import RecordStore.Proofs.Adapter.Disconnected
import RecordStore.Proofs.Adapter.Release
import RecordStore.Proofs.Query.Presentation
import RecordStore.Proofs.Schema.Database
import RecordStore.Proofs.Schema.Reader
import RecordStore.Proofs.Store.Scripts
import RecordStore.Proofs.Adapter.Bootstrap
import RecordStore.Proofs.Record.Structured
import RecordStore.Proofs.Sql.Percent
import RecordStore.Proofs.Mutation.Removal
import RecordStore.Proofs.Request.Names
import RecordStore.Proofs.Adapter.Inserts
import RecordStore.Proofs.Schema.Links
import RecordStore.Proofs.Sql.Bounds
import RecordStore.Proofs.Settings.Precedence
import RecordStore.Proofs.Adapter.Arrangement
import RecordStore.Proofs.Query.Projection
import RecordStore.Proofs.Adapter.Found
import RecordStore.Proofs.Record.RandomKeys
