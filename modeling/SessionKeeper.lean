import SessionKeeper.Binary64
import SessionKeeper.Binary64.Text
import SessionKeeper.Calendar
import SessionKeeper.Cli.Command
import SessionKeeper.Cli.Execution
import SessionKeeper.Cli.Grammar
import SessionKeeper.Cli.Identifier
import SessionKeeper.Cli.Output
import SessionKeeper.Cli.Rows
import SessionKeeper.Cli.Run
import SessionKeeper.Cli.Table
import SessionKeeper.Config.Document
import SessionKeeper.Config.Files
import SessionKeeper.Config.KeyPath
import SessionKeeper.Config.Load
import SessionKeeper.Config.Settings
import SessionKeeper.Config.Toml
import SessionKeeper.Config.Toml.Scalars
import SessionKeeper.Config.Toml.Strings
import SessionKeeper.Config.Toml.Tree
import SessionKeeper.Config.Value
import SessionKeeper.Daemon.Run
import SessionKeeper.Database.Address
import SessionKeeper.Database.Client
import SessionKeeper.Database.Failure
import SessionKeeper.Database.Link
import SessionKeeper.Database.Migrations
import SessionKeeper.Database.Posts
import SessionKeeper.Database.Schema
import SessionKeeper.Database.Script
import SessionKeeper.Database.Sessions
import SessionKeeper.Database.Store
import SessionKeeper.Database.Tokens
import SessionKeeper.Database.Users
import SessionKeeper.Error
import SessionKeeper.Instant
import SessionKeeper.Instant.Text
import SessionKeeper.Json
import SessionKeeper.Json.Decode
import SessionKeeper.Json.Reader
import SessionKeeper.Log
import SessionKeeper.Main
import SessionKeeper.Opaque
import SessionKeeper.Page
import SessionKeeper.Post
import SessionKeeper.Prog
import SessionKeeper.Record
import SessionKeeper.Schedule
import SessionKeeper.Service.Chain
import SessionKeeper.Service.Cleanup
import SessionKeeper.Service.CleanupJob
import SessionKeeper.Service.Effect
import SessionKeeper.Service.Sessions
import SessionKeeper.Service.Surroundings
import SessionKeeper.Service.Tokens
import SessionKeeper.Session
import SessionKeeper.Sha256
import SessionKeeper.Store.Memory
import SessionKeeper.Store.Rehearsal
import SessionKeeper.Store.Request
import SessionKeeper.Text.Blank
import SessionKeeper.Text.Digits
import SessionKeeper.Text.Width
import SessionKeeper.Token
import SessionKeeper.User
import SessionKeeper.Uuid
import SessionKeeper.Validation
import SessionKeeper.Proofs.Cli.Lifetimes
import SessionKeeper.Proofs.Cli.Printing
import SessionKeeper.Proofs.Cli.Users
import SessionKeeper.Proofs.Database.Address
import SessionKeeper.Proofs.Database.Agreement
import SessionKeeper.Proofs.Database.Binding
import SessionKeeper.Proofs.Database.Blame
import SessionKeeper.Proofs.Database.Catalogue
import SessionKeeper.Proofs.Database.Constraints
import SessionKeeper.Proofs.Database.Content
import SessionKeeper.Proofs.Database.Discipline
import SessionKeeper.Proofs.Database.Failures
import SessionKeeper.Proofs.Database.Issuance
import SessionKeeper.Proofs.Database.LockOrder
import SessionKeeper.Proofs.Database.Rotation
import SessionKeeper.Proofs.Database.Sending
import SessionKeeper.Proofs.Database.Server
import SessionKeeper.Proofs.Database.Statements
import SessionKeeper.Proofs.Database.Tables
import SessionKeeper.Proofs.Database.Trace
import SessionKeeper.Proofs.Database.Transactions
import SessionKeeper.Proofs.Database.UserChanges
import SessionKeeper.Proofs.Database.Writes
import SessionKeeper.Proofs.Execution
import SessionKeeper.Proofs.Instant
import SessionKeeper.Proofs.Json.RoundTrip
import SessionKeeper.Proofs.Json.Scalars
import SessionKeeper.Proofs.Service.Acceptance
import SessionKeeper.Proofs.Service.Attempts
import SessionKeeper.Proofs.Service.Binding
import SessionKeeper.Proofs.Service.Budget
import SessionKeeper.Proofs.Service.Conduct
import SessionKeeper.Proofs.Service.Constraints
import SessionKeeper.Proofs.Service.Custody
import SessionKeeper.Proofs.Service.Cycle
import SessionKeeper.Proofs.Service.Decision
import SessionKeeper.Proofs.Service.Departure
import SessionKeeper.Proofs.Service.Draws
import SessionKeeper.Proofs.Service.Exchange
import SessionKeeper.Proofs.Service.Finality
import SessionKeeper.Proofs.Service.Grounds
import SessionKeeper.Proofs.Service.Handover
import SessionKeeper.Proofs.Service.History
import SessionKeeper.Proofs.Service.Inspection
import SessionKeeper.Proofs.Service.Isolation
import SessionKeeper.Proofs.Service.Lifecycle
import SessionKeeper.Proofs.Service.Lifetimes
import SessionKeeper.Proofs.Service.Lineage
import SessionKeeper.Proofs.Service.Opening
import SessionKeeper.Proofs.Service.Overlap
import SessionKeeper.Proofs.Service.Requests
import SessionKeeper.Proofs.Service.Run
import SessionKeeper.Proofs.Service.Scene
import SessionKeeper.Proofs.Service.SingleUse
import SessionKeeper.Proofs.Service.Tangle
import SessionKeeper.Proofs.Service.Trail
import SessionKeeper.Proofs.Service.Trimming
import SessionKeeper.Proofs.Service.Unobserved
import SessionKeeper.Proofs.Service.Walk
import SessionKeeper.Proofs.Store.Ascent
import SessionKeeper.Proofs.Store.Binding
import SessionKeeper.Proofs.Store.Causes
import SessionKeeper.Proofs.Store.Chains
import SessionKeeper.Proofs.Store.Deletion
import SessionKeeper.Proofs.Store.Departure
import SessionKeeper.Proofs.Store.Effect
import SessionKeeper.Proofs.Store.Granting
import SessionKeeper.Proofs.Store.Isolation
import SessionKeeper.Proofs.Store.Operation
import SessionKeeper.Proofs.Store.Orderly
import SessionKeeper.Proofs.Store.Outcome
import SessionKeeper.Proofs.Store.Overwriting
import SessionKeeper.Proofs.Store.Purging
import SessionKeeper.Proofs.Store.Reuse
import SessionKeeper.Proofs.Store.Rows
import SessionKeeper.Proofs.Store.Sessions
import SessionKeeper.Proofs.Store.Structure
import SessionKeeper.Proofs.Store.Trimming
import SessionKeeper.Proofs.Text.Trim
