import Steward.Account
import Steward.Backoff
import Steward.Cache
import Steward.CommandLine
import Steward.Config
import Steward.Config.Document
import Steward.Config.Load
import Steward.Config.Report
import Steward.Credential
import Steward.Credential.Keeper
import Steward.Credential.Mishap
import Steward.Credential.Store
import Steward.Credential.Token
import Steward.Credential.Window
import Steward.Decimal.Shortest
import Steward.Duration
import Steward.Duties
import Steward.Duties.Crew
import Steward.Endpoint.Accounts
import Steward.Endpoint.Tokens
import Steward.Exposition
import Steward.Failure
import Steward.Files
import Steward.Health
import Steward.Health.Inquiry
import Steward.Json
import Steward.Json.Fields
import Steward.Json.Printer
import Steward.Json.Reader
import Steward.Log.Filter
import Steward.Main
import Steward.Metrics
import Steward.Moment
import Steward.Net.Base64
import Steward.Net.Exchange
import Steward.Net.Percent
import Steward.Net.Punycode
import Steward.Net.SocketAddress
import Steward.Net.Status
import Steward.Net.Url
import Steward.Notice
import Steward.Paging
import Steward.Paging.Streams
import Steward.Proofs.Backoff
import Steward.Proofs.Cache.Change
import Steward.Proofs.Cache.Course
import Steward.Proofs.Cache.Invalidation
import Steward.Proofs.Cache.Life
import Steward.Proofs.Cache.Line
import Steward.Proofs.Cache.Outcome
import Steward.Proofs.Cache.Pending
import Steward.Proofs.Cache.Sharing
import Steward.Proofs.Cache.Slot
import Steward.Proofs.Config.Address
import Steward.Proofs.Config.Checks
import Steward.Proofs.Config.Loading
import Steward.Proofs.Credential.Attempt
import Steward.Proofs.Credential.Custody
import Steward.Proofs.Credential.Document
import Steward.Proofs.Credential.Expiry
import Steward.Proofs.Credential.Ownership
import Steward.Proofs.Credential.Renewal
import Steward.Proofs.Credential.Replacing
import Steward.Proofs.Credential.Trials
import Steward.Proofs.Duties.Effect
import Steward.Proofs.Duties.Ends
import Steward.Proofs.Duties.Reports
import Steward.Proofs.Duties.Staffed
import Steward.Proofs.Endpoint.Losses
import Steward.Proofs.Files
import Steward.Proofs.Health.Truth
import Steward.Proofs.Json.Literals
import Steward.Proofs.Json.Reading
import Steward.Proofs.Keeper.Bringing
import Steward.Proofs.Keeper.Change
import Steward.Proofs.Keeper.Consistent
import Steward.Proofs.Keeper.Course
import Steward.Proofs.Keeper.Life
import Steward.Proofs.Keeper.Line
import Steward.Proofs.Keeper.Outcome
import Steward.Proofs.Keeper.Passing
import Steward.Proofs.Keeper.Persistence
import Steward.Proofs.Keeper.Phase
import Steward.Proofs.Keeper.Provenance
import Steward.Proofs.Keeper.Replacement
import Steward.Proofs.Keeper.Requests
import Steward.Proofs.Keeper.Restart
import Steward.Proofs.Keeper.Restoring
import Steward.Proofs.Keeper.Sharing
import Steward.Proofs.Keeper.Turns
import Steward.Proofs.Line
import Steward.Proofs.Paging.Served
import Steward.Proofs.Paging.Streams
import Steward.Proofs.Paging.Traversal
import Steward.Proofs.Run
import Steward.Proofs.Scheduler.Accounts
import Steward.Proofs.Scheduler.Bodies
import Steward.Proofs.Scheduler.Books
import Steward.Proofs.Scheduler.Callers
import Steward.Proofs.Scheduler.Change
import Steward.Proofs.Scheduler.Closing
import Steward.Proofs.Scheduler.Failing
import Steward.Proofs.Scheduler.Jobs
import Steward.Proofs.Scheduler.Life
import Steward.Proofs.Scheduler.Marks
import Steward.Proofs.Scheduler.Pool
import Steward.Proofs.Scheduler.Shutdown
import Steward.Proofs.Scheduler.Stopping
import Steward.Proofs.Scheduler.Timed
import Steward.Proofs.Scheduler.Watch
import Steward.Proofs.Service.Course
import Steward.Proofs.Session.Retrying
import Steward.Proofs.Session.Step
import Steward.Proofs.Source.Current
import Steward.Proofs.Source.Listening
import Steward.Proofs.Tallies
import Steward.Proofs.Tenant.Announced
import Steward.Proofs.Tenant.Notices
import Steward.Proofs.Text.Utf8
import Steward.Record
import Steward.Scheduler
import Steward.Scheduler.Permits
import Steward.Scheduler.Task
import Steward.Secret
import Steward.Service
import Steward.Service.Report
import Steward.Session
import Steward.Session.Desk
import Steward.Session.Syncs
import Steward.Simulation.Access
import Steward.Simulation.Accounts
import Steward.Simulation.Caches
import Steward.Simulation.Engine
import Steward.Simulation.Play
import Steward.Simulation.Scene
import Steward.Simulation.Sources
import Steward.Simulation.Steps
import Steward.Simulation.Tasks
import Steward.Simulation.Tenant
import Steward.Simulation.World
import Steward.Source
import Steward.Source.Mirror
import Steward.Strategy
import Steward.Tenant
import Steward.Text.Blank
import Steward.Text.Hidden
import Steward.Text.Quoted
import Steward.Text.Search
import Steward.Text.Utf8
import Steward.Toml
import Steward.Toml.Literal
import Steward.Toml.Reader
import Steward.Toml.Text
import Steward.Turnstile
