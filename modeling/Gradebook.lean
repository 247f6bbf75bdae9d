import Gradebook.Attempt
import Gradebook.Calendar
import Gradebook.Command.Arguments
import Gradebook.Command.Database.Basic
import Gradebook.Command.Database.OpenOptions
import Gradebook.Command.EnvFile
import Gradebook.Command.Error
import Gradebook.Command.Follower
import Gradebook.Command.Invocation
import Gradebook.Command.LogFilter
import Gradebook.Command.Run
import Gradebook.Command.Settings
import Gradebook.Fault
import Gradebook.Identifier
import Gradebook.Jobs.Feed
import Gradebook.Jobs.Queue
import Gradebook.Jobs.Rehearsal
import Gradebook.Jobs.Service
import Gradebook.Jobs.Status
import Gradebook.Json.Printer
import Gradebook.Json.Reader
import Gradebook.Json.Record
import Gradebook.Json.Tagged
import Gradebook.Json.Value
import Gradebook.Main
import Gradebook.Marksheet.Entry
import Gradebook.Marksheet.Header
import Gradebook.Marksheet.Place
import Gradebook.Marksheet.Scanner
import Gradebook.Percentage
import Gradebook.Period
import Gradebook.Portal.Client
import Gradebook.Portal.Envelope
import Gradebook.Portal.Error
import Gradebook.Portal.Responder
import Gradebook.Proofs.Additions
import Gradebook.Proofs.Attempt
import Gradebook.Proofs.Calendar
import Gradebook.Proofs.Calendar.Place
import Gradebook.Proofs.Command.Arguments
import Gradebook.Proofs.Command.Following
import Gradebook.Proofs.Command.Periods
import Gradebook.Proofs.Command.Settings
import Gradebook.Proofs.Command.Watch
import Gradebook.Proofs.Except
import Gradebook.Proofs.Jobs.Cancellation
import Gradebook.Proofs.Jobs.Closing
import Gradebook.Proofs.Jobs.Delivery
import Gradebook.Proofs.Jobs.Lifecycle
import Gradebook.Proofs.Jobs.Outcomes
import Gradebook.Proofs.Jobs.Queue
import Gradebook.Proofs.Jobs.Rehearsal.Acts
import Gradebook.Proofs.Jobs.Rehearsal.Readers
import Gradebook.Proofs.Jobs.Rehearsal.Tasks
import Gradebook.Proofs.Jobs.Runs
import Gradebook.Proofs.Jobs.Scene
import Gradebook.Proofs.Jobs.Service
import Gradebook.Proofs.Jobs.Table
import Gradebook.Proofs.Json.Record
import Gradebook.Proofs.Json.Roundtrip
import Gradebook.Proofs.Json.Tagged
import Gradebook.Proofs.Json.Token
import Gradebook.Proofs.Marksheet.Account
import Gradebook.Proofs.Marksheet.Cursor
import Gradebook.Proofs.Marksheet.Grammar
import Gradebook.Proofs.Marksheet.Header
import Gradebook.Proofs.Marksheet.Layout
import Gradebook.Proofs.Marksheet.Resumption
import Gradebook.Proofs.Marksheet.Roundtrip
import Gradebook.Proofs.Marksheet.Row
import Gradebook.Proofs.Marksheet.Token
import Gradebook.Proofs.Period
import Gradebook.Proofs.Portal.Client
import Gradebook.Proofs.Refresh
import Gradebook.Proofs.Store.Admission
import Gradebook.Proofs.Store.Built
import Gradebook.Proofs.Store.Coverage
import Gradebook.Proofs.Store.Enrollment
import Gradebook.Proofs.Store.Frame
import Gradebook.Proofs.Store.History
import Gradebook.Proofs.Store.Later
import Gradebook.Proofs.Store.Lookup
import Gradebook.Proofs.Store.Marks
import Gradebook.Proofs.Store.Names
import Gradebook.Proofs.Store.Paging
import Gradebook.Proofs.Store.Periods
import Gradebook.Proofs.Store.Profile
import Gradebook.Proofs.Store.Query
import Gradebook.Proofs.Store.Recording
import Gradebook.Proofs.Store.References
import Gradebook.Proofs.Store.Selection
import Gradebook.Proofs.Store.Share
import Gradebook.Proofs.Store.Sound
import Gradebook.Proofs.Store.Students
import Gradebook.Proofs.Sync.Calls
import Gradebook.Proofs.Sync.Commuting
import Gradebook.Proofs.Sync.Distinct
import Gradebook.Proofs.Sync.Fetch
import Gradebook.Proofs.Sync.Finding
import Gradebook.Proofs.Sync.Gathering
import Gradebook.Proofs.Sync.Idempotence
import Gradebook.Proofs.Sync.Interleaving
import Gradebook.Proofs.Sync.Local
import Gradebook.Proofs.Sync.Lookups
import Gradebook.Proofs.Sync.Marks
import Gradebook.Proofs.Sync.Merge
import Gradebook.Proofs.Sync.Periods
import Gradebook.Proofs.Sync.Plan
import Gradebook.Proofs.Sync.Purge
import Gradebook.Proofs.Sync.Reconciliation
import Gradebook.Proofs.Sync.Schedule
import Gradebook.Proofs.Sync.Separate
import Gradebook.Proofs.Sync.Session
import Gradebook.Proofs.Sync.Students
import Gradebook.Proofs.Sync.Summary
import Gradebook.Proofs.Sync.Turns
import Gradebook.Proofs.Text
import Gradebook.Proofs.Timestamp.Date
import Gradebook.Proofs.Timestamp.Text
import Gradebook.Proofs.Wire.Jobs
import Gradebook.Proofs.Wire.School
import Gradebook.Proofs.Wire.Texts
import Gradebook.Ranking
import Gradebook.Refresh
import Gradebook.Store.Basic
import Gradebook.Store.Marks
import Gradebook.Store.Students
import Gradebook.Store.Subjects
import Gradebook.Student
import Gradebook.Sync.Fetch
import Gradebook.Sync.Marks
import Gradebook.Sync.Session
import Gradebook.Sync.Students
import Gradebook.Text.Alphanumeric
import Gradebook.Text.Blank
import Gradebook.Text.CharRange
import Gradebook.Text.Digit
import Gradebook.Text.Lowercase
import Gradebook.Text.Numeral
import Gradebook.Text.Pattern.Basic
import Gradebook.Text.Pattern.Class
import Gradebook.Text.Pattern.Escape
import Gradebook.Text.Quoted
import Gradebook.Text.Split
import Gradebook.Text.Utf8
import Gradebook.Timestamp
import Gradebook.Wire.Jobs
import Gradebook.Wire.School
