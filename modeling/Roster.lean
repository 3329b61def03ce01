import Roster.Backend
import Roster.ItemSet
import Roster.KeyOrder
import Roster.KeyTable
import Roster.Main
import Roster.Request
import Roster.RoleDiff
import Roster.Script
import Roster.Session
import Roster.Startup
import Roster.Store
import Roster.StoreError
import Roster.User
import Roster.Decimal.Binary64
import Roster.Decimal.Shortest
import Roster.Embedded.Engine
import Roster.Embedded.MemberKey
import Roster.Embedded.Operations
import Roster.Embedded.Store
import Roster.Files.OsError
import Roster.Files.Path
import Roster.Files.Stored
import Roster.Files.Tree
import Roster.Log.Event
import Roster.Log.Filter
import Roster.Log.Line
import Roster.Record.Fault
import Roster.Record.Lexeme
import Roster.Record.Reader
import Roster.Record.Sign
import Roster.Record.Skip
import Roster.Record.Writer
import Roster.Relational.Connection
import Roster.Relational.Database
import Roster.Relational.Engine
import Roster.Relational.Operations
import Roster.Relational.Schema
import Roster.Relational.Url
import Roster.Settings.Config
import Roster.Settings.EnvFile
import Roster.Settings.Environment
import Roster.Settings.StoreSettings
import Roster.Text.Alphanumeric
import Roster.Text.Blank
import Roster.Text.Bytes
import Roster.Text.Lowercase
import Roster.Text.Percent
import Roster.Text.Quoted
import Roster.Text.Ranges
import Roster.Text.Shapeless
import Roster.Toml.Item
import Roster.Toml.Lexeme
import Roster.Toml.Reader
import Roster.Proofs.ItemSet
import Roster.Proofs.KeyTable
import Roster.Proofs.Bytes
import Roster.Proofs.MemberKey
import Roster.Proofs.User
import Roster.Proofs.ItemPrograms
import Roster.Proofs.RecordRoundTrip
import Roster.Proofs.Script
import Roster.Proofs.Roll
import Roster.Proofs.Embedded.Index
import Roster.Proofs.Embedded.Runs
import Roster.Proofs.Embedded.Enumeration
import Roster.Proofs.Embedded.Keeping
import Roster.Proofs.Embedded.Lookup
import Roster.Proofs.Embedded.RoleLookup
import Roster.Proofs.Embedded.Refinement
import Roster.Proofs.Files.Tree
import Roster.Proofs.Files.Path
import Roster.Proofs.Files.Directories
import Roster.Proofs.Opening
import Roster.Proofs.Session
import Roster.Proofs.Relational.Joins
import Roster.Proofs.Relational.Statements
import Roster.Proofs.Relational.Refinement
import Roster.Proofs.Store
import Roster.Proofs.Faults
import Roster.Proofs.Embedded.Failures
import Roster.Proofs.Relational.Failures
import Roster.Proofs.Embedded.Phases
import Roster.Proofs.Embedded.System
import Roster.Proofs.Embedded.Concurrency
import Roster.Proofs.Embedded.Progress
import Roster.Proofs.Embedded.Serial
import Roster.Proofs.RecordText
import Roster.Proofs.Relational.Integrity
import Roster.Proofs.Remedies
import Roster.Proofs.Reachable
import Roster.Proofs.SameRequest
import Roster.Proofs.Rebuilding
import Roster.Proofs.Independence
import Roster.Proofs.Closing
import Roster.Proofs.Restarts
import Roster.Proofs.Settings.Loading
import Roster.Proofs.Toml.Keys
import Roster.Proofs.Settings.Parsing
import Roster.Proofs.Settings.Schemes
import Roster.Proofs.Embedded.Closing
import Roster.Proofs.Relational.Phases
import Roster.Proofs.Relational.System
import Roster.Proofs.Relational.Url
import Roster.Proofs.Relational.Pool
import Roster.Proofs.Relational.Concurrency
import Roster.Proofs.Relational.Progress
import Roster.Proofs.Relational.Serial
import Roster.Proofs.Relational.Reads
import Roster.Proofs.RoleDiff
import Roster.Proofs.RecordEnd
import Roster.Proofs.RecordGrammar
import Roster.Proofs.RecordSkipping
import Roster.Proofs.RecordMembers
