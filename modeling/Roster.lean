import Roster.Batch
import Roster.Cache.Address
import Roster.Cache.Local
import Roster.Cache.Remote
import Roster.Call
import Roster.Command.Basic
import Roster.Command.Completion
import Roster.Command.Demo
import Roster.Command.Flag
import Roster.Command.Machine
import Roster.Command.Run
import Roster.Command.Serve
import Roster.Command.Stage
import Roster.Counter
import Roster.Decimal.Paired
import Roster.Decimal.Read
import Roster.Decimal.Shortest
import Roster.Email
import Roster.Fault
import Roster.Grouping
import Roster.Http.Body
import Roster.Http.Endpoint
import Roster.Http.Header
import Roster.Http.Reply
import Roster.Http.Server
import Roster.Http.Target
import Roster.Json.Decode
import Roster.Json.Parse
import Roster.Json.Value
import Roster.Limiter
import Roster.Log
import Roster.Log.Line
import Roster.Main
import Roster.Net.HostPort
import Roster.Net.Ip
import Roster.Net.Port
import Roster.Net.Url
import Roster.Page
import Roster.Program
import Roster.Proofs.Program
import Roster.Proofs.Services
import Roster.Proofs.Stores
import Roster.Role
import Roster.Secret.Blowfish
import Roster.Secret.Password
import Roster.Secret.PiTable
import Roster.Secret.Sha256
import Roster.Secret.Token
import Roster.Settings.Dotenv
import Roster.Settings.File
import Roster.Settings.Load
import Roster.Settings.Threshold
import Roster.Settings.Value
import Roster.SignIn
import Roster.Store.Column
import Roster.Store.Memory
import Roster.Store.Migration
import Roster.Store.Moment
import Roster.Store.Scripted
import Roster.Store.Sql
import Roster.Store.Table
import Roster.Text.Base64
import Roster.Text.Basic
import Roster.Text.CaseRun
import Roster.Text.Fold
import Roster.Text.FoldTable
import Roster.Text.Html
import Roster.Text.Lower
import Roster.Text.LowerTable
import Roster.Text.Numeral
import Roster.Text.PrintableTable
import Roster.Text.Quoted
import Roster.Text.Rune
import Roster.Text.Space
import Roster.Time.Calendar
import Roster.Time.Span
import Roster.Time.Timestamp
import Roster.Toml.Parse
import Roster.Toml.Value
import Roster.User
import Roster.Users
import Roster.Word
import Roster.World
import Roster.Yaml.Cursor
import Roster.Yaml.Event
import Roster.Yaml.Node
import Roster.Yaml.Piece
import Roster.Yaml.Resolve
import Roster.Yaml.Scalar
import Roster.Yaml.Token
import Roster.Yaml.Value
import Roster.Proofs.Worlds
import Roster.Proofs.Operations
import Roster.Proofs.Coherence
import Roster.Proofs.CacheIndependence
import Roster.Proofs.Endpoints
import Roster.Proofs.Access
import Roster.Proofs.Tokens
import Roster.Proofs.Interleaving
import Roster.Proofs.LostUpdates
import Roster.Proofs.Crossings
import Roster.Proofs.Contract
import Roster.Proofs.StoreAgreement
import Roster.Proofs.Utf8
import Roster.Proofs.Json
import Roster.Proofs.IssuedTokens
import Roster.Proofs.Sessions
import Roster.Proofs.AcceptedTokens
import Roster.Proofs.Validity
import Roster.Proofs.Attempts
import Roster.Proofs.RateLimit
import Roster.Proofs.HashSecrecy
import Roster.Proofs.FailedOperations
import Roster.Proofs.StoredUsers
import Roster.Proofs.TableSaves
import Roster.Proofs.CacheTransparency
import Roster.Proofs.Frames
import Roster.Proofs.Timestamps
import Roster.Proofs.Statuses
import Roster.Proofs.ServerErrors
import Roster.Proofs.HiddenFailures
import Roster.Proofs.EmailLookups
import Roster.Proofs.DriverFailures
import Roster.Proofs.Migrations
import Roster.Proofs.TimestampText
import Roster.Proofs.RemoteCache
import Roster.Proofs.ClientOptions
import Roster.Proofs.IdleKeys
import Roster.Proofs.Seeding
import Roster.Proofs.BatchOrder
import Roster.Proofs.CounterSchedules
import Roster.Proofs.Listings
import Roster.Proofs.FreshTokens
import Roster.Proofs.LoginOutcomes
import Roster.Proofs.PageMarkup
import Roster.Proofs.BucketLifetimes
import Roster.Proofs.EventStreams
import Roster.Proofs.Partitions
import Roster.Proofs.RosterPage
import Roster.Proofs.UnreadableEntries
import Roster.Proofs.CountJobs
import Roster.Proofs.EnvironmentSettings
import Roster.Proofs.LeastMatches
import Roster.Proofs.PathIds
