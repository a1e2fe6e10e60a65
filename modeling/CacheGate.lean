import CacheGate.AccessError
import CacheGate.CommandLine
import CacheGate.Conditions
import CacheGate.EntityTag
import CacheGate.Entry
import CacheGate.Http.Headers
import CacheGate.Http.Method
import CacheGate.Http.Request
import CacheGate.Http.Response
import CacheGate.Http.Uri
import CacheGate.Json.Basic
import CacheGate.Json.Parser
import CacheGate.Json.Printer
import CacheGate.Json.Quoted
import CacheGate.KeyListing
import CacheGate.Log.Event
import CacheGate.Log.Quoted
import CacheGate.Main
import CacheGate.MediaType.Accept
import CacheGate.MediaType.Basic
import CacheGate.MediaType.Parser
import CacheGate.Negotiation
import CacheGate.Net.SocketAddr
import CacheGate.Number.Double
import CacheGate.Number.FloatText
import CacheGate.Number.Rounding
import CacheGate.Number.SipHash
import CacheGate.Route
import CacheGate.Scenario
import CacheGate.Serve.Change
import CacheGate.Serve.Dispatch
import CacheGate.Serve.Handler
import CacheGate.Serve.Listing
import CacheGate.Serve.Mount
import CacheGate.Serve.Read
import CacheGate.Serve.Service
import CacheGate.Serve.Web
import CacheGate.Settings.Basic
import CacheGate.Settings.Files
import CacheGate.Settings.Layers
import CacheGate.Settings.Raw
import CacheGate.Settings.Setup
import CacheGate.StartupError
import CacheGate.Store.Call
import CacheGate.Store.Caller
import CacheGate.Store.Conversion
import CacheGate.Store.Error
import CacheGate.Store.Memory
import CacheGate.Text.Decimal
import CacheGate.Text.Invisible
import CacheGate.Text.Percent
import CacheGate.Text.Trim
import CacheGate.Text.Utf8
import CacheGate.Time.Date
import CacheGate.Time.HttpDate
import CacheGate.Time.Instant
import CacheGate.WriteExpiration
import CacheGate.Xml
import CacheGate.Proofs.Store.Expiry
import CacheGate.Proofs.Store.Calls
import CacheGate.Proofs.Handler.Exchange
import CacheGate.Proofs.Handler.Interleaving
import CacheGate.Proofs.Handler.Solo
import CacheGate.Proofs.Handler.Aftermath
import CacheGate.Proofs.Http.Response
import CacheGate.Proofs.Serve.Reading
import CacheGate.Proofs.Serve.ReadTag
import CacheGate.Proofs.Serve.Changing
import CacheGate.Proofs.Serve.CheckedChange
import CacheGate.Proofs.Serve.Intact
import CacheGate.Proofs.Store.Creation
import CacheGate.Proofs.Negotiation
import CacheGate.Proofs.Serve.Alone
import CacheGate.Proofs.Route
import CacheGate.Proofs.Serve.History
import CacheGate.Proofs.Serve.ReadYourWrites
import CacheGate.Proofs.Text.Decimal
import CacheGate.Proofs.Text.Trim
import CacheGate.Proofs.Text.Utf8
import CacheGate.Proofs.Json.Strings
import CacheGate.Proofs.Xml
import CacheGate.Proofs.KeyListing
import CacheGate.Proofs.Time.Calendar
import CacheGate.Proofs.Time.HttpDate
import CacheGate.Proofs.Http.FieldText
import CacheGate.Proofs.Store.LiveCalls
import CacheGate.Proofs.Store.PromptStore
import CacheGate.Proofs.Store.LazyExpiry
import CacheGate.Proofs.Store.Apart
import CacheGate.Proofs.Handler.Race
import CacheGate.Proofs.Conditions
import CacheGate.Proofs.Serve.EntryAnswer
import CacheGate.Proofs.Serve.ReadFormat
import CacheGate.Proofs.Serve.Validators
import CacheGate.Proofs.Serve.NotModified
import CacheGate.Proofs.Serve.GuardedWrite
import CacheGate.Proofs.Serve.Freshness
import CacheGate.Proofs.Serve.Independence
import CacheGate.Proofs.Serve.Reachable
import CacheGate.Proofs.Serve.ListedKeys
import CacheGate.Proofs.Text.Cutting
import CacheGate.Proofs.MediaType.Parsed
import CacheGate.Proofs.MediaType.Accept
import CacheGate.Proofs.Serve.ListedLines
import CacheGate.Proofs.Serve.AnnouncedTypes
import CacheGate.Proofs.Serve.RefusedTypes
import CacheGate.Proofs.Serve.WrittenTypes
import CacheGate.Proofs.Store.Placement
import CacheGate.Proofs.Disclosure
import CacheGate.Proofs.Handler.Lockstep
import CacheGate.Proofs.Serve.Alike
import CacheGate.Proofs.Serve.HiddenFailures
import CacheGate.Proofs.Serve.HeadAnswer
import CacheGate.Proofs.Store.DeclaredTypes
import CacheGate.Proofs.Serve.KeyTypes
import CacheGate.Proofs.Serve.CallIdentity
import CacheGate.Proofs.Serve.VanishedEntry
import CacheGate.Proofs.Settings.Caches
import CacheGate.Proofs.Serve.Failures
import CacheGate.Proofs.Settings.StorageFormats
import CacheGate.Proofs.Serve.BodyTypes
import CacheGate.Proofs.Handler.EntryEvents
import CacheGate.Proofs.Serve.Retries
import CacheGate.Proofs.ListingFormat
import CacheGate.Proofs.MediaType.Ranking
import CacheGate.Proofs.Verdicts
import CacheGate.Proofs.Time.Words
import CacheGate.Proofs.Store.Deadlines
import CacheGate.Proofs.WriteExpiration
import CacheGate.Proofs.Serve.Schedules
import CacheGate.Proofs.Serve.KeptSettings
import CacheGate.Proofs.TagList
import CacheGate.Proofs.Net.SocketAddr
import CacheGate.Proofs.Settings.Members
import CacheGate.Proofs.Settings.WellFormed
import CacheGate.Proofs.RoutePath
import CacheGate.Proofs.Handler.Counting
import CacheGate.Proofs.Serve.Metrics
import CacheGate.Proofs.Scenario
