import IngestViewer.Blank
import IngestViewer.Calendar
import IngestViewer.CodePoints
import IngestViewer.CombiningMark
import IngestViewer.CommandLine
import IngestViewer.Composition
import IngestViewer.CompositionRows
import IngestViewer.DataPaths
import IngestViewer.Direction
import IngestViewer.Disk
import IngestViewer.DomainCharacter
import IngestViewer.DomainCharacterRows
import IngestViewer.DomainName
import IngestViewer.Environment
import IngestViewer.FileStore
import IngestViewer.Footprint
import IngestViewer.Gateway
import IngestViewer.HeldValue
import IngestViewer.HelpText
import IngestViewer.HistoryStore
import IngestViewer.Host
import IngestViewer.IngestRecord
import IngestViewer.IngestRecordJson
import IngestViewer.IngestView
import IngestViewer.Inspection
import IngestViewer.Inspector
import IngestViewer.Instant
import IngestViewer.Joiner
import IngestViewer.Json
import IngestViewer.JsonFields
import IngestViewer.JsonNumber
import IngestViewer.JsonReader
import IngestViewer.JsonWriter
import IngestViewer.LocaleRegistry
import IngestViewer.LookupFailure
import IngestViewer.Main
import IngestViewer.Ordinal
import IngestViewer.PathText
import IngestViewer.PercentEncoding
import IngestViewer.PhraseTable
import IngestViewer.PreferredLocale
import IngestViewer.Program
import IngestViewer.Punycode
import IngestViewer.Quoted
import IngestViewer.RecentIngests
import IngestViewer.RecordSource
import IngestViewer.Report
import IngestViewer.ResponseBody
import IngestViewer.Route
import IngestViewer.Segments
import IngestViewer.Services
import IngestViewer.Settings
import IngestViewer.SharedHistory
import IngestViewer.SharedLookups
import IngestViewer.ShortestDecimal
import IngestViewer.SourceLocation
import IngestViewer.TimeFormatter
import IngestViewer.Timeline
import IngestViewer.Timestamp
import IngestViewer.Toml
import IngestViewer.TomlReader
import IngestViewer.TomlScalar
import IngestViewer.TomlString
import IngestViewer.Unprintable
import IngestViewer.Url
import IngestViewer.UrlReader
import IngestViewer.Utf8
import IngestViewer.Variables
import IngestViewer.Proofs.AtomicStore
import IngestViewer.Proofs.CalendarDays
import IngestViewer.Proofs.CanonicalText
import IngestViewer.Proofs.ClockTimes
import IngestViewer.Proofs.ConsoleLink
import IngestViewer.Proofs.DamagedHistory
import IngestViewer.Proofs.DateDisplays
import IngestViewer.Proofs.DayPhrase
import IngestViewer.Proofs.DecimalTexts
import IngestViewer.Proofs.DiskSteps
import IngestViewer.Proofs.DistinctRequests
import IngestViewer.Proofs.DotSegments
import IngestViewer.Proofs.ElapsedTime
import IngestViewer.Proofs.EncodedText
import IngestViewer.Proofs.EnvironmentFallback
import IngestViewer.Proofs.FailureOutput
import IngestViewer.Proofs.FieldRoundTrip
import IngestViewer.Proofs.FirstOfEach
import IngestViewer.Proofs.FlightRegistry
import IngestViewer.Proofs.FreshAnswers
import IngestViewer.Proofs.HeldValues
import IngestViewer.Proofs.HistoryRefinement
import IngestViewer.Proofs.HostText
import IngestViewer.Proofs.InspectionOutcome
import IngestViewer.Proofs.JsonGrammar
import IngestViewer.Proofs.JsonRoundTrip
import IngestViewer.Proofs.JsonTokens
import IngestViewer.Proofs.LatestEvent
import IngestViewer.Proofs.LetterCase
import IngestViewer.Proofs.LiteralRoundTrip
import IngestViewer.Proofs.LocalePrecedence
import IngestViewer.Proofs.LookupInvariant
import IngestViewer.Proofs.LookupRuns
import IngestViewer.Proofs.LookupSteps
import IngestViewer.Proofs.LooseRecords
import IngestViewer.Proofs.MemberOrder
import IngestViewer.Proofs.MemberUrl
import IngestViewer.Proofs.NestedResponse
import IngestViewer.Proofs.NumberRoundTrip
import IngestViewer.Proofs.OrdinalEndings
import IngestViewer.Proofs.PrintedDates
import IngestViewer.Proofs.ProgressBrackets
import IngestViewer.Proofs.Recency
import IngestViewer.Proofs.RecentDays
import IngestViewer.Proofs.RecordReaders
import IngestViewer.Proofs.RecordRoundTrip
import IngestViewer.Proofs.RecordingLock
import IngestViewer.Proofs.RecordingSteps
import IngestViewer.Proofs.RegistrationHistory
import IngestViewer.Proofs.ReplyOutcomes
import IngestViewer.Proofs.ReportedEvents
import IngestViewer.Proofs.SerialRecordings
import IngestViewer.Proofs.SettledJson
import IngestViewer.Proofs.SingleFlight
import IngestViewer.Proofs.SpellingOrder
import IngestViewer.Proofs.StatedEnvironment
import IngestViewer.Proofs.StorePaths
import IngestViewer.Proofs.StoreSteps
import IngestViewer.Proofs.TextOrder
import IngestViewer.Proofs.TimestampReading
import IngestViewer.Proofs.TimestampSpelling
import IngestViewer.Proofs.Trimming
import IngestViewer.Proofs.UrlParts
import IngestViewer.Proofs.Utf8RoundTrip
import IngestViewer.Proofs.ValueParts
import IngestViewer.Proofs.WebUrl
import IngestViewer.Proofs.WritableStore
