import SignOut.Assembly
import SignOut.Assembly.OfSettings
import SignOut.Calendar
import SignOut.Chain
import SignOut.Collaborator
import SignOut.Configuration
import SignOut.Description.Exchange
import SignOut.Description.Fields
import SignOut.Description.Media
import SignOut.Description.Parts
import SignOut.Description.Reading
import SignOut.Dispatch
import SignOut.Error
import SignOut.Event
import SignOut.Exchange
import SignOut.Fault
import SignOut.Formula
import SignOut.Gate
import SignOut.Handler
import SignOut.Http.Cookie
import SignOut.Http.Request
import SignOut.Http.Response
import SignOut.Json
import SignOut.Json.Reader
import SignOut.Json.Writer
import SignOut.Keyed
import SignOut.Log.Layout
import SignOut.Log.Level
import SignOut.Log.Loggers
import SignOut.Log.Plan
import SignOut.Log.Record
import SignOut.Matcher
import SignOut.Media.Accept
import SignOut.Media.MediaType
import SignOut.Negotiation
import SignOut.Numeric.Binary64
import SignOut.Numeric.Reading
import SignOut.Numeric.Shortest
import SignOut.Options
import SignOut.Principal
import SignOut.Settings
import SignOut.Settings.Cache
import SignOut.Settings.EnvironmentFile
import SignOut.Settings.Problem
import SignOut.Stage
import SignOut.Store
import SignOut.Success
import SignOut.Switch
import SignOut.Text.Blank
import SignOut.Text.Case
import SignOut.Text.CaseTable
import SignOut.Text.CodeRange
import SignOut.Text.DecimalDigit
import SignOut.Text.Fields
import SignOut.Text.Latin1
import SignOut.Text.Numeral
import SignOut.Text.Ordered
import SignOut.Text.Printable
import SignOut.Text.Quoted
import SignOut.Text.Utf8
import SignOut.Trace
import SignOut.Version
import SignOut.Proofs.Execution
import SignOut.Proofs.Frame
import SignOut.Proofs.Course
import SignOut.Proofs.Checks
import SignOut.Proofs.Processing
import SignOut.Proofs.History
import SignOut.Proofs.Clearing
import SignOut.Proofs.Interruption
import SignOut.Proofs.Recognition
import SignOut.Proofs.Declaration
import SignOut.Proofs.Ranking
import SignOut.Proofs.Agreement
import SignOut.Proofs.LetterCase
import SignOut.Proofs.Variation
import SignOut.Proofs.Script
import SignOut.Proofs.StickyPath
import SignOut.Proofs.Parts
import SignOut.Proofs.Origin
import SignOut.Proofs.StoredSession
import SignOut.Proofs.Capability
import SignOut.Proofs.Serving
import SignOut.Proofs.Sending
import SignOut.Proofs.Wrapping
import SignOut.Proofs.ExpiredCookies
import SignOut.Proofs.Removal
import SignOut.Proofs.Bond
import SignOut.Proofs.Independence
import SignOut.Proofs.Repetition
import SignOut.Proofs.Passage
import SignOut.Proofs.SessionRemoval
import SignOut.Proofs.Atomicity
import SignOut.Proofs.Buildable
import SignOut.Proofs.TargetPath
import SignOut.Proofs.MediaSelection
import SignOut.Proofs.MediaRefusal
import SignOut.Proofs.Watching
import SignOut.Proofs.NormalForm
import SignOut.Proofs.Grouping
import SignOut.Proofs.NestedDispatch
import SignOut.Proofs.WrittenAnswer
import SignOut.Proofs.DefaultAnswer
import SignOut.Proofs.MediaCoverage
import SignOut.Proofs.Builds
import SignOut.Proofs.OutcomeClasses
import SignOut.Proofs.CanonicalForm
import SignOut.Proofs.SettingsScript
import SignOut.Proofs.Discretion
import SignOut.Proofs.Timestamps
import SignOut.Proofs.Publication
import SignOut.Proofs.Verbatim
import SignOut.Proofs.Messages
import SignOut.Proofs.LogLines
