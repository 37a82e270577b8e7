import Dimming.Change
import Dimming.Color
import Dimming.Configuration.Basic
import Dimming.Configuration.Reference
import Dimming.Configuration.VariableFile
import Dimming.Configuration.WholeNumber
import Dimming.Fault
import Dimming.Json.Basic
import Dimming.Json.Display
import Dimming.Json.ReadFault
import Dimming.Json.Reader
import Dimming.Json.Writer
import Dimming.Language
import Dimming.Log
import Dimming.Logging.Calendar
import Dimming.Logging.Fault
import Dimming.Logging.Format
import Dimming.Logging.Record
import Dimming.Logging.Template
import Dimming.Logging.Threshold
import Dimming.Logging.Value
import Dimming.Mapping
import Dimming.Number.Basic
import Dimming.Number.Decimal
import Dimming.Number.Double
import Dimming.Number.Hexadecimal
import Dimming.Opacity
import Dimming.Pattern.Basic
import Dimming.Position
import Dimming.Prompt
import Dimming.Session.Command
import Dimming.Session.Decorating
import Dimming.Session.Notification
import Dimming.Session.Operation
import Dimming.Session.State
import Dimming.Settings.Disk
import Dimming.Settings.Values
import Dimming.Span
import Dimming.Statement.Detection
import Dimming.Statement.Dialect
import Dimming.Style
import Dimming.Surface.Basic
import Dimming.Surface.Observation
import Dimming.Surface.Pane
import Dimming.Surface.TextFormat
import Dimming.Text.Blank
import Dimming.Text.Case
import Dimming.Text.CodePoint
import Dimming.Text.Digit
import Dimming.Text.Lines
import Dimming.Text.Numeral
import Dimming.Text.Printable
import Dimming.Text.Quoted
import Dimming.Text.Utf16
import Dimming.Text.Utf8
import Dimming.Window.Basic
import Dimming.Window.Call
import Dimming.Window.Folder
import Dimming.Window.Launch
import Dimming.Window.Operation
import Dimming.Main
import Dimming.Proofs.Number.Bound
import Dimming.Proofs.Session.Action
import Dimming.Proofs.Session.Effect
import Dimming.Proofs.Session.Keeping
import Dimming.Proofs.Session.Connection
import Dimming.Proofs.Session.Freshness
import Dimming.Proofs.Session.Handles
import Dimming.Proofs.Session.Synchrony
import Dimming.Proofs.Pattern.Ends
import Dimming.Proofs.Statement.Balance
import Dimming.Proofs.Statement.Chain
import Dimming.Proofs.Statement.Scan
import Dimming.Proofs.Pattern.Search
import Dimming.Proofs.Pattern.Words
import Dimming.Proofs.Statement.Lexical
import Dimming.Proofs.Statement.Cover
import Dimming.Proofs.Text.Numeral
import Dimming.Proofs.Number.Rounding
import Dimming.Proofs.Number.Grid
import Dimming.Proofs.Number.Spelling
import Dimming.Proofs.Json.Number
import Dimming.Proofs.Json.Escape
import Dimming.Proofs.Mapping
import Dimming.Proofs.Json.Soundness
import Dimming.Proofs.Json.RoundTrip
import Dimming.Proofs.Json.BreakingOff
import Dimming.Proofs.Text.Utf8
import Dimming.Proofs.Json.Plain
import Dimming.Proofs.Settings.Storing
import Dimming.Proofs.Session.Storage
import Dimming.Proofs.Session.Errand
import Dimming.Proofs.Session.Restyling
import Dimming.Proofs.Session.Confirmation
import Dimming.Proofs.Text.Lines
import Dimming.Proofs.Text.Trimming
import Dimming.Proofs.Number.Conversion
import Dimming.Proofs.Number.Grammar
import Dimming.Proofs.Number.Beginning
import Dimming.Proofs.Opacity.Leading
import Dimming.Proofs.Opacity.Acceptance
import Dimming.Proofs.Session.Typing
import Dimming.Proofs.Number.Placement
import Dimming.Proofs.Opacity.Display
import Dimming.Proofs.Session.Prefilling
import Dimming.Proofs.Session.Overwriting
import Dimming.Proofs.Session.Registration
import Dimming.Proofs.Session.Delivery
import Dimming.Proofs.Session.Scope
import Dimming.Proofs.Session.Roster
import Dimming.Proofs.Session.Enrollment
import Dimming.Proofs.Session.Rest
import Dimming.Proofs.Session.Showing
import Dimming.Proofs.Style.Channels
import Dimming.Proofs.Session.Usability
import Dimming.Proofs.Position
import Dimming.Proofs.Statement.Extent
import Dimming.Proofs.Surface.Drawing
import Dimming.Proofs.Surface.Highlighting
import Dimming.Proofs.Surface.Display
import Dimming.Proofs.Surface.Relaying
import Dimming.Proofs.Text.Breaks
import Dimming.Proofs.Statement.Arguments
import Dimming.Proofs.Statement.Overrun
import Dimming.Proofs.Statement.Qualified
import Dimming.Proofs.Logging.Setup
import Dimming.Proofs.Logging.Moment
import Dimming.Proofs.Logging.Line
import Dimming.Proofs.Window.Effect
import Dimming.Proofs.Window.Tabs
