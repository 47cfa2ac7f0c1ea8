import PanelSource.Span
import PanelSource.Variable.Substitution
import PanelSource.Json.Reader
import PanelSource.Json.Writer
import PanelSource.Calendar.Fields
import PanelSource.Calendar.Reading
import PanelSource.Calendar.Writing
import PanelSource.Wire.Param
import PanelSource.Athena.Execution
import PanelSource.Panel.Request
import PanelSource.Panel.Outcome
import PanelSource.Suggest.Finder
import PanelSource.Panel.Run
import PanelSource.Frame.Convert
import PanelSource.Cache
import PanelSource.Settings.Server
import PanelSource.Athena.Settings
import PanelSource.Text.Script
import PanelSource.Text.Folding
import PanelSource.Pattern.Reader
import PanelSource.Athena.Runner
import PanelSource.Athena.Memory
import PanelSource.Server.Router
import PanelSource.Athena.Protocol
import PanelSource.Athena.Connection
import PanelSource.Backend.Remote
import PanelSource.CommandLine.Run
import PanelSource.Main
import PanelSource.Proofs.Text.Strip
import PanelSource.Proofs.Number.Decimal
import PanelSource.Proofs.Cache
import PanelSource.Proofs.Cache.Recency
import PanelSource.Proofs.Variable.Reference
import PanelSource.Proofs.Pattern.Span
import PanelSource.Proofs.Pattern.Reading
import PanelSource.Proofs.Pattern.Exact
import PanelSource.Proofs.Variable.SinglePass
import PanelSource.Proofs.Variable.Containment
import PanelSource.Proofs.Suggest.Written
import PanelSource.Proofs.Suggest.RoundTrip
import PanelSource.Proofs.Suggest.Places
import PanelSource.Proofs.Suggest.Ticket
import PanelSource.Proofs.Athena.Ending
import PanelSource.Proofs.Athena.Keys
import PanelSource.Proofs.Athena.Recorded
import PanelSource.Proofs.Athena.Remembered
import PanelSource.Proofs.Athena.Catalog
import PanelSource.Proofs.Athena.Mirror
import PanelSource.Proofs.Athena.TargetRun
import PanelSource.Proofs.Athena.Listing
import PanelSource.Proofs.Athena.ScanLimit
import PanelSource.Proofs.Athena.Rows
import PanelSource.Proofs.Athena.Waiting
import PanelSource.Proofs.Athena.Reuse
import PanelSource.Proofs.Athena.Succeeded
import PanelSource.Proofs.Athena.Direct
import PanelSource.Proofs.Athena.Advance
import PanelSource.Proofs.Athena.Finished
import PanelSource.Proofs.Panel.Partial
import PanelSource.Proofs.Json.Text
import PanelSource.Proofs.Number.Exact
import PanelSource.Proofs.Span.Runs
import PanelSource.Proofs.Span
import PanelSource.Proofs.Span.Grammar
import PanelSource.Proofs.Wire.Record
import PanelSource.Proofs.Panel.Wire
import PanelSource.Proofs.Calendar.Date
import PanelSource.Proofs.Calendar.Timestamp
import PanelSource.Proofs.Wire.Execution
import PanelSource.Proofs.Athena.Replies
import PanelSource.Proofs.Wire.Param
import PanelSource.Proofs.Suggest.Agreement
import PanelSource.Proofs.Http.Form
import PanelSource.Proofs.Json.Sorted
import PanelSource.Proofs.Athena.Rendered
import PanelSource.Proofs.Server.Remote
import PanelSource.Proofs.Athena.Endpoint
import PanelSource.Proofs.Athena.Selection
import PanelSource.Proofs.Athena.SavedStatement
import PanelSource.Proofs.Panel.IdField
import PanelSource.Proofs.Athena.LookedUp
import PanelSource.Proofs.Frame.Timeline
import PanelSource.Proofs.Frame.Series
import PanelSource.Proofs.Frame.Table
import PanelSource.Proofs.Athena.Combined
import PanelSource.Proofs.Frame.Labels
import PanelSource.Proofs.Athena.Fresh
import PanelSource.Proofs.Athena.Pages
import PanelSource.Proofs.Suggest.WindowEnd
import PanelSource.Proofs.Athena.Entries
import PanelSource.Proofs.Frame.Legend
import PanelSource.Proofs.Athena.Batches
