import ApiNotes.Editor.Server
import ApiNotes.OpenApi.Export
import ApiNotes.Proofs.Capture.Literal
import ApiNotes.Proofs.Capture.Rows
import ApiNotes.Proofs.Json.Run
import ApiNotes.Record.Documents
import ApiNotes.Site.Serve
import ApiNotes.Snippet.Render
import ApiNotes.Yaml.Emit
import ApiNotes.Proofs.Capture.Decoration
import ApiNotes.Proofs.Tag.Arguments
import ApiNotes.Proofs.Tag.Scan
import ApiNotes.Proofs.Tag.Spans
import ApiNotes.Proofs.Capture.Seam
import ApiNotes.Proofs.Tag.Seam
import ApiNotes.Proofs.Json.Scalar
import ApiNotes.Proofs.Json.RoundTrip
import ApiNotes.Proofs.Tag.Written
import ApiNotes.Proofs.Tag.Isolated
import ApiNotes.Proofs.Text.Lines
import ApiNotes.Proofs.Text.Occurrences
import ApiNotes.Proofs.Snippet.Script
import ApiNotes.Proofs.Snippet.Shell
import ApiNotes.Proofs.Snippet.Mention
import ApiNotes.Proofs.Snippet.Credential
import ApiNotes.Proofs.Text.Slice
import ApiNotes.Proofs.Tag.Markers
import ApiNotes.Proofs.Editor.Overrun
import ApiNotes.Proofs.Editor.Block
import ApiNotes.Proofs.Editor.Agreement
import ApiNotes.Proofs.Notes.WellFormed
import ApiNotes.Proofs.Capture.LineEnding
import ApiNotes.Proofs.Tag.LineEnding
import ApiNotes.Proofs.Editor.Position
import ApiNotes.Proofs.Editor.Report
import ApiNotes.Proofs.Editor.Hover
import ApiNotes.Proofs.Endpoint.Published
import ApiNotes.Proofs.OpenApi.Latest
import ApiNotes.Proofs.Site.Lookup
import ApiNotes.Proofs.Editor.Session
import ApiNotes.Proofs.Capture.Grammar
import ApiNotes.Proofs.Capture.Offence
import ApiNotes.Proofs.Text.Bytes
import ApiNotes.Proofs.Capture.Bytes
import ApiNotes.Proofs.Table
import ApiNotes.Proofs.Notes.Recorded
import ApiNotes.Proofs.OpenApi.Variants
import ApiNotes.Proofs.Tag.Strings
import ApiNotes.Proofs.Editor.Repeats
import ApiNotes.Proofs.Tag.Closing
import ApiNotes.Proofs.Decimal.Numeral
import ApiNotes.Proofs.Snippet.Dialect
import ApiNotes.Proofs.Snippet.Denotation
import ApiNotes.Proofs.Snippet.Indentation
import ApiNotes.Proofs.Editor.Distance
import ApiNotes.Proofs.Editor.Suggestion
import ApiNotes.Proofs.Editor.Conversion
import ApiNotes.Proofs.Endpoint.Parameter
import ApiNotes.Proofs.OpenApi.Identifier
import ApiNotes.Proofs.Editor.Completion
import ApiNotes.Proofs.Tag.Enumeration
