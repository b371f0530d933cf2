import TuringScript.Alphabet
import TuringScript.Catalogue
import TuringScript.CharClass.Basic
import TuringScript.CharClass.Cursor
import TuringScript.CharClass.Reader
import TuringScript.CommandLine.Arguments
import TuringScript.CommandLine.Execute
import TuringScript.CommandLine.Options
import TuringScript.CommandLine.Report
import TuringScript.CommandLine.Run
import TuringScript.Dialect
import TuringScript.Error
import TuringScript.Journal
import TuringScript.Json.Codec
import TuringScript.Json.Printer
import TuringScript.Json.Reader
import TuringScript.Json.Value
import TuringScript.Machine.Basic
import TuringScript.Machine.Run
import TuringScript.Machine.Session
import TuringScript.Main
import TuringScript.Rule
import TuringScript.RuleLine.Expansion
import TuringScript.RuleLine.Fields
import TuringScript.RuleLine.Reader
import TuringScript.RuleLine.Template
import TuringScript.RuleLine.Token
import TuringScript.Source
import TuringScript.Source.Stream
import TuringScript.Storage.Basic
import TuringScript.Storage.FileTree
import TuringScript.Storage.Loading
import TuringScript.Table
import TuringScript.Tape
import TuringScript.Text.Column
import TuringScript.Text.Lines
import TuringScript.Text.Numeral
import TuringScript.Text.Printable
import TuringScript.Text.Quoted
import TuringScript.Text.UpperCase
import TuringScript.Text.WhiteSpace
import TuringScript.Proofs.CharClass.Complement
import TuringScript.Proofs.CharClass.Ranges
import TuringScript.Proofs.CharClass.Remaining
import TuringScript.Proofs.Machine.LastLookup
import TuringScript.Proofs.Machine.Notification
import TuringScript.Proofs.Machine.PastLimit
import TuringScript.Proofs.Machine.Race
import TuringScript.Proofs.Machine.Stepping
import TuringScript.Proofs.Machine.Textbook
import TuringScript.Proofs.RuleLine.Acceptance
import TuringScript.Proofs.RuleLine.Denotation
import TuringScript.Proofs.RuleLine.Enumeration
import TuringScript.Proofs.RuleLine.Grammar
import TuringScript.Proofs.RuleLine.Odometer
import TuringScript.Proofs.RuleLine.Printing
import TuringScript.Proofs.RuleLine.RoundTrip
import TuringScript.Proofs.RuleLine.ScanFaults
import TuringScript.Proofs.Source.Cutting
import TuringScript.Proofs.Source.Encoding
import TuringScript.Proofs.Source.FirstFault
import TuringScript.Proofs.Source.Sink
import TuringScript.Proofs.Source.Streaming
import TuringScript.Proofs.Text.UpperCase
import TuringScript.Proofs.RuleLine.LeftBehind
import TuringScript.Proofs.Machine.Replay
import TuringScript.Proofs.RuleLine.CommentMarker
import TuringScript.Proofs.Machine.Reset
import TuringScript.Proofs.Machine.Resuming
import TuringScript.Proofs.Storage.Agreement
import TuringScript.Proofs.Tape.Editing
import TuringScript.Proofs.RuleLine.EndingReturn
import TuringScript.Proofs.RuleLine.Iteration
import TuringScript.Proofs.Source.Renumbering
import TuringScript.Proofs.Source.Joining
import TuringScript.Proofs.RuleLine.Folding
import TuringScript.Proofs.RuleLine.Layout
import TuringScript.Proofs.Machine.Sweeping
import TuringScript.Proofs.Catalogue.Entries
import TuringScript.Proofs.Catalogue.Arithmetic
import TuringScript.Proofs.Catalogue.Inversion
import TuringScript.Proofs.CharClass.Iteration
import TuringScript.Proofs.CharClass.RankOrder
import TuringScript.Proofs.Table.Filling
import TuringScript.Proofs.Source.Lines
import TuringScript.Proofs.Source.Reordering
import TuringScript.Proofs.Tape.Window
import TuringScript.Proofs.Machine.Silence
import TuringScript.Proofs.CommandLine.Tracing
import TuringScript.Proofs.RuleLine.StartState
import TuringScript.Proofs.CommandLine.StateFolding
import TuringScript.Proofs.CharClass.Positions
import TuringScript.Proofs.CharClass.Bounds
import TuringScript.Proofs.RuleLine.Bounds
import TuringScript.Proofs.RuleLine.Alignment
