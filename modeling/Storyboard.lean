import Storyboard.Call.Basic
import Storyboard.Call.Check
import Storyboard.Call.Link
import Storyboard.CommandLine
import Storyboard.Compile
import Storyboard.Directory
import Storyboard.Equality
import Storyboard.Geometry
import Storyboard.History
import Storyboard.Identifier
import Storyboard.Json.Basic
import Storyboard.Json.Fields
import Storyboard.Json.Parser
import Storyboard.Json.Printer
import Storyboard.Keyword
import Storyboard.Main
import Storyboard.Number.Binary
import Storyboard.Number.Compact
import Storyboard.Number.Decimal
import Storyboard.Number.Numeral
import Storyboard.Number.Shortest
import Storyboard.Output
import Storyboard.Proofs.Accounting
import Storyboard.Proofs.Blank
import Storyboard.Proofs.Call.Check
import Storyboard.Proofs.Call.Making
import Storyboard.Proofs.Call.Naming
import Storyboard.Proofs.Compile
import Storyboard.Proofs.History
import Storyboard.Proofs.Identifier
import Storyboard.Proofs.Identifier.Grammar
import Storyboard.Proofs.Json.Fields
import Storyboard.Proofs.Json.Scalar
import Storyboard.Proofs.Json.Value
import Storyboard.Proofs.Number.Digits
import Storyboard.Proofs.Number.Grammar
import Storyboard.Proofs.Number.Quick
import Storyboard.Proofs.Number.Rounding
import Storyboard.Proofs.Number.Text
import Storyboard.Proofs.Number.Whole
import Storyboard.Proofs.Outcome
import Storyboard.Proofs.Output
import Storyboard.Proofs.Scene.Fallback
import Storyboard.Proofs.Scene.Loading
import Storyboard.Proofs.Scene.Normal
import Storyboard.Proofs.Scene.Reference
import Storyboard.Proofs.Scene.Resolution
import Storyboard.Proofs.Scene.SegmentId
import Storyboard.Proofs.Scene.Splitting
import Storyboard.Proofs.Scene.Storage
import Storyboard.Proofs.Scene.Structure
import Storyboard.Proofs.Script.Agreement
import Storyboard.Proofs.Script.Assignment
import Storyboard.Proofs.Script.Call
import Storyboard.Proofs.Script.Comment
import Storyboard.Proofs.Script.Gap
import Storyboard.Proofs.Script.Patch
import Storyboard.Proofs.Script.Reading
import Storyboard.Proofs.Script.Scope
import Storyboard.Proofs.Script.Statement
import Storyboard.Proofs.Script.Variable
import Storyboard.Proofs.Skipping
import Storyboard.Proofs.Snapshot
import Storyboard.Proofs.Step.Equality
import Storyboard.Proofs.Step.Record
import Storyboard.Proofs.Step.Resaving
import Storyboard.Proofs.Step.Storage
import Storyboard.Proofs.Tag.Array
import Storyboard.Proofs.Tag.Grammar
import Storyboard.Proofs.Tag.Integer
import Storyboard.Proofs.Tag.Recognition
import Storyboard.Proofs.Tag.Report
import Storyboard.Proofs.Tag.RoundTrip
import Storyboard.Proofs.Tag.Spacing
import Storyboard.Proofs.Tag.Word
import Storyboard.Proofs.Text.Comment
import Storyboard.Proofs.Text.Line
import Storyboard.Proofs.Text.Run
import Storyboard.Proofs.Trace
import Storyboard.Scene.Basic
import Storyboard.Scene.Document
import Storyboard.Scene.Normal
import Storyboard.Scene.Structure
import Storyboard.Script.Line
import Storyboard.Script.Variable
import Storyboard.Step.Basic
import Storyboard.Step.Record
import Storyboard.Step.Storage
import Storyboard.Tag.Basic
import Storyboard.Tag.Parser
import Storyboard.Tag.Token
import Storyboard.Text.Blank
import Storyboard.Text.Dictionary
import Storyboard.Text.Hidden
import Storyboard.Text.Quoted
import Storyboard.Title
import Storyboard.Trace
