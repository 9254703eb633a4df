import CellWidth.CommandLine.Disk
import CellWidth.CommandLine.Plan
import CellWidth.CommandLine.Run
import CellWidth.CommandLine.Word
import CellWidth.Generator.DataLine
import CellWidth.Generator.Listing
import CellWidth.Generator.Product
import CellWidth.Generator.Selection
import CellWidth.Interval
import CellWidth.Interval.Flaw
import CellWidth.Interval.Merge
import CellWidth.Interval.Table
import CellWidth.Json.Display
import CellWidth.Json.Document
import CellWidth.Json.Token
import CellWidth.Json.Value
import CellWidth.Layout.Pad
import CellWidth.Layout.Truncate
import CellWidth.Main
import CellWidth.Number.Binary64
import CellWidth.Number.Shortest
import CellWidth.Proofs.Agreement
import CellWidth.Proofs.Beginning
import CellWidth.Proofs.Boundaries
import CellWidth.Proofs.Canonical
import CellWidth.Proofs.Classes
import CellWidth.Proofs.Counting
import CellWidth.Proofs.Cutting
import CellWidth.Proofs.DataLines
import CellWidth.Proofs.Decoding
import CellWidth.Proofs.Documents
import CellWidth.Proofs.Filling
import CellWidth.Proofs.Footprint
import CellWidth.Proofs.Grammar
import CellWidth.Proofs.Keeping
import CellWidth.Proofs.Lexing
import CellWidth.Proofs.Listings
import CellWidth.Proofs.Loading
import CellWidth.Proofs.Measuring
import CellWidth.Proofs.Merging
import CellWidth.Proofs.Numerals
import CellWidth.Proofs.Offences
import CellWidth.Proofs.OneMode
import CellWidth.Proofs.Opening
import CellWidth.Proofs.Padding
import CellWidth.Proofs.Parsing
import CellWidth.Proofs.Picking
import CellWidth.Proofs.Pieces
import CellWidth.Proofs.Planning
import CellWidth.Proofs.Probing
import CellWidth.Proofs.Refusals
import CellWidth.Proofs.Resolution
import CellWidth.Proofs.Reversing
import CellWidth.Proofs.Saving
import CellWidth.Proofs.Scalars
import CellWidth.Proofs.Search
import CellWidth.Proofs.Selection
import CellWidth.Proofs.Sequences
import CellWidth.Proofs.Snapshot
import CellWidth.Proofs.Spelling
import CellWidth.Proofs.Stability
import CellWidth.Proofs.Switches
import CellWidth.Proofs.TextSequence
import CellWidth.Proofs.TextWidth
import CellWidth.Proofs.Tokens
import CellWidth.Proofs.Trimming
import CellWidth.Proofs.Truncation
import CellWidth.Proofs.Utf8
import CellWidth.Proofs.Widening
import CellWidth.Record
import CellWidth.Release
import CellWidth.Settings.Folder
import CellWidth.Settings.Location
import CellWidth.Settings.Measure
import CellWidth.Settings.Preference
import CellWidth.Settings.Request
import CellWidth.Settings.Session
import CellWidth.Settings.Switch
import CellWidth.Text.Blank
import CellWidth.Text.DecimalDigit
import CellWidth.Text.Hexadecimal
import CellWidth.Text.Lines
import CellWidth.Text.Printable
import CellWidth.Text.Quoted
import CellWidth.Text.Utf8
import CellWidth.Unicode.Name
import CellWidth.Unicode.Name.Table
import CellWidth.Unicode.Wide
import CellWidth.Unicode.ZeroWidth
import CellWidth.Width
import CellWidth.Width.Sequence
