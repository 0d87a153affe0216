import TileScope.Main
import TileScope.Proofs.Wire.Framing
import TileScope.Proofs.Wire.Row
import TileScope.Proofs.Wire.Varint
import TileScope.Proofs.Wire.Field
import TileScope.Proofs.Wire.Skip
import TileScope.Proofs.Message.Framing
import TileScope.Proofs.Wire.Writing
import TileScope.Proofs.Message.Writing
import TileScope.Proofs.Geometry.Command
import TileScope.Proofs.Geometry.Grammar
import TileScope.Proofs.Geometry.Exact
import TileScope.Proofs.Geometry.Encoding
import TileScope.Proofs.Ordered.Build
import TileScope.Proofs.Tile.Encoding
import TileScope.Proofs.Tile.Cut
import TileScope.Proofs.Tile.Unfinished
import TileScope.Proofs.Ordered.Lookup
import TileScope.Proofs.Tile.Concatenation
import TileScope.Proofs.Scan.Outcome
import TileScope.Proofs.Scan.Schedule
import TileScope.Proofs.Scan.Independence
import TileScope.Proofs.Grid.Key
import TileScope.Proofs.Grid.Archive
import TileScope.Proofs.Grid.Window
import TileScope.Proofs.Text.Blank
import TileScope.Proofs.Text.Numeral
import TileScope.Proofs.Grid.Grammar
import TileScope.Proofs.Grid.Notation
import TileScope.Proofs.Store.Backends
import TileScope.Proofs.Deflate.Stored
import TileScope.Proofs.Gzip.Writing
import TileScope.Proofs.Deflate.Format
import TileScope.Proofs.Scan.Envelope
import TileScope.Proofs.Scan.Hits
import TileScope.Proofs.CommandLine.Probe
import TileScope.Proofs.Search.Fragment
import TileScope.Proofs.Json.Field
import TileScope.Proofs.Report.Agreement
import TileScope.Proofs.Geometry.Repetition
import TileScope.Proofs.Geometry.Rings
import TileScope.Proofs.Report.Label
import TileScope.Proofs.Report.Grouping
import TileScope.Proofs.Report.Comparison
import TileScope.Proofs.Geometry.Conservation
import TileScope.Proofs.Tile.Property
import TileScope.Proofs.Search.Union
import TileScope.Proofs.Report.Spot
import TileScope.Proofs.Report.Outside
import TileScope.Proofs.Report.Listing
import TileScope.Proofs.Deflate.Reading
import TileScope.Proofs.Deflate.Inflation
import TileScope.Proofs.Ini.Writing
import TileScope.Proofs.Settings.Loading
import TileScope.Proofs.Text.Ends
import TileScope.Proofs.Settings.Reload
import TileScope.Proofs.Settings.Home
import TileScope.Proofs.CommandLine.Spelling
import TileScope.Proofs.CommandLine.Occurrence
import TileScope.Proofs.CommandLine.Overriding
import TileScope.Proofs.CommandLine.Precedence
import TileScope.Proofs.Archive.Pool
import TileScope.Proofs.Archive.Reading
import TileScope.Proofs.Archive.Course
import TileScope.Proofs.Service.Address
