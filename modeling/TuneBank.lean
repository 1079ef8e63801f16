import TuneBank.Batch
import TuneBank.Bytecode.PatternStream
import TuneBank.Bytecode.SkipWriter
import TuneBank.Bytecode.SoundEffect
import TuneBank.Bytecode.Token
import TuneBank.Cell
import TuneBank.Channel
import TuneBank.CommandLine.Arguments
import TuneBank.CommandLine.Outcome
import TuneBank.Diagnosed
import TuneBank.DriverTables
import TuneBank.Export.Column
import TuneBank.Export.Import
import TuneBank.Export.ImportError
import TuneBank.Export.Record
import TuneBank.Files.Disk
import TuneBank.Files.FileError
import TuneBank.Files.FileStore
import TuneBank.Files.FileTools
import TuneBank.Files.Node
import TuneBank.Files.Path
import TuneBank.Files.Process
import TuneBank.Files.Program
import TuneBank.Inspection
import TuneBank.Listing.Line
import TuneBank.Listing.Music
import TuneBank.Listing.Symbols
import TuneBank.Macro
import TuneBank.Main
import TuneBank.PackError
import TuneBank.Pool.Basic
import TuneBank.Pool.Numbering
import TuneBank.Pool.Table
import TuneBank.Report
import TuneBank.Run
import TuneBank.RunError
import TuneBank.Settings
import TuneBank.Shell.Command
import TuneBank.Shell.Fields
import TuneBank.Shell.Format
import TuneBank.Shell.Pattern
import TuneBank.Shell.Reader
import TuneBank.Shell.Run
import TuneBank.Shell.Sum
import TuneBank.Shell.Test
import TuneBank.Sizes
import TuneBank.Song
import TuneBank.Source
import TuneBank.Summary
import TuneBank.Text.Capital
import TuneBank.Text.Fields
import TuneBank.Text.Invisible
import TuneBank.Text.Numeral
import TuneBank.Text.Quoted
import TuneBank.Text.Utf8
import TuneBank.Title
import TuneBank.Toml.Document
import TuneBank.Toml.Number
import TuneBank.Toml.Scalar
import TuneBank.Toml.Token
import TuneBank.Toml.Value
import TuneBank.Track
import TuneBank.Proofs.Stream.Driver
import TuneBank.Proofs.Stream.Playback
import TuneBank.Proofs.Pool.Interning
import TuneBank.Proofs.Pool.Requests
import TuneBank.Proofs.Pool.Linked
import TuneBank.Proofs.Export.Cells
import TuneBank.Proofs.Track.Data
import TuneBank.Proofs.Stream.Reports
import TuneBank.Proofs.Stream.Grammar
import TuneBank.Proofs.Stream.Gaps
import TuneBank.Proofs.Stream.Overflow
import TuneBank.Proofs.Stream.Clean
import TuneBank.Proofs.Batch.Calls
import TuneBank.Proofs.Batch.Playback
import TuneBank.Proofs.Pool.Runs
import TuneBank.Proofs.Stream.Renaming
import TuneBank.Proofs.Pool.Correspondence
import TuneBank.Proofs.Export.Grammar
import TuneBank.Proofs.Export.Columns
import TuneBank.Proofs.Export.Spelling
import TuneBank.Proofs.Export.Decode
import TuneBank.Proofs.Export.RoundTrip
import TuneBank.Proofs.Export.Printer
import TuneBank.Proofs.Export.Invariant
import TuneBank.Proofs.Macro.Playback
import TuneBank.Proofs.Export.Attribution
import TuneBank.Proofs.Pool.Ledger
import TuneBank.Proofs.Listing.Assembler
import TuneBank.Proofs.Listing.Blocks
import TuneBank.Proofs.Listing.Operands
import TuneBank.Proofs.Listing.Streams
import TuneBank.Proofs.Listing.Image
import TuneBank.Proofs.Listing.Labels
import TuneBank.Proofs.Listing.Encoding
import TuneBank.Proofs.Batch.Listing
import TuneBank.Proofs.Pool.Repacking
import TuneBank.Proofs.Text.Symbol
import TuneBank.Proofs.Text.Renames
import TuneBank.Proofs.Batch.Symbols
import TuneBank.Proofs.Batch.Interleaving
import TuneBank.Proofs.Checked.Steps
import TuneBank.Proofs.Checked.Text
import TuneBank.Proofs.Checked.Columns
import TuneBank.Proofs.Checked.Records
import TuneBank.Proofs.Checked.Cells
import TuneBank.Proofs.Checked.Import
import TuneBank.Proofs.Checked.Encoding
import TuneBank.Proofs.Checked.SoundEffect
import TuneBank.Proofs.Checked.Packing
import TuneBank.Proofs.Checked.Listing
import TuneBank.Proofs.Checked.Run
import TuneBank.Proofs.Pool.Diagnostics
import TuneBank.Proofs.Batch.Accounts
import TuneBank.Proofs.Batch.Statistics
import TuneBank.Proofs.Batch.DataSize
import TuneBank.Proofs.Pool.Alike
import TuneBank.Proofs.Export.Problems
import TuneBank.Proofs.Export.Dropped
import TuneBank.Proofs.Export.Contents
import TuneBank.Proofs.Batch.Files
import TuneBank.Proofs.Pool.References
import TuneBank.Proofs.Pool.SongReports
import TuneBank.Proofs.Stream.Pitches
import TuneBank.Proofs.Summary.Notes
