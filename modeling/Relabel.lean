import Relabel.Batch.Chain
import Relabel.Batch.Entry
import Relabel.Batch.Order
import Relabel.Batch.Run
import Relabel.Batch.Scan
import Relabel.Binary.Basic
import Relabel.CommandLine.Arguments
import Relabel.CommandLine.Report
import Relabel.CommandLine.Run
import Relabel.Digest.Blake3
import Relabel.Digest.Sha2
import Relabel.Digest.Words
import Relabel.Disk.Basic
import Relabel.Disk.Change
import Relabel.Disk.Node
import Relabel.Failure
import Relabel.Json.Reader
import Relabel.Json.Value
import Relabel.Main
import Relabel.Metadata.Digest
import Relabel.Metadata.Disk
import Relabel.Metadata.FileTimes
import Relabel.Metadata.Picture
import Relabel.Metadata.Song
import Relabel.Metadata.Source
import Relabel.Naming.Error
import Relabel.Naming.Lookups
import Relabel.Naming.Value
import Relabel.Number.Floating
import Relabel.Number.FloatingText
import Relabel.Numbering.Counters
import Relabel.Numbering.Index
import Relabel.Numbering.System
import Relabel.Path.Basic
import Relabel.Path.Clean
import Relabel.Path.Extension
import Relabel.Pattern.Basic
import Relabel.Pattern.Bracket
import Relabel.Pattern.CharClass
import Relabel.Pattern.Escape
import Relabel.Pattern.Expansion
import Relabel.Pattern.Expr
import Relabel.Pattern.Match
import Relabel.Pattern.Program
import Relabel.Pattern.Reader
import Relabel.Pattern.Replacement
import Relabel.Pattern.Search
import Relabel.Picture.Field
import Relabel.Picture.Jpeg
import Relabel.Picture.Record
import Relabel.Picture.Tiff
import Relabel.Proofs.Batch.Arrangement
import Relabel.Proofs.Batch.Chains
import Relabel.Proofs.Batch.Extension
import Relabel.Proofs.Batch.Independence
import Relabel.Proofs.Batch.Numbers
import Relabel.Proofs.Batch.Scanning
import Relabel.Proofs.Batch.Targets
import Relabel.Proofs.Batch.Trace
import Relabel.Proofs.Batch.Unmatched
import Relabel.Proofs.Disk.Tree
import Relabel.Proofs.Naming.AtOnce
import Relabel.Proofs.Naming.Locating
import Relabel.Proofs.Naming.Parents
import Relabel.Proofs.Naming.WholeName
import Relabel.Proofs.Numbering.Canonical
import Relabel.Proofs.Numbering.Counters
import Relabel.Proofs.Numbering.Interleaving
import Relabel.Proofs.Numbering.Rendering
import Relabel.Proofs.Numbering.Searching
import Relabel.Proofs.Path.Clean
import Relabel.Proofs.Path.Walk
import Relabel.Proofs.Pattern.Literal
import Relabel.Proofs.Pattern.Replacing
import Relabel.Proofs.Rows.Columns
import Relabel.Proofs.Settings.Keeping
import Relabel.Proofs.Template.Carving
import Relabel.Proofs.Template.RoundTrip
import Relabel.Proofs.Template.Scopes
import Relabel.Proofs.Template.Submatches
import Relabel.Proofs.Text.NaturalOrder
import Relabel.Proofs.Time.ReadingBack
import Relabel.Rows.Reader
import Relabel.Rows.Table
import Relabel.Settings.Basic
import Relabel.Settings.Store
import Relabel.Song.Encoding
import Relabel.Song.Frames
import Relabel.Song.Record
import Relabel.Template.Extraction
import Relabel.Template.Form
import Relabel.Template.Spelling
import Relabel.Template.Variable
import Relabel.Text.Alphabetic
import Relabel.Text.Basic
import Relabel.Text.Blank
import Relabel.Text.CaseTables
import Relabel.Text.CaseVariant
import Relabel.Text.Casing
import Relabel.Text.CodeRanges
import Relabel.Text.DecimalDigit
import Relabel.Text.Letter
import Relabel.Text.NaturalOrder
import Relabel.Text.Numeral
import Relabel.Text.Occurrence
import Relabel.Text.Utf8
import Relabel.Text.WordCharacter
import Relabel.Time.Date
import Relabel.Time.DateField
import Relabel.Time.Layout
import Relabel.Time.Moment
import Relabel.Time.NameDate
import Relabel.Time.Timestamp
import Relabel.Time.Zone
import Relabel.Toml.Quoted
import Relabel.Toml.Reader
import Relabel.Toml.Scalar
import Relabel.Toml.Value
import Relabel.Transform
