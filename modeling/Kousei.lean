import Kousei.Check.Hover
import Kousei.Check.SemanticTokens
import Kousei.Main
import Kousei.Proofs.Text.Stretch
import Kousei.Proofs.Extract.Body
import Kousei.Proofs.Extract.Html
import Kousei.Proofs.Extract.Latex
import Kousei.Proofs.Extract.LatexCommands
import Kousei.Proofs.Extract.Literals
import Kousei.Proofs.Extract.Pieces
import Kousei.Proofs.Extract.Python
import Kousei.Proofs.Extract.Rust
import Kousei.Proofs.Extract.Segments
import Kousei.Proofs.Extract.Scan
import Kousei.Proofs.Tree.Candidates
import Kousei.Proofs.Tree.Grammar
import Kousei.Proofs.Tree.Registry
import Kousei.Proofs.Check.Run
import Kousei.Proofs.Check.Extraction
import Kousei.Proofs.Text.Position
import Kousei.Proofs.Morph.Anchor
import Kousei.Proofs.Morph.Placement
import Kousei.Proofs.Morph.Sentence
import Kousei.Proofs.Morph.Partition
import Kousei.Proofs.Rule.Ranges
import Kousei.Proofs.Rule.Streak
import Kousei.Proofs.Rule.Repetition
import Kousei.Proofs.Check.Ranges
import Kousei.Proofs.Extract.SlashComments
import Kousei.Proofs.Check.Agreement
import Kousei.Proofs.Check.Publication
import Kousei.Proofs.Check.Course
import Kousei.Proofs.Check.Memory
import Kousei.Proofs.Check.Answer
import Kousei.Proofs.Check.History
import Kousei.Proofs.Check.Failures
import Kousei.Proofs.Check.Isolation
import Kousei.Proofs.Check.Loading
import Kousei.Proofs.Enrichment.Address
import Kousei.Proofs.Enrichment.Record
import Kousei.Proofs.Check.Order
import Kousei.Proofs.Check.Workers
import Kousei.Proofs.Check.Fallback
import Kousei.Proofs.Settings.Description
import Kousei.Proofs.Settings.Entries
import Kousei.Proofs.Settings.Fields
import Kousei.Proofs.Settings.Mapping
import Kousei.Proofs.Settings.Acceptance
import Kousei.Proofs.Settings.File
import Kousei.Proofs.Text.Lines
import Kousei.Proofs.Encoding.Binary64
import Kousei.Proofs.Encoding.Share
import Kousei.Proofs.Decimal.Overflow
import Kousei.Proofs.Encoding.Utf8
import Kousei.Proofs.Encoding.Utf16
import Kousei.Proofs.Encoding.Cp932
import Kousei.Proofs.Encoding.Reading
import Kousei.Proofs.Rule.Runs
import Kousei.Proofs.Rule.Order
import Kousei.Proofs.Rule.Shift
import Kousei.Proofs.Rule.Touching
import Kousei.Proofs.Rule.Looseness
import Kousei.Proofs.Morph.Spacing
import Kousei.Proofs.Morph.Backends
import Kousei.Proofs.Check.Hover
import Kousei.Proofs.Extract.Reextraction
import Kousei.Proofs.Check.Words
import Kousei.Proofs.Check.Observation
import Kousei.Proofs.Check.Whole
import Kousei.Proofs.Check.Undisturbed
import Kousei.Proofs.Text.Blanks
import Kousei.Proofs.Extract.Stars
import Kousei.Proofs.Extract.Forms
import Kousei.Proofs.Text.LineEnds
import Kousei.Proofs.Extract.MarkerLines
import Kousei.Proofs.Extract.LineEnds
import Kousei.Proofs.Extract.Heads
import Kousei.Proofs.Extract.Masking
import Kousei.Proofs.Tree.Docstrings
import Kousei.Proofs.Tree.Addresses
import Kousei.Proofs.Tree.Walk
import Kousei.Proofs.Tree.ByteIndex
import Kousei.Proofs.Check.Spans
import Kousei.Proofs.Encoding.Marks
import Kousei.Proofs.Files.Places
import Kousei.Proofs.Files.Listing
import Kousei.Proofs.Files.Scan
import Kousei.Proofs.Rule.Feeds
