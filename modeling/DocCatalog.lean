import DocCatalog.CommandLine.Failure
import DocCatalog.Main
import DocCatalog.Proofs.Files.Ways
import DocCatalog.Proofs.Files.Extension
import DocCatalog.Proofs.Files.Replacement
import DocCatalog.Proofs.Sync.Plan
import DocCatalog.Proofs.Sync.Frame
import DocCatalog.Proofs.Sync.Accounting
import DocCatalog.Proofs.Files.Pieces
import DocCatalog.Proofs.Files.Straight
import DocCatalog.Proofs.Sync.Separation
import DocCatalog.Proofs.Sync.DryRun
import DocCatalog.Proofs.Glob.Order
import DocCatalog.Proofs.Glob.Reach
import DocCatalog.Proofs.Files.Again
import DocCatalog.Proofs.Sync.Rerun
import DocCatalog.Proofs.Emit.Entries
import DocCatalog.Proofs.Emit.Unambiguous
import DocCatalog.Proofs.Extract.FirstOfName
import DocCatalog.Proofs.Emit.Arrangement
import DocCatalog.Proofs.Files.Beside
import DocCatalog.Proofs.Sync.Noninterference
import DocCatalog.Proofs.Text.Splitting
import DocCatalog.Proofs.Text.Trimmed
import DocCatalog.Proofs.Doc.Written
import DocCatalog.Proofs.Doc.Sections
import DocCatalog.Proofs.Doc.RoundTrip
import DocCatalog.Proofs.Extract.Isolation
import DocCatalog.Proofs.Sync.PlainRun
import DocCatalog.Proofs.CommandLine.Flags
import DocCatalog.Proofs.CommandLine.Answers
import DocCatalog.Proofs.Emit.Braces
import DocCatalog.Proofs.Emit.EntryCount
import DocCatalog.Proofs.Emit.Classified
import DocCatalog.Proofs.Extract.Tally
import DocCatalog.Proofs.Sync.Conservation
import DocCatalog.Proofs.Emit.Decoding
import DocCatalog.Proofs.Emit.Verdicts
import DocCatalog.Proofs.Files.AllOrNothing
import DocCatalog.Proofs.Extract.PatternSet
import DocCatalog.Extract.Unread
import DocCatalog.Proofs.Emit.Enclosed
import DocCatalog.Proofs.Extract.LineOrder
import DocCatalog.Proofs.Text.Indented
import DocCatalog.Proofs.Doc.Blocks
import DocCatalog.Proofs.Doc.Examples
import DocCatalog.Proofs.Outline.TrailingComment
import DocCatalog.Proofs.Report.Listing
import DocCatalog.Proofs.Extract.Segments
import DocCatalog.Proofs.Extract.Arguments
import DocCatalog.Proofs.Outline.Unwinding
import DocCatalog.Proofs.Outline.Sites
import DocCatalog.Proofs.Extract.Described
import DocCatalog.Proofs.Extract.WrittenFlags
import DocCatalog.Proofs.Text.Visible
import DocCatalog.Proofs.Doc.Delimiters
import DocCatalog.Proofs.Script.StandardValue
import DocCatalog.Proofs.Text.Dedent
import DocCatalog.Proofs.Doc.Parameters
import DocCatalog.Proofs.Doc.Links
import DocCatalog.Proofs.Extract.ClassMembers
import DocCatalog.Proofs.CommandLine.Partition
import DocCatalog.Proofs.Text.Occurrence
import DocCatalog.Proofs.Reference.Gathering
import DocCatalog.Proofs.Reference.Bullets
import DocCatalog.Proofs.Reference.Enrichment
import DocCatalog.Proofs.Reference.Table
import DocCatalog.Proofs.Outline.Decorated
import DocCatalog.Proofs.Extract.RelatedNames
