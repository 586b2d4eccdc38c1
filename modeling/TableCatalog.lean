import TableCatalog.Main
import TableCatalog.Proofs.OrderedMap
import TableCatalog.Proofs.Tables
import TableCatalog.Proofs.Merge
import TableCatalog.Proofs.FileTree.Append
import TableCatalog.Proofs.Run
import TableCatalog.Proofs.Listing
import TableCatalog.Proofs.Text.Blank
import TableCatalog.Proofs.ColumnType
import TableCatalog.Proofs.Page.Description
import TableCatalog.Proofs.Page.Skipped
import TableCatalog.Proofs.Build.Environment
import TableCatalog.Proofs.Build.Provenance
import TableCatalog.Proofs.Build.Accounting
import TableCatalog.Proofs.Build.Faults
import TableCatalog.Proofs.Build.Document
import TableCatalog.Proofs.Build.Inputs
import TableCatalog.Proofs.Build.Selection
import TableCatalog.Proofs.Page.Sheet
import TableCatalog.Proofs.Json.Grammar
import TableCatalog.Proofs.Json.Printer
import TableCatalog.Proofs.Document
import TableCatalog.Proofs.Path
import TableCatalog.Proofs.FileTree.Place
import TableCatalog.Proofs.SourceDirectory
import TableCatalog.Proofs.Build.NewFile
import TableCatalog.Proofs.Extract
import TableCatalog.Proofs.Json.Reader
import TableCatalog.Proofs.Overrides
import TableCatalog.Proofs.Build.Rebuild
import TableCatalog.Proofs.Check
import TableCatalog.Proofs.Build.Repair
import TableCatalog.Proofs.Build.AddedPage
import TableCatalog.Proofs.Commands
import TableCatalog.Proofs.Page.Divider
import TableCatalog.Proofs.Page.Heading
import TableCatalog.Proofs.Build.TableNames
import TableCatalog.Proofs.Page.Padding
import TableCatalog.Proofs.Page.Noise
import TableCatalog.Proofs.Page.Append
import TableCatalog.Proofs.Page.Columns
import TableCatalog.Proofs.Logging
import TableCatalog.Proofs.Build.Entry
import TableCatalog.Proofs.Build.Replay
import TableCatalog.Proofs.Json.Rearranged
import TableCatalog.Proofs.Build.Reorder
import TableCatalog.Proofs.Text.ByteOrder
import TableCatalog.Proofs.FileTree.Entries
import TableCatalog.Proofs.Discovery
import TableCatalog.Proofs.EnvironmentSet
import TableCatalog.Proofs.Glob.Bytes
import TableCatalog.Proofs.Glob.Splits
import TableCatalog.Proofs.Glob.Simple
import TableCatalog.Proofs.Glob.Star
import TableCatalog.Proofs.Glob.QuestionMark
