import MessageCatalog.CommandLine
import MessageCatalog.CommandLine.Help
import MessageCatalog.CommandLine.Options
import MessageCatalog.CommandLine.Reader
import MessageCatalog.Constants
import MessageCatalog.Document
import MessageCatalog.Document.Reading
import MessageCatalog.Entry
import MessageCatalog.Entry.Check
import MessageCatalog.FileTree
import MessageCatalog.FileTree.Changes
import MessageCatalog.FileTree.Operations
import MessageCatalog.FileTree.Walk
import MessageCatalog.Generation
import MessageCatalog.Generation.Build
import MessageCatalog.Generation.Selection
import MessageCatalog.Generation.Sources
import MessageCatalog.Generation.Write
import MessageCatalog.Json
import MessageCatalog.Json.Fault
import MessageCatalog.Json.Numeral
import MessageCatalog.Json.Punctuation
import MessageCatalog.Json.Reader
import MessageCatalog.Json.Skip
import MessageCatalog.Json.Text
import MessageCatalog.Json.Typed
import MessageCatalog.Json.Writer
import MessageCatalog.Main
import MessageCatalog.Number.Binary64
import MessageCatalog.Number.Shortest
import MessageCatalog.Path
import MessageCatalog.Proofs.Constants.Reader
import MessageCatalog.Proofs.Constants.Unchecked
import MessageCatalog.Proofs.Document.Nesting
import MessageCatalog.Proofs.Document.RoundTrip
import MessageCatalog.Proofs.Entry.Check
import MessageCatalog.Proofs.Entry.Distinctness
import MessageCatalog.Proofs.Entry.KeyPath
import MessageCatalog.Proofs.Entry.Order
import MessageCatalog.Proofs.FileTree.Above
import MessageCatalog.Proofs.FileTree.Effects
import MessageCatalog.Proofs.FileTree.Frame
import MessageCatalog.Proofs.FileTree.Listing
import MessageCatalog.Proofs.FileTree.Moves
import MessageCatalog.Proofs.FileTree.Naming
import MessageCatalog.Proofs.FileTree.Plain
import MessageCatalog.Proofs.FileTree.Resolution
import MessageCatalog.Proofs.Generation.Choice
import MessageCatalog.Proofs.Generation.ConstantsFile
import MessageCatalog.Proofs.Generation.FailedWrite
import MessageCatalog.Proofs.Generation.Fetching
import MessageCatalog.Proofs.Generation.FinishedWrite
import MessageCatalog.Proofs.Generation.Independence
import MessageCatalog.Proofs.Generation.Listed
import MessageCatalog.Proofs.Generation.Reference
import MessageCatalog.Proofs.Generation.Regeneration
import MessageCatalog.Proofs.Generation.Staging
import MessageCatalog.Proofs.Generation.WriteFrame
import MessageCatalog.Proofs.Json.Indented
import MessageCatalog.Proofs.Json.ReadBack
import MessageCatalog.Proofs.Path
import MessageCatalog.Proofs.Rows
import MessageCatalog.Proofs.Session.Outcome
import MessageCatalog.Proofs.Session.SettingsFile
import MessageCatalog.Proofs.Settings.RoundTrip
import MessageCatalog.Proofs.Table.Lookup
import MessageCatalog.Proofs.Table.Reader
import MessageCatalog.Proofs.Table.Sharing
import MessageCatalog.Proofs.Table.UseLine
import MessageCatalog.Proofs.Text.Identifier
import MessageCatalog.Proofs.Text.Lines
import MessageCatalog.Proofs.Text.Literal
import MessageCatalog.Proofs.Text.LiteralGrammar
import MessageCatalog.Report
import MessageCatalog.Rows
import MessageCatalog.Session
import MessageCatalog.Settings
import MessageCatalog.Settings.Location
import MessageCatalog.Settings.Reader
import MessageCatalog.Settings.Validity
import MessageCatalog.Table
import MessageCatalog.Table.Render
import MessageCatalog.Text.Count
import MessageCatalog.Text.HexDigit
import MessageCatalog.Text.Identifier
import MessageCatalog.Text.Literal
import MessageCatalog.Text.LiteralReader
import MessageCatalog.Text.Plain
import MessageCatalog.Text.Style
import MessageCatalog.Unicode.Combining
import MessageCatalog.Unicode.IdentifierContinue
import MessageCatalog.Unicode.IdentifierStart
import MessageCatalog.Unicode.Invisible
import MessageCatalog.Unicode.Ranges
import MessageCatalog.Unicode.WhiteSpace
import MessageCatalog.Proofs.Generation.FolderListing
import MessageCatalog.Proofs.Path.Parents
import MessageCatalog.Proofs.Settings.Search
import MessageCatalog.Proofs.Generation.OutputNames
import MessageCatalog.Proofs.Entry.Resemblance
import MessageCatalog.Proofs.Document.FileName
import MessageCatalog.Proofs.Generation.Namesakes
