import Transclude.Block
import Transclude.Cli.Arguments
import Transclude.Cli.Paint
import Transclude.Cli.Run
import Transclude.Command.Fault
import Transclude.Command.Lexeme
import Transclude.Command.Quoted
import Transclude.Command.Token
import Transclude.Config
import Transclude.Diff.Edit
import Transclude.Diff.Settle
import Transclude.Diff.Shortest
import Transclude.Diff.Unified
import Transclude.Directive.Basic
import Transclude.Directive.Command
import Transclude.Directive.Pattern
import Transclude.Document.Part
import Transclude.Document.Refresh
import Transclude.Document.Update
import Transclude.Failure
import Transclude.Fence
import Transclude.Files.Config
import Transclude.Files.Glob
import Transclude.Files.Ignore
import Transclude.Files.Path
import Transclude.Files.Search
import Transclude.Files.Source
import Transclude.Files.Tree
import Transclude.Language
import Transclude.Main
import Transclude.Proofs.Block.Crlf
import Transclude.Proofs.Block.Echo
import Transclude.Proofs.Block.Fencing
import Transclude.Proofs.Block.Skip
import Transclude.Proofs.Command.Quoted
import Transclude.Proofs.Command.Reading
import Transclude.Proofs.Directive.Grammar
import Transclude.Proofs.Directive.Quoting
import Transclude.Proofs.Directive.RoundTrip
import Transclude.Proofs.Document.Calls
import Transclude.Proofs.Document.Crlf
import Transclude.Proofs.Document.Damage
import Transclude.Proofs.Document.Embed
import Transclude.Proofs.Document.Resync
import Transclude.Proofs.Document.Run
import Transclude.Proofs.Fence
import Transclude.Proofs.Text.Crlf
import Transclude.Proofs.Text.Lines
import Transclude.Reference
import Transclude.Regex.Basic
import Transclude.Regex.Expr
import Transclude.Regex.Meaning
import Transclude.Regex.Node
import Transclude.Regex.Reader
import Transclude.Regex.Size
import Transclude.Snippet
import Transclude.System
import Transclude.Text.Basic
import Transclude.Text.Bytes
import Transclude.Through
import Transclude.Toml.Quote
import Transclude.Toml.Reader
import Transclude.Toml.Scalar
import Transclude.Toml.Table
import Transclude.Toml.Value
import Transclude.Unicode.Age
import Transclude.Unicode.Binary
import Transclude.Unicode.Boundary
import Transclude.Unicode.CaseFolding
import Transclude.Unicode.CodeSet
import Transclude.Unicode.GeneralCategory
import Transclude.Unicode.Property
import Transclude.Unicode.Runs
import Transclude.Unicode.Script
import Transclude.Proofs.Block.Extent
import Transclude.Proofs.Document.Reading
import Transclude.Proofs.Document.Keeping
import Transclude.Proofs.Document.Strip
import Transclude.Proofs.Document.Concat
import Transclude.Proofs.Document.FirstFailure
import Transclude.Proofs.Directive.Forms
import Transclude.Proofs.Document.Fences
import Transclude.Proofs.Files.Source
import Transclude.Proofs.Cli.Batch
import Transclude.Proofs.Cli.Clean
import Transclude.Proofs.Files.Current
import Transclude.Proofs.Document.Staying
import Transclude.Proofs.Cli.Modes
import Transclude.Proofs.Block.Written
import Transclude.Proofs.Snippet
import Transclude.Proofs.Command.Layout
import Transclude.Proofs.Command.Shift
import Transclude.Proofs.Directive.Escapes
import Transclude.Proofs.Document.Endings
import Transclude.Proofs.Reference
import Transclude.Proofs.Command.Progress
import Transclude.Proofs.Document.BareFences
import Transclude.Proofs.Files.Search
import Transclude.Proofs.Diff.Edits
import Transclude.Proofs.Diff.Unified
import Transclude.Proofs.Cli.Paint
import Transclude.Proofs.Diff.Shown
import Transclude.Proofs.Command.Ending
import Transclude.Proofs.Language
import Transclude.Proofs.Document.Ending
