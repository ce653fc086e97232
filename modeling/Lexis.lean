import Lexis.Body
import Lexis.Category
import Lexis.Command.Files
import Lexis.Command.Options
import Lexis.Command.Report
import Lexis.Cut
import Lexis.Document.Basic
import Lexis.Document.Edit
import Lexis.Document.Query
import Lexis.Glob.Match
import Lexis.Glob.Pattern
import Lexis.Grammar.Basic
import Lexis.Grammar.Compiled
import Lexis.Grammar.Declarative
import Lexis.Grammar.Keywords
import Lexis.Grammar.Numeral
import Lexis.Grammar.Opening
import Lexis.Grammar.Scan
import Lexis.Grammar.Scripted
import Lexis.Highlighter
import Lexis.Language.Basic
import Lexis.Language.Grammar
import Lexis.Language.Lookup
import Lexis.LineStates
import Lexis.Main
import Lexis.Markdown.Block
import Lexis.Markdown.Inline
import Lexis.Markdown.Scan
import Lexis.Path
import Lexis.Proofs.Body
import Lexis.Proofs.Cut
import Lexis.Proofs.Document.Allowed
import Lexis.Proofs.Document.Apply
import Lexis.Proofs.Document.Edit
import Lexis.Proofs.Document.Patch
import Lexis.Proofs.Document.Reachable
import Lexis.Proofs.Document.Splice
import Lexis.Proofs.Grammar.Interrupted
import Lexis.Proofs.Grammar.Kinds
import Lexis.Proofs.Grammar.LineLocal
import Lexis.Proofs.Grammar.Lookahead
import Lexis.Proofs.Grammar.Opening
import Lexis.Proofs.Grammar.Operators
import Lexis.Proofs.Grammar.Returns
import Lexis.Proofs.Grammar.Rules
import Lexis.Proofs.Highlighter.Allowed
import Lexis.Proofs.Highlighter.LineStates
import Lexis.Proofs.Highlighter.Lines
import Lexis.Proofs.Markdown.LineLocal
import Lexis.Proofs.Markdown.Rules
import Lexis.Proofs.Rescan
import Lexis.Proofs.Rescan.Fits
import Lexis.Proofs.Returns
import Lexis.Proofs.Scan.Append
import Lexis.Proofs.Scanner.Covers
import Lexis.Proofs.Scanner.LineLocal
import Lexis.Proofs.Scanner.Pieces
import Lexis.Proofs.Scanner.States
import Lexis.Proofs.Text.Boundary
import Lexis.Proofs.Text.Utf8
import Lexis.Proofs.Text.WholeLines
import Lexis.Proofs.Token.CategoryAt
import Lexis.Proofs.Token.Partition
import Lexis.Proofs.Token.Tiles
import Lexis.Rescan
import Lexis.Scan
import Lexis.Scanner
import Lexis.Search
import Lexis.Settings.Basic
import Lexis.Settings.File
import Lexis.Span
import Lexis.State
import Lexis.Text.Basic
import Lexis.Text.Classes
import Lexis.Text.Cursor
import Lexis.Text.Folding
import Lexis.Text.Lines
import Lexis.Text.Quoted
import Lexis.Text.Utf8
import Lexis.Token
import Lexis.Token.Partition
import Lexis.Toml.Date
import Lexis.Toml.Document
import Lexis.Toml.Number
import Lexis.Toml.Quoted
import Lexis.Toml.Statement
import Lexis.Toml.Storable
import Lexis.Toml.Value
import Lexis.Toml.Written
import Lexis.Unicode.Alphabetic
import Lexis.Unicode.GraphemeExtend
import Lexis.Unicode.Numeric
import Lexis.Unicode.Ranges
import Lexis.Unicode.Unprintable
import Lexis.Unicode.Uppercase
import Lexis.Unicode.WhiteSpace
import Lexis.Proofs.Token.Accepted
import Lexis.Proofs.Markdown.Returns
import Lexis.Proofs.Settings.Valid
import Lexis.Proofs.Text.ByteOrder
import Lexis.Proofs.Settings.Choice
import Lexis.Proofs.Toml.Quoted
import Lexis.Proofs.Toml.Written
import Lexis.Proofs.Toml.Document
import Lexis.Proofs.Settings.File
import Lexis.Proofs.Document.Extent
import Lexis.Proofs.Command.Report
import Lexis.Proofs.Grammar.Steps
import Lexis.Proofs.Grammar.Numbers
import Lexis.Proofs.Body.Ends
import Lexis.Proofs.Grammar.Constructs
import Lexis.Proofs.Text.MaximalRun
import Lexis.Proofs.Grammar.Shapes
import Lexis.Proofs.Scanner.Since
import Lexis.Proofs.Text.Classes
import Lexis.Proofs.Grammar.Tags
import Lexis.Proofs.Markdown.Marks
import Lexis.Proofs.Markdown.Blocks
import Lexis.Proofs.Markdown.Inlines
import Lexis.Proofs.Search
import Lexis.Proofs.Token.Restrict
import Lexis.Proofs.Document.Query
import Lexis.Proofs.Text.Folding
import Lexis.Proofs.Glob.Folding
import Lexis.Proofs.Settings.Folding
import Lexis.Proofs.Grammar.Directives
import Lexis.Proofs.Body.OneLine
import Lexis.Proofs.Grammar.Carried
import Lexis.Proofs.Grammar.Keywords
import Lexis.Proofs.Rescan.OldText
import Lexis.Proofs.Rescan.Plain
import Lexis.Proofs.Scanner.Cursor
