import ArithExpr.Numeral
import ArithExpr.Binary64
import ArithExpr.Token.Kind
import ArithExpr.Token
import ArithExpr.Token.Listing
import ArithExpr.Text.Blank
import ArithExpr.Text.Newline
import ArithExpr.Text.Printable
import ArithExpr.Text.Quoted
import ArithExpr.Text.Similarity
import ArithExpr.Text.Terminal
import ArithExpr.Error
import ArithExpr.Trace
import ArithExpr.Lexer
import ArithExpr.Lexer.Session
import ArithExpr.Expr
import ArithExpr.Expr.Printer
import ArithExpr.Parser.State
import ArithExpr.Parser.Action
import ArithExpr.Parser.Climb
import ArithExpr.Parse
import ArithExpr.Parser.Session
import ArithExpr.CommandLine.Location
import ArithExpr.CommandLine.Files
import ArithExpr.CommandLine.Options
import ArithExpr.CommandLine.Usage
import ArithExpr.CommandLine.Dialogue
import ArithExpr.CommandLine.Command
import ArithExpr.Main
import ArithExpr.Proofs.Lexer.Stream
import ArithExpr.Proofs.Lexer.Tiling
import ArithExpr.Proofs.Lexer.Seam
import ArithExpr.Proofs.Lexer.Spelling
import ArithExpr.Proofs.Grammar.Phrase
import ArithExpr.Proofs.Grammar.Unique
import ArithExpr.Proofs.Grammar.Scanner
import ArithExpr.Proofs.Grammar.Completion
import ArithExpr.Proofs.Parser.Contract
import ArithExpr.Proofs.Parser.Lockstep
import ArithExpr.Proofs.Parser.Start
import ArithExpr.Proofs.Parser.Reading
import ArithExpr.Proofs.Parser.Soundness
import ArithExpr.Proofs.Parser.Completeness
import ArithExpr.Proofs.Parser.Derivation
import ArithExpr.Proofs.Parser.Fault
import ArithExpr.Proofs.Parser.Calls
import ArithExpr.Proofs.Parser.Bound
import ArithExpr.Proofs.Parser.Room
import ArithExpr.Proofs.Parser.Resumption
import ArithExpr.Proofs.Expr.Printer
import ArithExpr.Proofs.Expr.RoundTrip
import ArithExpr.Proofs.Expr.Identity
import ArithExpr.Proofs.Parser.Depth
import ArithExpr.Proofs.Parser.Steps
import ArithExpr.Proofs.Parser.Windows
import ArithExpr.Proofs.Parser.Termination
import ArithExpr.Proofs.Parser.Minimum
import ArithExpr.Proofs.Parser.ViablePrefix
import ArithExpr.Proofs.Parser.Alike
import ArithExpr.Proofs.Parser.Records
import ArithExpr.Proofs.Parser.Notes
import ArithExpr.Proofs.Binary64.Pattern
import ArithExpr.Proofs.Binary64.Rounding
import ArithExpr.Proofs.Numeral.Value
import ArithExpr.Proofs.Numeral.Pattern
import ArithExpr.Proofs.Numeral.Rounding
import ArithExpr.Proofs.CommandLine.Items
import ArithExpr.Proofs.CommandLine.OutputOption
import ArithExpr.Proofs.CommandLine.Outputs
import ArithExpr.Proofs.Lexer.LineEnds
import ArithExpr.Proofs.CommandLine.Files
import ArithExpr.Proofs.CommandLine.Run
import ArithExpr.Proofs.CommandLine.Frame
import ArithExpr.Proofs.Token.Validity
import ArithExpr.Proofs.Token.Listing
import ArithExpr.Proofs.CommandLine.TokenListing
import ArithExpr.Proofs.CommandLine.Verbosity
import ArithExpr.Proofs.CommandLine.Sources
import ArithExpr.Proofs.Lexer.Locality
import ArithExpr.Proofs.CommandLine.Diagnostics
import ArithExpr.Proofs.Parser.Groups
import ArithExpr.Proofs.Parser.Session
import ArithExpr.Proofs.Parser.Interleaving
