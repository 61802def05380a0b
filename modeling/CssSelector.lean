import CssSelector.Assembly
import CssSelector.Character
import CssSelector.CommandLine.Arguments
import CssSelector.CommandLine.Report
import CssSelector.CommandLine.Run
import CssSelector.Error
import CssSelector.Escape
import CssSelector.Json
import CssSelector.Json.Scan
import CssSelector.Json.Skip
import CssSelector.Json.Token
import CssSelector.Lexeme
import CssSelector.Lexeme.Bracket
import CssSelector.Lexeme.Pseudo
import CssSelector.Lexing
import CssSelector.Main
import CssSelector.Name
import CssSelector.Options
import CssSelector.Options.Json
import CssSelector.Outline
import CssSelector.Parenthesis
import CssSelector.Parse
import CssSelector.Proofs.Bracket
import CssSelector.Proofs.ErrorPlace
import CssSelector.Proofs.Front
import CssSelector.Proofs.Grammar
import CssSelector.Proofs.Grammar.Complete
import CssSelector.Proofs.Grammar.Parse
import CssSelector.Proofs.Grammar.Sound
import CssSelector.Proofs.Name
import CssSelector.Proofs.OpenList
import CssSelector.Proofs.Parenthesis
import CssSelector.Proofs.Run
import CssSelector.Proofs.Spelling
import CssSelector.Proofs.WellFormed
import CssSelector.Proofs.WellFormed.Parse
import CssSelector.Proofs.Written
import CssSelector.Quotation
import CssSelector.Seen
import CssSelector.Style
import CssSelector.Text
import CssSelector.Text.CaseIgnorable
import CssSelector.Text.CaseRun
import CssSelector.Text.Cased
import CssSelector.Text.CodeRange
import CssSelector.Text.GraphemeExtend
import CssSelector.Text.Lines
import CssSelector.Text.Lowercase
import CssSelector.Text.Quoted
import CssSelector.Text.Space
import CssSelector.Text.Unprintable
import CssSelector.Token
import CssSelector.Warning
import CssSelector.Proofs.Written.Parse
import CssSelector.Proofs.Replacement
import CssSelector.Proofs.Replacement.Grammar
import CssSelector.Proofs.Argument
import CssSelector.Proofs.Comma
import CssSelector.Proofs.Read
import CssSelector.Proofs.Completion
import CssSelector.Proofs.FinalError
import CssSelector.Proofs.Escape
import CssSelector.Proofs.Replacement.Blank
import CssSelector.Proofs.Join
import CssSelector.Proofs.Folding
import CssSelector.Proofs.Escape.Boundary
import CssSelector.Proofs.Warnings
import CssSelector.Proofs.Cursor.Slice
import CssSelector.Proofs.Cursor.Escape
import CssSelector.Proofs.Cursor.Enclosed
import CssSelector.Proofs.Cursor.Parser
import CssSelector.Proofs.Cursor.Token
import CssSelector.Proofs.Cursor.Parse
import CssSelector.Proofs.CommandLine.Report
import CssSelector.Proofs.Json.Quote
import CssSelector.Proofs.Json.Layout
import CssSelector.Proofs.Json.Token
import CssSelector.Proofs.Name.Units
import CssSelector.Proofs.Bracket.Body
import CssSelector.Proofs.Size
import CssSelector.Proofs.Cursor.Turn
import CssSelector.Proofs.Cursor.Limit
import CssSelector.Proofs.Cursor.Boundary
import CssSelector.Proofs.Escape.Segment
import CssSelector.Proofs.Alike
import CssSelector.Proofs.Seen
import CssSelector.Proofs.Escape.CodePoint
import CssSelector.Proofs.Name.Longest
import CssSelector.Proofs.Quotation
import CssSelector.Proofs.Parenthesis.Matcher
import CssSelector.Proofs.Text.Lines
import CssSelector.Proofs.CommandLine.Arguments
import CssSelector.Proofs.CommandLine.File
