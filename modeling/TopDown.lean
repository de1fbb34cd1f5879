import TopDown.Main
import TopDown.Report.Table
import TopDown.Report.Lookahead
import TopDown.Report.Productions
import TopDown.Derivation
import TopDown.Parser.Basic
import TopDown.Parser.Measure
import TopDown.Table
import TopDown.Lookahead.Follow
import TopDown.Grammar.Reader
import TopDown.Grammar.Error
import TopDown.Text.Json
import TopDown.Text.Printable
import TopDown.Text.Blank
import TopDown.Text.Lines
import TopDown.CommandLine.Files
import TopDown.Text.WordChar
import TopDown.Text.Ranges
import TopDown.WordSet
import TopDown.Symbol
import TopDown.Ordered.Map
import TopDown.Proofs.Truncation
import TopDown.Proofs.Samples
import TopDown.Proofs.LeastLookahead
import TopDown.Proofs.SearchLog
import TopDown.Proofs.Consumption
import TopDown.Proofs.Takeovers
import TopDown.Proofs.Tabulation
import TopDown.Proofs.Recognition
import TopDown.Proofs.Derivability
import TopDown.Proofs.LambdaFree
import TopDown.Proofs.SoundLookahead
import TopDown.Proofs.Padding
import TopDown.Proofs.Renaming
import TopDown.Proofs.Invariance
import TopDown.Proofs.LeftRecursion
import TopDown.Proofs.Extension
import TopDown.Proofs.Items
import TopDown.Proofs.LineGrammar
import TopDown.Proofs.ReadBack
import TopDown.Proofs.Rounds
import TopDown.Proofs.Deterministic
import TopDown.Proofs.Declaration
import TopDown.Proofs.EndMarks
import TopDown.Proofs.Windows
import TopDown.Proofs.SharedPrefix
import TopDown.Proofs.Layout
import TopDown.Proofs.ShownText
import TopDown.Proofs.WordSetText
import TopDown.Proofs.DerivationText
import TopDown.Proofs.Alignment
import TopDown.Proofs.PlainTable
import TopDown.Proofs.JsonText
import TopDown.Proofs.Answers
import TopDown.Proofs.Concatenation
import TopDown.Proofs.Recursion
import TopDown.Proofs.ShortWords
import TopDown.Proofs.LatexText
