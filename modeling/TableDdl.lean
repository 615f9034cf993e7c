import TableDdl.Unicode.RangeTable
import TableDdl.Unicode.CaseTable
import TableDdl.Unicode.Word
import TableDdl.Unicode.Digit
import TableDdl.Unicode.GraphemeExtend
import TableDdl.Unicode.Cased
import TableDdl.Unicode.CaseIgnorable
import TableDdl.Unicode.Unprintable
import TableDdl.Unicode.Lowercase
import TableDdl.Unicode.Uppercase
import TableDdl.Unicode.SimpleFold
import TableDdl.Automaton.Utf8
import TableDdl.Automaton.Ranges
import TableDdl.Automaton.Expr
import TableDdl.Automaton.Parse
import TableDdl.Automaton.Size
import TableDdl.Pattern.Basic
import TableDdl.Pattern.Match
import TableDdl.Pattern.Program
import TableDdl.Pattern.Search
import TableDdl.Text.Case
import TableDdl.Text.Literal
import TableDdl.Text.Lines
import TableDdl.Text.Replace
import TableDdl.Quoting
import TableDdl.TypeKind
import TableDdl.TypeRegistry
import TableDdl.Schema.Column
import TableDdl.Schema.Key
import TableDdl.Schema.ForeignKey
import TableDdl.Schema.Options
import TableDdl.Schema.Table
import TableDdl.Warning
import TableDdl.Grammar.Basic
import TableDdl.Grammar.Column
import TableDdl.Grammar.Constraint
import TableDdl.Grammar.Options
import TableDdl.Pattern.Iterate
import TableDdl.Reader.Values
import TableDdl.Grammar.Budget
import TableDdl.Reader.Column
import TableDdl.Reader.Constraint
import TableDdl.Reader.Options
import TableDdl.Reader.Table
import TableDdl.Describe.Row
import TableDdl.Describe.Create
import TableDdl.Error
import TableDdl.Json
import TableDdl.Report
import TableDdl.Toml.Scalar
import TableDdl.Toml.Node
import TableDdl.Toml.Document
import TableDdl.Config.Basic
import TableDdl.Config.Toml
import TableDdl.Cli.Args
import TableDdl.Cli.Run
import TableDdl.Render.Key
import TableDdl.Render.Constraint
import TableDdl.Render.Column
import TableDdl.Render.Options
import TableDdl.Main
import TableDdl.Proofs.SortedOptions
import TableDdl.Proofs.LineByLine
import TableDdl.Proofs.LineAccounting
import TableDdl.Proofs.QualifiedNames
import TableDdl.Proofs.LineEndings
import TableDdl.Proofs.Matching.Walk
import TableDdl.Proofs.Matching.Compile
import TableDdl.Proofs.Matching.Leftmost
import TableDdl.Proofs.Matching.Ways
import TableDdl.Proofs.Matching.Evaluate
import TableDdl.Proofs.ColumnLines
import TableDdl.Proofs.Matching.Languages
import TableDdl.Proofs.Matching.Alphabet
import TableDdl.Proofs.ColumnHeads
import TableDdl.Proofs.Degradation
import TableDdl.Proofs.DirectiveNames
import TableDdl.Proofs.OptionLines
import TableDdl.Proofs.OptionMatches
import TableDdl.Proofs.OptionScan
import TableDdl.Proofs.ListingRows
import TableDdl.Proofs.ConstraintHeads
import TableDdl.Proofs.CheckLines
import TableDdl.Proofs.KeyColumnLists
import TableDdl.Proofs.ForeignKeyLines
import TableDdl.Proofs.ConfiguredTypes
import TableDdl.Proofs.SplittingTermination
import TableDdl.Proofs.KeyLines
import TableDdl.Proofs.CreateStatements
import TableDdl.Proofs.ColumnClauses
import TableDdl.Proofs.TypeArgLists
import TableDdl.Proofs.DescribeColumns
import TableDdl.Proofs.DescribeRoundTrip
