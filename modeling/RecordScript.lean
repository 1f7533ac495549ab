import RecordScript.Builtin.Basic
import RecordScript.Builtin.Call
import RecordScript.Calendar.Date
import RecordScript.Calendar.Fields
import RecordScript.Calendar.Format
import RecordScript.Calendar.Reader
import RecordScript.Command.Arguments
import RecordScript.Command.Basic
import RecordScript.Command.Failure
import RecordScript.Csv.Reader
import RecordScript.Csv.Writer
import RecordScript.Decimal.Basic
import RecordScript.Decimal.Division
import RecordScript.Decimal.Notation
import RecordScript.Evaluation.Basic
import RecordScript.Evaluation.Operation
import RecordScript.Evaluation.Outcome
import RecordScript.Execution
import RecordScript.Grammar.Builder
import RecordScript.Grammar.Construct
import RecordScript.Grammar.Cursor
import RecordScript.Grammar.Expression
import RecordScript.Grammar.Parser
import RecordScript.Grammar.Statement
import RecordScript.Grammar.Token
import RecordScript.Grammar.Tree
import RecordScript.Loading.Basic
import RecordScript.Loading.Error
import RecordScript.Loading.Expansion
import RecordScript.Loading.Header
import RecordScript.Loading.Preparation
import RecordScript.Main
import RecordScript.Parallel
import RecordScript.Pattern.Basic
import RecordScript.Pattern.CharSet
import RecordScript.Pattern.Reader
import RecordScript.Pattern.Regex
import RecordScript.Pattern.Search
import RecordScript.Program.Basic
import RecordScript.Program.Config
import RecordScript.Proofs.Calendar.Form
import RecordScript.Proofs.Calendar.Validity
import RecordScript.Proofs.Command.Output
import RecordScript.Proofs.Command.Reached
import RecordScript.Proofs.Command.Stages
import RecordScript.Proofs.Csv.RoundTrip
import RecordScript.Proofs.Decimal.Division
import RecordScript.Proofs.Decimal.Integer
import RecordScript.Proofs.Decimal.Length
import RecordScript.Proofs.Decimal.Numeral
import RecordScript.Proofs.Decimal.Positional
import RecordScript.Proofs.Decimal.Reading
import RecordScript.Proofs.Decimal.Remainder
import RecordScript.Proofs.Decimal.Value
import RecordScript.Proofs.Decimal.Word
import RecordScript.Proofs.Evaluation.Arithmetic
import RecordScript.Proofs.Evaluation.Call
import RecordScript.Proofs.Evaluation.Casting
import RecordScript.Proofs.Evaluation.Comparison
import RecordScript.Proofs.Evaluation.Dates
import RecordScript.Proofs.Evaluation.Faults
import RecordScript.Proofs.Evaluation.Logic
import RecordScript.Proofs.Evaluation.Matching
import RecordScript.Proofs.Evaluation.OpenFields
import RecordScript.Proofs.Evaluation.Outcome
import RecordScript.Proofs.Evaluation.RecordForm
import RecordScript.Proofs.Evaluation.Substring
import RecordScript.Proofs.Evaluation.Unplaced
import RecordScript.Proofs.Execution.Agreement
import RecordScript.Proofs.Execution.Branching
import RecordScript.Proofs.Execution.Numbers
import RecordScript.Proofs.Execution.Reads
import RecordScript.Proofs.Execution.Sequence
import RecordScript.Proofs.Execution.Trace
import RecordScript.Proofs.Execution.Writes
import RecordScript.Proofs.Grammar.Accepted
import RecordScript.Proofs.Grammar.Completeness
import RecordScript.Proofs.Grammar.Delimited
import RecordScript.Proofs.Grammar.Extent
import RecordScript.Proofs.Grammar.Language
import RecordScript.Proofs.Grammar.Lines
import RecordScript.Proofs.Grammar.Lookahead
import RecordScript.Proofs.Grammar.Naming
import RecordScript.Proofs.Grammar.Operators
import RecordScript.Proofs.Grammar.Parser
import RecordScript.Proofs.Grammar.Place
import RecordScript.Proofs.Grammar.Program
import RecordScript.Proofs.Grammar.Reading
import RecordScript.Proofs.Grammar.Soundness
import RecordScript.Proofs.Grammar.Spans
import RecordScript.Proofs.Grammar.Start
import RecordScript.Proofs.Grammar.Token
import RecordScript.Proofs.Grammar.Tokens
import RecordScript.Proofs.Layout.Gap
import RecordScript.Proofs.Layout.Insertion
import RecordScript.Proofs.Layout.Phrase
import RecordScript.Proofs.Layout.Reading
import RecordScript.Proofs.Layout.Spelling
import RecordScript.Proofs.Loading.Balance
import RecordScript.Proofs.Loading.Configuration
import RecordScript.Proofs.Loading.Cycle
import RecordScript.Proofs.Loading.Expansion
import RecordScript.Proofs.Loading.Header
import RecordScript.Proofs.Loading.Inclusion
import RecordScript.Proofs.Loading.Nesting
import RecordScript.Proofs.Loading.Preparation
import RecordScript.Proofs.Loading.Recording
import RecordScript.Proofs.Loading.Relocated
import RecordScript.Proofs.Loading.Rewriting
import RecordScript.Proofs.Loading.Spelling
import RecordScript.Proofs.Loading.Termination
import RecordScript.Proofs.Loading.Unbounded
import RecordScript.Proofs.Loading.Unfolding
import RecordScript.Proofs.Loading.Validity
import RecordScript.Proofs.Printing.Escape
import RecordScript.Proofs.Printing.Expression
import RecordScript.Proofs.Printing.Print
import RecordScript.Proofs.Printing.RoundTrip
import RecordScript.Proofs.Printing.Token
import RecordScript.Proofs.Printing.WellFormed
import RecordScript.Proofs.Record
import RecordScript.Proofs.Result
import RecordScript.Proofs.Run.Fields
import RecordScript.Proofs.Run.Interleaving
import RecordScript.Proofs.Run.Parallel
import RecordScript.Proofs.Run.Policy
import RecordScript.Proofs.Run.Reversal
import RecordScript.Proofs.Run.Schedule
import RecordScript.Proofs.Source.Join
import RecordScript.Proofs.Source.Lookup
import RecordScript.Proofs.Source.Output
import RecordScript.Proofs.Source.Path
import RecordScript.Proofs.Source.Place
import RecordScript.Proofs.Spelled.Agreement
import RecordScript.Proofs.Spelled.Building
import RecordScript.Proofs.Spelled.Decode
import RecordScript.Proofs.Spelled.Expression
import RecordScript.Proofs.Spelled.Mirror
import RecordScript.Proofs.Spelled.Statement
import RecordScript.Proofs.Syntax.Decode
import RecordScript.Proofs.Syntax.Equality
import RecordScript.Proofs.Syntax.Escaping
import RecordScript.Proofs.Syntax.Leaves
import RecordScript.Proofs.Syntax.Relocated
import RecordScript.Proofs.Syntax.Tree
import RecordScript.Proofs.Syntax.Unplaced
import RecordScript.Proofs.Text.Offset
import RecordScript.Proofs.Text.Quoted
import RecordScript.Proofs.Text.Trim
import RecordScript.Proofs.Text.Utf8
import RecordScript.Proofs.Typing.Basic
import RecordScript.Proofs.Typing.Calls
import RecordScript.Proofs.Typing.Operations
import RecordScript.Proofs.Typing.Soundness
import RecordScript.Proofs.Unicode.Lowercase
import RecordScript.Record
import RecordScript.Run
import RecordScript.Source.FileSystem
import RecordScript.Source.Library
import RecordScript.Source.Path
import RecordScript.Source.Table
import RecordScript.Syntax.Expr
import RecordScript.Syntax.Operator
import RecordScript.Syntax.Problem
import RecordScript.Syntax.Spelling
import RecordScript.Syntax.Statement
import RecordScript.Text.Position
import RecordScript.Text.Quoted
import RecordScript.Text.Search
import RecordScript.Text.Trim
import RecordScript.Text.Utf8
import RecordScript.Unicode.Alphabetic
import RecordScript.Unicode.CaseFolding
import RecordScript.Unicode.CaseIgnorable
import RecordScript.Unicode.Cased
import RecordScript.Unicode.CategoryRuns
import RecordScript.Unicode.FoldingSpans
import RecordScript.Unicode.GeneralCategory
import RecordScript.Unicode.GraphemeExtend
import RecordScript.Unicode.Lettercase
import RecordScript.Unicode.Lowercase
import RecordScript.Unicode.LowercaseSpans
import RecordScript.Unicode.RangeTable
import RecordScript.Unicode.Script
import RecordScript.Unicode.WhiteSpace
import RecordScript.Unicode.WordCharacter
import RecordScript.Value.Basic
import RecordScript.Value.Fault
import RecordScript.Value.Operand
