import GridQuery.Buckets
import GridQuery.Cell
import GridQuery.Cell.Format
import GridQuery.Cell.Order
import GridQuery.Cell.View
import GridQuery.CommandLine
import GridQuery.CommandLine.Arguments
import GridQuery.CommandLine.Environment
import GridQuery.Datum
import GridQuery.Datum.Access
import GridQuery.Datum.Json.Reader
import GridQuery.Datum.Json.Writer
import GridQuery.Datum.Text
import GridQuery.Engine
import GridQuery.Engine.Session
import GridQuery.Engine.Targets
import GridQuery.Error
import GridQuery.Expr
import GridQuery.Expr.Eval
import GridQuery.Fault
import GridQuery.Grid
import GridQuery.Grid.Memory
import GridQuery.Group
import GridQuery.Http
import GridQuery.Location
import GridQuery.Main
import GridQuery.Moment
import GridQuery.Moment.Reader
import GridQuery.Mutation
import GridQuery.Native.Answer
import GridQuery.Native.Query
import GridQuery.Native.Text
import GridQuery.Number.Basic
import GridQuery.Number.Decimal
import GridQuery.Number.Double
import GridQuery.Order
import GridQuery.Pattern
import GridQuery.Pattern.Reader
import GridQuery.Pattern.Reader.Escape
import GridQuery.Pattern.Reader.Group
import GridQuery.Pattern.Reader.Whole
import GridQuery.Result
import GridQuery.Select
import GridQuery.Select.Column
import GridQuery.Settings
import GridQuery.Sheets.Answer
import GridQuery.Sheets.Client
import GridQuery.Statement
import GridQuery.Statement.Lexer
import GridQuery.Statement.Mask
import GridQuery.Statement.Parser
import GridQuery.Statement.Parser.Expr
import GridQuery.Statement.Parser.Query
import GridQuery.Statement.Reader
import GridQuery.Statement.Token
import GridQuery.Table
import GridQuery.Table.Join
import GridQuery.Table.Scope
import GridQuery.Text.Basic
import GridQuery.Text.Blank
import GridQuery.Text.Case
import GridQuery.Text.Case.Table
import GridQuery.Text.Digit
import GridQuery.Text.Letter
import GridQuery.Text.Like
import GridQuery.Text.Printable
import GridQuery.Text.Ranges
import GridQuery.Proofs.Characters
import GridQuery.Proofs.Fallible
import GridQuery.Proofs.Location.ColumnCode
import GridQuery.Proofs.Numeral
import GridQuery.Proofs.Grid.Sheet
import GridQuery.Proofs.Location.Written
import GridQuery.Proofs.Location.Reading
import GridQuery.Proofs.Location.CellReference
import GridQuery.Proofs.Engine.Step
import GridQuery.Proofs.Selection
import GridQuery.Proofs.Grid.Memory
import GridQuery.Proofs.Mutation
import GridQuery.Proofs.Grid.Change
import GridQuery.Proofs.Engine.Change
import GridQuery.Proofs.Engine.Course
import GridQuery.Proofs.Engine.Ranges
import GridQuery.Proofs.Engine.Trace
import GridQuery.Proofs.Table.Names
import GridQuery.Proofs.Select.Star
import GridQuery.Proofs.Engine.Preview
import GridQuery.Proofs.Statement.Printer
import GridQuery.Proofs.Statement.Scanning
import GridQuery.Proofs.Statement.Lexing
import GridQuery.Proofs.Statement.Reads
import GridQuery.Proofs.Statement.Grammatical
import GridQuery.Proofs.Statement.ReadExpr
import GridQuery.Proofs.Statement.ReadClause
import GridQuery.Proofs.Statement.ReadQuery
import GridQuery.Proofs.Statement.RoundTrip
import GridQuery.Proofs.Statement.Tokens
import GridQuery.Proofs.Statement.Yields
import GridQuery.Proofs.Statement.Produced
import GridQuery.Proofs.Buckets
import GridQuery.Proofs.Cell.MatchKey
import GridQuery.Proofs.Table.Join
import GridQuery.Proofs.Cell.Comparison
import GridQuery.Proofs.Statement.Literal
import GridQuery.Proofs.Statement.Lexemes
import GridQuery.Proofs.Statement.Places
import GridQuery.Proofs.Statement.Mask
import GridQuery.Proofs.Statement.Insertion
import GridQuery.Proofs.Engine.Insertion
import GridQuery.Proofs.Expr.Value
import GridQuery.Proofs.Group
import GridQuery.Proofs.Select.Grouped
import GridQuery.Proofs.Select.Stages
import GridQuery.Proofs.Select.Pivot
import GridQuery.Proofs.Failures
import GridQuery.Proofs.Native.Columns
import GridQuery.Proofs.Native.Translated
import GridQuery.Proofs.Native.Faults
import GridQuery.Proofs.Native.Overlooked
import GridQuery.Proofs.Number.Double
import GridQuery.Proofs.Statement.DigitRuns
import GridQuery.Proofs.Statement.Refusals
import GridQuery.Proofs.Cell.Reading
import GridQuery.Proofs.Expr.Stops
import GridQuery.Proofs.Table.Built
import GridQuery.Proofs.Select.Shown
import GridQuery.Proofs.Statement.Verb
import GridQuery.Proofs.Location.LongRow
import GridQuery.Proofs.Engine.Validation
import GridQuery.Proofs.Number.Decimal
import GridQuery.Proofs.Number.Written
import GridQuery.Proofs.Statement.ReadOperand
import GridQuery.Proofs.Native.Spelling
import GridQuery.Proofs.Native.Reread
import GridQuery.Proofs.Native.RereadQuery
import GridQuery.Proofs.Table.Ambiguity
import GridQuery.Proofs.Order
import GridQuery.Proofs.Select.Reversed
import GridQuery.Proofs.Select.Distinct
import GridQuery.Proofs.Native.Quoted
import GridQuery.Proofs.Engine.Rectangular
import GridQuery.Proofs.Table.Assigned
import GridQuery.Proofs.Engine.Update
import GridQuery.Proofs.Engine.Rerun
import GridQuery.Proofs.Cell.Stored
import GridQuery.Proofs.Table.Inserted
import GridQuery.Proofs.Engine.Stored
import GridQuery.Proofs.Table.JoinOrder
import GridQuery.Proofs.Statement.References
import GridQuery.Proofs.Statement.Continues
import GridQuery.Proofs.Statement.Sparing
import GridQuery.Proofs.Statement.ReadSparing
import GridQuery.Proofs.Statement.Precedence
import GridQuery.Proofs.Group.Sorted
import GridQuery.Proofs.Select.Names
import GridQuery.Proofs.Select.Whole
import GridQuery.Proofs.Select.Totals
import GridQuery.Proofs.Select.OrderedByName
import GridQuery.Proofs.Expr.Alike
import GridQuery.Proofs.Native.Labels
import GridQuery.Proofs.Select.Extremes
import GridQuery.Proofs.FirstPlaces
import GridQuery.Proofs.Select.Origins
import GridQuery.Proofs.Select.Firsts
import GridQuery.Proofs.Engine.NamedInsertion
import GridQuery.Proofs.Location.RoundTrip
import GridQuery.Proofs.Location.Rectangle
import GridQuery.Proofs.Location.ColumnOrder
import GridQuery.Proofs.Sheets.Exchange
import GridQuery.Proofs.Sheets.RowRange
import GridQuery.Proofs.Sheets.Lookup
import GridQuery.Proofs.Sheets.SheetIds
import GridQuery.Proofs.Sheets.Wrapped
import GridQuery.Proofs.Statement.Identifier
import GridQuery.Proofs.Pattern.Language
import GridQuery.Proofs.Pattern.Wildcards
import GridQuery.Proofs.Text.Like
import GridQuery.Proofs.Cell.BothSides
import GridQuery.Proofs.Number.Integers
import GridQuery.Proofs.Cell.NumberPattern
import GridQuery.Proofs.Cell.IntegerFormat
import GridQuery.Proofs.Cell.DigitCounts
import GridQuery.Proofs.Table.Cells
import GridQuery.Proofs.Order.Positions
import GridQuery.Proofs.Table.NamedAlike
