import TypedFilter.Binary.Arithmetic
import TypedFilter.Binary.Basic
import TypedFilter.Binary.Hypotenuse
import TypedFilter.Binary.Shortest
import TypedFilter.Binary.Text
import TypedFilter.Calendar.Date
import TypedFilter.Calendar.Pattern
import TypedFilter.Calendar.Time
import TypedFilter.Command.Options
import TypedFilter.Command.Session
import TypedFilter.DataType.Basic
import TypedFilter.DataType.Convert
import TypedFilter.Decimal.Arithmetic
import TypedFilter.Decimal.Basic
import TypedFilter.Decimal.Binary
import TypedFilter.Decimal.Text
import TypedFilter.Digits
import TypedFilter.Error
import TypedFilter.Expr.Basic
import TypedFilter.Expr.Bind
import TypedFilter.Expr.Build
import TypedFilter.Expr.Clause
import TypedFilter.Expr.Eval
import TypedFilter.Expr.Extent
import TypedFilter.Expr.Literals
import TypedFilter.Expr.Operator
import TypedFilter.Expr.Revision
import TypedFilter.Expr.Text
import TypedFilter.Geometry.Basic
import TypedFilter.Geometry.BoundingBox
import TypedFilter.Geometry.Grid
import TypedFilter.Geometry.Text
import TypedFilter.Json.Basic
import TypedFilter.Json.Members
import TypedFilter.Json.Reader
import TypedFilter.Keyed
import TypedFilter.Main
import TypedFilter.Powers
import TypedFilter.Proofs.Agreement
import TypedFilter.Proofs.Bare
import TypedFilter.Proofs.Binding
import TypedFilter.Proofs.Blanks
import TypedFilter.Proofs.Borders
import TypedFilter.Proofs.BoundClauses
import TypedFilter.Proofs.Brackets
import TypedFilter.Proofs.CalendarText
import TypedFilter.Proofs.CaselessPatterns
import TypedFilter.Proofs.CastTypes
import TypedFilter.Proofs.Clauses
import TypedFilter.Proofs.CodeLookups
import TypedFilter.Proofs.CodeTables
import TypedFilter.Proofs.Combining
import TypedFilter.Proofs.Comparisons
import TypedFilter.Proofs.Connectives
import TypedFilter.Proofs.Constraints
import TypedFilter.Proofs.Conversions
import TypedFilter.Proofs.DecimalArithmetic
import TypedFilter.Proofs.DecimalRange
import TypedFilter.Proofs.DecimalText
import TypedFilter.Proofs.Definitions
import TypedFilter.Proofs.Derivations
import TypedFilter.Proofs.DisplayKeys
import TypedFilter.Proofs.DisplayTexts
import TypedFilter.Proofs.Extents
import TypedFilter.Proofs.FixedPoint
import TypedFilter.Proofs.Flattening
import TypedFilter.Proofs.Identifiers
import TypedFilter.Proofs.LateBinding
import TypedFilter.Proofs.LateTrees
import TypedFilter.Proofs.Levels
import TypedFilter.Proofs.Lexemes
import TypedFilter.Proofs.Lexing
import TypedFilter.Proofs.LiteralBinding
import TypedFilter.Proofs.Meaning
import TypedFilter.Proofs.Names
import TypedFilter.Proofs.Numerals
import TypedFilter.Proofs.OrderClasses
import TypedFilter.Proofs.OrderSwaps
import TypedFilter.Proofs.Overrides
import TypedFilter.Proofs.PathChanges
import TypedFilter.Proofs.Patterns
import TypedFilter.Proofs.Placeholders
import TypedFilter.Proofs.PlainTexts
import TypedFilter.Proofs.Positions
import TypedFilter.Proofs.Precision
import TypedFilter.Proofs.Printing
import TypedFilter.Proofs.Progress
import TypedFilter.Proofs.Queries
import TypedFilter.Proofs.QuotedNames
import TypedFilter.Proofs.Quoting
import TypedFilter.Proofs.Readers
import TypedFilter.Proofs.Rebinding
import TypedFilter.Proofs.Records
import TypedFilter.Proofs.Relabelling
import TypedFilter.Proofs.RepeatedConversions
import TypedFilter.Proofs.Replacing
import TypedFilter.Proofs.RoundTrip
import TypedFilter.Proofs.Scans
import TypedFilter.Proofs.SelectLists
import TypedFilter.Proofs.Selections
import TypedFilter.Proofs.ShortestDigits
import TypedFilter.Proofs.SortOrders
import TypedFilter.Proofs.Sorting
import TypedFilter.Proofs.Statements
import TypedFilter.Proofs.StoredForms
import TypedFilter.Proofs.StoredOrders
import TypedFilter.Proofs.StoredTypes
import TypedFilter.Proofs.Stores
import TypedFilter.Proofs.Supported
import TypedFilter.Proofs.TableNames
import TypedFilter.Proofs.TextLengths
import TypedFilter.Proofs.TextOrders
import TypedFilter.Proofs.TextSearches
import TypedFilter.Proofs.Translation
import TypedFilter.Proofs.Trees
import TypedFilter.Proofs.TypeNames
import TypedFilter.Proofs.Walks
import TypedFilter.Proofs.WholeArithmetic
import TypedFilter.Proofs.WholeNumbers
import TypedFilter.Proofs.Widening
import TypedFilter.Proofs.Written
import TypedFilter.Proofs.WrittenNumbers
import TypedFilter.Query.Basic
import TypedFilter.Query.Run
import TypedFilter.Query.Statement
import TypedFilter.Rounding
import TypedFilter.Schema.CodeTable
import TypedFilter.Schema.Definition
import TypedFilter.Schema.Description
import TypedFilter.Schema.Field
import TypedFilter.Schema.Record
import TypedFilter.Sql.Error
import TypedFilter.Sql.Grammar
import TypedFilter.Sql.Lexer
import TypedFilter.Sql.Name
import TypedFilter.Sql.Statement
import TypedFilter.Sql.Step
import TypedFilter.Sql.Token
import TypedFilter.Store
import TypedFilter.Text.Alphabetic
import TypedFilter.Text.Blank
import TypedFilter.Text.CaseRun
import TypedFilter.Text.Cased
import TypedFilter.Text.Caseless
import TypedFilter.Text.CodePoints
import TypedFilter.Text.Escaped
import TypedFilter.Text.Like
import TypedFilter.Text.Lowercase
import TypedFilter.Text.Numeric
import TypedFilter.Text.Quoted
import TypedFilter.Text.Uppercase
import TypedFilter.Value.Basic
import TypedFilter.Value.Compare
import TypedFilter.Value.Integer
import TypedFilter.Value.Json
import TypedFilter.Value.Number
import TypedFilter.Value.Text
