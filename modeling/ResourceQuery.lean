import ResourceQuery.Binary64.Reader
import ResourceQuery.Binary64.Shortest
import ResourceQuery.Calendar.Reader
import ResourceQuery.Decimal.Printer
import ResourceQuery.Decimal.Reader
import ResourceQuery.Operator
import ResourceQuery.Target
import ResourceQuery.Text.Blank
import ResourceQuery.Text.Escaped
import ResourceQuery.Text.LowerCase
import ResourceQuery.Text.Numeral
import ResourceQuery.Text.Quoted
import ResourceQuery.Value.Cell
import ResourceQuery.Value.Coerce
import ResourceQuery.Query.Basic
import ResourceQuery.Settings.Basic
import ResourceQuery.Token.Tokenizer
import ResourceQuery.Query.Parser
import ResourceQuery.Query.Printer
import ResourceQuery.Schema.Path
import ResourceQuery.Introspection
import ResourceQuery.Plan
import ResourceQuery.Filter.Meaning
import ResourceQuery.Filter.Positions
import ResourceQuery.Query.Grammar
import ResourceQuery.Main
import ResourceQuery.Proofs.Outcome
import ResourceQuery.Proofs.Query.Readers
import ResourceQuery.Proofs.Query.Statements
import ResourceQuery.Proofs.Query.Grammar
import ResourceQuery.Proofs.Filter.Comparison
import ResourceQuery.Proofs.Filter.Expression
import ResourceQuery.Proofs.Filter.Typing
import ResourceQuery.Proofs.Filter.Conjunction
import ResourceQuery.Proofs.Filter.Positions
import ResourceQuery.Proofs.Filter.Single
import ResourceQuery.Proofs.Filter.Null
import ResourceQuery.Proofs.Filter.Operators
import ResourceQuery.Proofs.Query.Rendering
import ResourceQuery.Proofs.Query.RoundTrip
import ResourceQuery.Proofs.Query.Rereading
import ResourceQuery.Proofs.Introspection
import ResourceQuery.Proofs.Query.Criteria
import ResourceQuery.Proofs.Filter.Strings
import ResourceQuery.Proofs.Plan.Order
import ResourceQuery.Proofs.Plan.Execution
import ResourceQuery.Token.Grammar
import ResourceQuery.Proofs.Token.Tiling
import ResourceQuery.Proofs.Token.Joining
import ResourceQuery.Proofs.Token.Front
import ResourceQuery.Proofs.Token.Offence
import ResourceQuery.Proofs.Query.Limits
import ResourceQuery.Proofs.Query.Joining
import ResourceQuery.Proofs.Query.Caps
import ResourceQuery.Proofs.Query.Placement
import ResourceQuery.Proofs.Query.Clauses
import ResourceQuery.Proofs.Query.Errors
import ResourceQuery.Proofs.Calendar.Forms
import ResourceQuery.Proofs.Value.Forms
import ResourceQuery.Proofs.Value.Inference
import ResourceQuery.Proofs.Text.Case
import ResourceQuery.Proofs.Filter.Like
import ResourceQuery.Schema.Chain
import ResourceQuery.Proofs.Schema.Path
import ResourceQuery.Proofs.Plan.Columns
import ResourceQuery.Proofs.Introspection.Populated
import ResourceQuery.Proofs.Filter.Unambiguous
import ResourceQuery.Proofs.Value.Conversion
import ResourceQuery.Proofs.Query.Attached
import ResourceQuery.Proofs.Token.Spacing
import ResourceQuery.Proofs.Query.Spacing
import ResourceQuery.Proofs.Token.Letters
import ResourceQuery.Proofs.Query.Letters
