import TableGateway.Access.Rule
import TableGateway.Access.Table
import TableGateway.Configuration
import TableGateway.Configuration.Document
import TableGateway.Console.Argument
import TableGateway.Console.Command
import TableGateway.Console.Directory
import TableGateway.Console.Expansion
import TableGateway.Console.Help
import TableGateway.Console.Json
import TableGateway.Console.Run
import TableGateway.Dialect
import TableGateway.Error
import TableGateway.Finder
import TableGateway.Finder.CamelCase
import TableGateway.Finder.Clause
import TableGateway.Gateway
import TableGateway.Identifier
import TableGateway.Main
import TableGateway.Map.Ordered
import TableGateway.Map.Sorted
import TableGateway.Operator
import TableGateway.Permission
import TableGateway.Request.PageSummary
import TableGateway.Request.Parameters
import TableGateway.Request.RowRange
import TableGateway.Request.SortOrder
import TableGateway.Sql.Changing
import TableGateway.Sql.Piece
import TableGateway.Sql.Reading
import TableGateway.Statement.Assignments
import TableGateway.Statement.Change
import TableGateway.Statement.Condition
import TableGateway.Statement.ProcedureCall
import TableGateway.Statement.Selection
import TableGateway.Statement.Table
import TableGateway.Text.Ascii
import TableGateway.Text.Blank
import TableGateway.Text.Casing
import TableGateway.Text.Casing.Mapping
import TableGateway.Text.Casing.Properties
import TableGateway.Text.Numeral
import TableGateway.Toml.Document
import TableGateway.Toml.Growth
import TableGateway.Toml.Moment
import TableGateway.Toml.Quoted
import TableGateway.Toml.Scalar
import TableGateway.Toml.Value
import TableGateway.Proofs.Sql.Lexing
import TableGateway.Proofs.Sql.Grammar
import TableGateway.Proofs.Sql.RoundTrip
import TableGateway.Proofs.Sql.Meaning
import TableGateway.Proofs.Access.Denial
import TableGateway.Proofs.Sql.Unambiguity
import TableGateway.Proofs.Access.Configured
import TableGateway.Proofs.Access.Decision
import TableGateway.Proofs.Sql.ChangeSpelling
import TableGateway.Proofs.Access.Mediation
import TableGateway.Proofs.Sql.Composition
import TableGateway.Proofs.Gateway.Planning
import TableGateway.Proofs.Statement.Assignments
import TableGateway.Proofs.Gateway.Binding
import TableGateway.Proofs.Sql.Substitution
import TableGateway.Proofs.Gateway.Noninterference
import TableGateway.Proofs.Finder.Spelling
import TableGateway.Proofs.Access.History
import TableGateway.Proofs.Sql.Stretch
import TableGateway.Proofs.Gateway.Reloading
import TableGateway.Proofs.Text.Cutting
import TableGateway.Proofs.Finder.Language
import TableGateway.Proofs.Gateway.Sufficiency
import TableGateway.Proofs.Gateway.Counting
import TableGateway.Proofs.Statement.Construction
import TableGateway.Proofs.Statement.KeyedChanges
import TableGateway.Proofs.Gateway.KeyColumn
import TableGateway.Proofs.Gateway.Isolation
import TableGateway.Proofs.Gateway.Switching
import TableGateway.Proofs.Request.Words
import TableGateway.Proofs.Request.Limits
import TableGateway.Proofs.Request.Pages
import TableGateway.Proofs.Gateway.Consulted
import TableGateway.Proofs.Request.Ordering
import TableGateway.Proofs.Gateway.Ordering
import TableGateway.Proofs.Access.RuleWords
import TableGateway.Proofs.Access.RuleSets
import TableGateway.Proofs.Text.ByteOrder
import TableGateway.Proofs.Configuration.Validation
import TableGateway.Proofs.Finder.Splitting
import TableGateway.Proofs.Statement.Attempts
import TableGateway.Proofs.Console.References
import TableGateway.Proofs.Console.Loading
import TableGateway.Proofs.Console.Layout
