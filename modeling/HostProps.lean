import HostProps.Arguments
import HostProps.Comment.Placement
import HostProps.Components
import HostProps.Event
import HostProps.ImportBinding
import HostProps.Injection
import HostProps.Json
import HostProps.Lexer.Blank
import HostProps.Lexer.Escape
import HostProps.Lexer.Keyword
import HostProps.Lexer.Number
import HostProps.Lexer.Scan
import HostProps.Lexer.Token
import HostProps.Number.Double
import HostProps.Number.Shortest
import HostProps.Options
import HostProps.Parser.Access
import HostProps.Parser.Element
import HostProps.Parser.Function
import HostProps.Parser.ModuleItem
import HostProps.Parser.Name
import HostProps.Parser.Operator
import HostProps.Parser.Parse
import HostProps.Parser.Pattern
import HostProps.Parser.Primary
import HostProps.Parser.Reading
import HostProps.Parser.Statement
import HostProps.Parser.Target
import HostProps.Pass
import HostProps.Printer.Construct
import HostProps.Printer.Literal
import HostProps.Printer.Page
import HostProps.Printer.Rendering
import HostProps.Proofs.Arguments
import HostProps.Proofs.Availability
import HostProps.Proofs.Bindings
import HostProps.Proofs.Commutation
import HostProps.Proofs.ComponentSets
import HostProps.Proofs.Components
import HostProps.Proofs.EditWalk
import HostProps.Proofs.Editing
import HostProps.Proofs.Erasure
import HostProps.Proofs.ExactInjection
import HostProps.Proofs.ExactInsertion
import HostProps.Proofs.ExactPlacement
import HostProps.Proofs.ExactWidening
import HostProps.Proofs.Generated
import HostProps.Proofs.Held
import HostProps.Proofs.IdentifierNames
import HostProps.Proofs.ImportBinding
import HostProps.Proofs.ImportGrammar
import HostProps.Proofs.Injection
import HostProps.Proofs.LegalNames
import HostProps.Proofs.Merging
import HostProps.Proofs.Occurrences
import HostProps.Proofs.Operation
import HostProps.Proofs.OptionsJson
import HostProps.Proofs.Parentheses
import HostProps.Proofs.PassedProperties
import HostProps.Proofs.PhaseOrder
import HostProps.Proofs.Placement
import HostProps.Proofs.Provision
import HostProps.Proofs.RepeatedInjection
import HostProps.Proofs.RepeatedWidening
import HostProps.Proofs.Reports
import HostProps.Proofs.RuntimeExports
import HostProps.Proofs.Settings
import HostProps.Proofs.SourceOrder
import HostProps.Proofs.StatementPath
import HostProps.Proofs.TransparentParentheses
import HostProps.Proofs.Tree
import HostProps.Proofs.Variables
import HostProps.Proofs.Visits
import HostProps.Proofs.Walk
import HostProps.Proofs.WidenedPattern
import HostProps.Proofs.WithoutParentheses
import HostProps.RuntimeExports
import HostProps.Syntax.Generated
import HostProps.Syntax.Interchange
import HostProps.Syntax.Layout
import HostProps.Syntax.Node
import HostProps.Syntax.Operator
import HostProps.Syntax.Span
import HostProps.Syntax.View
import HostProps.Text.Cursor
import HostProps.Text.Fault
import HostProps.Text.Identifier
import HostProps.Text.IdentifierTable
import HostProps.Text.Point
import HostProps.Text.Quoted
import HostProps.Text.QuotedTable
import HostProps.Walk
