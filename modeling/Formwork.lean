import Formwork.Decimal.Literal
import Formwork.Definition.Coding
import Formwork.Expr.Tree
import Formwork.Form.Basic
import Formwork.Json.Decoder
import Formwork.Json.Printer
import Formwork.Main
import Formwork.NameMap
import Formwork.Pattern.Parser
import Formwork.Service.Basic
import Formwork.Session.Navigation
import Formwork.Session.Screen
import Formwork.State.Coding
import Formwork.Template.Render
import Formwork.Text.Case
import Formwork.Text.Quoted
import Formwork.Proofs.Graph.Path
import Formwork.Proofs.Graph.Schedule
import Formwork.Proofs.Graph.Exact
import Formwork.Proofs.Definition.Dependency
import Formwork.Proofs.Definition.Sound
import Formwork.Proofs.Names
import Formwork.Proofs.Form.Items
import Formwork.Proofs.Form.Load
import Formwork.Proofs.Form.Substitute
import Formwork.Proofs.Pass.Order
import Formwork.Proofs.Pass.Slot
import Formwork.Proofs.Pass.Step
import Formwork.Proofs.Pass.Evaluation
import Formwork.Proofs.Pass.Frame
import Formwork.Proofs.Json.Same
import Formwork.Proofs.Json.Record
import Formwork.Proofs.Definition.Coding
import Formwork.Proofs.State.Coding
import Formwork.Proofs.Pass.Edit
import Formwork.Proofs.Expr.Distinct
import Formwork.Proofs.Payload
import Formwork.Proofs.Shape
import Formwork.Proofs.Session.Edit
import Formwork.Proofs.Pass.Decided
import Formwork.Proofs.Pass.Incremental
import Formwork.Proofs.Pass.Settled
import Formwork.Proofs.Pass.Fallback
import Formwork.Proofs.Pass.Trace
import Formwork.Proofs.Pass.Reorder
import Formwork.Proofs.Pass.Confluence
import Formwork.Proofs.Expr.Cost
import Formwork.Proofs.Expr.Deepest
import Formwork.Proofs.Expr.Locality
import Formwork.Proofs.Session.Operation
import Formwork.Proofs.Session.Ticket
import Formwork.Proofs.Session.Submit
import Formwork.Proofs.Session.Retry
import Formwork.Proofs.Session.Reopen
import Formwork.Proofs.Session.Locks
import Formwork.Proofs.Session.Publication
import Formwork.Proofs.Session.WellFormed
import Formwork.Proofs.Pass.Cycle
import Formwork.Proofs.Pass.Offered
import Formwork.Proofs.Pass.Selection
import Formwork.Proofs.Pass.Schedule
import Formwork.Proofs.Pass.Closure
import Formwork.Proofs.Session.Editing
import Formwork.Proofs.Session.Scope
import Formwork.Proofs.Session.HostErrors
import Formwork.Proofs.Session.Target
import Formwork.Proofs.Json.Faithful
import Formwork.Proofs.Service.Request
import Formwork.Proofs.Command.Payload
import Formwork.Proofs.Expr.Size
import Formwork.Proofs.Form.Dependents
import Formwork.Proofs.Pass.Size
import Formwork.Proofs.Command.Walk
import Formwork.Proofs.Service.Agreement
import Formwork.Proofs.Conforming
import Formwork.Proofs.Expr.Balance
import Formwork.Proofs.Expr.Spacing
