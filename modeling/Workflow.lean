import Workflow.Context
import Workflow.Main
import Workflow.Prompt
import Workflow.Question
import Workflow.Proofs.Except
import Workflow.Proofs.Routing.Meaning
import Workflow.Proofs.Text.Cut
import Workflow.Proofs.Text.Trim
import Workflow.Proofs.Condition.Clauses
import Workflow.Proofs.Condition.Separation
import Workflow.Proofs.Routing.Leaf
import Workflow.Proofs.Routing.Blanks
import Workflow.Proofs.Routing.Edges
import Workflow.Proofs.Definition.Reader
import Workflow.Proofs.Lowering
import Workflow.Proofs.Routing.Derivation
import Workflow.Proofs.Table
import Workflow.Proofs.Definition.Linked
import Workflow.Proofs.Lowering.Edges
import Workflow.Proofs.Lowering.Nodes
import Workflow.Proofs.Lowering.Entry
import Workflow.Proofs.Compile
import Workflow.Proofs.Question.Key
import Workflow.Proofs.Question.Choice
import Workflow.Proofs.Source.Grammar
import Workflow.Proofs.Source.Layers
import Workflow.Proofs.Source.Reader
import Workflow.Proofs.Number.Numeral
import Workflow.Proofs.Source.Spelling
import Workflow.Proofs.Source.Written
import Workflow.Proofs.Source.Scanned
import Workflow.Proofs.Definition.Regular
import Workflow.Proofs.Definition.Written
import Workflow.Proofs.Definition.Roundtrip
import Workflow.Proofs.Failure
import Workflow.Proofs.Lowering.Selection
import Workflow.Proofs.Definition.Invariants
import Workflow.Proofs.Lowering.Reach
import Workflow.Proofs.Catalog.Scan
import Workflow.Proofs.Graph.Drawing
import Workflow.Proofs.Catalog.Merge
import Workflow.Proofs.Catalog.Discovery
import Workflow.Proofs.Catalog.Resolve
import Workflow.Proofs.Catalog.Reference
import Workflow.Proofs.Validation.Closure
import Workflow.Proofs.Style.Cascade
import Workflow.Proofs.Style.Blocks
import Workflow.Proofs.Style.Models
import Workflow.Proofs.Style.Profiles
import Workflow.Proofs.Style.ReadBack
import Workflow.Proofs.Style.Skipped
import Workflow.Proofs.Source.Layout
import Workflow.Proofs.Definition.Places
import Workflow.Proofs.Definition.Guards
import Workflow.Proofs.Text.Lines
import Workflow.Proofs.Definition.Snippet
import Workflow.Proofs.Lowering.CatchAll
import Workflow.Proofs.Routing.Comparison
import Workflow.Proofs.Style.Nodes
import Workflow.Proofs.Prompt
import Workflow.Proofs.Number.Range
import Workflow.Proofs.Graph.Numbers
import Workflow.Proofs.Routing.Literal
import Workflow.Proofs.Routing.Quoting
import Workflow.Proofs.Source.Comment
import Workflow.Proofs.Source.Lexeme
import Workflow.Proofs.Definition.Unplaced
import Workflow.Proofs.Routing.References
import Workflow.Proofs.Validation.Order
import Workflow.Proofs.Context
import Workflow.Proofs.Definition.Blame
import Workflow.Proofs.Lowering.Attributes
import Workflow.Proofs.Path.Confined
import Workflow.Proofs.Settings
