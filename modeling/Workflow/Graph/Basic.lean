import Workflow.Value
import Workflow.Text.Split
import Workflow.Text.Blank
import Workflow.Number.Decimal

/-!
# Graphs

The compiled form of a workflow: nodes and edges with bags of attributes. The shape of a node
encodes its kind. The order of the edges is significant, since the first edge whose condition
holds is taken.
-/

namespace Workflow

open Workflow.Text

/-- A number that is wanted as a binary number or an integer, and cannot be one. -/
inductive NumberFault where
  | outOfRange
  | notNumeric
  deriving DecidableEq, Repr

namespace Graph

/-- The node that every compiled graph starts from. -/
def startId : String := "__start__"

/-- The kinds that shapes stand for. -/
def kindOfShape : Value → String
  | .str "Mdiamond" => "start"
  | .str "Msquare" => "exit"
  | .str "box" => "llm"
  | .str "diamond" => "decision"
  | .str "hexagon" => "human"
  | .str "parallelogram" => "tool"
  | _ => "unknown"

structure Node where
  id : String
  attrs : Attrs
  deriving DecidableEq, Repr

structure Edge where
  source : String
  target : String
  attrs : Attrs
  deriving DecidableEq, Repr

/-- The parts of a comma-separated text, trimmed, without the empty ones. -/
def splitClasses (text : String) : List String :=
  ((pieces "," text).map trim).filter (· ≠ "")

namespace Node

/-- An attribute with a default for a missing one. -/
def attrOr (node : Node) (name : String) (default : Value) : Value :=
  (node.attrs.get? name).getD default

def shape (node : Node) : Value := node.attrOr "shape" (.str "box")

def label (node : Node) : Value := (node.attrs.attr "label").orElse (.str node.id)

def kind (node : Node) : String := kindOfShape node.shape

def isStart (node : Node) : Bool := node.shape = .str "Mdiamond"

def isExit (node : Node) : Bool := node.shape = .str "Msquare"

def prompt (node : Node) : Value := node.attrOr "prompt" (.str "")

def classes (node : Node) : List String :=
  splitClasses ((node.attrs.attr "class").orElse (.str "")).text

def model (node : Node) : Value := node.attrOr "llm_model" (.str "")

def provider (node : Node) : Value := node.attrOr "llm_provider" (.str "")

def reasoningEffort (node : Node) : Value := node.attrOr "reasoning_effort" (.str "")

/-- The attempts beyond the first; zero where the attribute is no number. -/
def maxRetries (node : Node) : Except NumberFault Int :=
  match node.attrOr "max_retries" (.int 0) with
  | .int n => .ok n
  | .bool b => .ok (if b then 1 else 0)
  | .float x =>
    match x.view with
    | .infinite _ => .error .outOfRange
    | _ => .ok (x.truncate?.getD 0)
  | .str s => .ok ((Number.readInt? s).getD 0)
  | .none | .status _ => .ok 0

end Node

namespace Edge

/-- The condition text; empty where the edge is always open. -/
def condition (edge : Edge) : Value := (edge.attrs.attr "condition").orElse (.str "")

def label (edge : Edge) : Value := (edge.attrs.attr "label").orElse (.str "")

/-- The weight; nothing where the attribute is missing or no number. -/
def weight (edge : Edge) : Except NumberFault (Option Binary64) :=
  match edge.attrs.attr "weight" with
  | .int n =>
    match Binary64.ofInt? n with
    | some x => .ok (some x)
    | none => .error .outOfRange
  | .bool b => .ok (Binary64.ofInt? (if b then 1 else 0))
  | .float x => .ok (some x)
  | .str s => .ok (Number.readBinary64? s)
  | .none | .status _ => .ok none

/-- What is shown on an edge: its label, its condition, or both. -/
def displayLabel (edge : Edge) : Value :=
  let label := edge.label
  let condition := edge.condition
  if label.isGiven && condition.isGiven then .str (label.text ++ " [" ++ condition.text ++ "]")
  else label.orElse condition

end Edge

end Graph

structure Graph where
  name : String
  attrs : Attrs := Table.empty
  nodes : Table String Attrs := Table.empty
  edges : List Graph.Edge := []
  nodeDefaults : Attrs := Table.empty
  edgeDefaults : Attrs := Table.empty
  deriving DecidableEq, Repr

namespace Graph

def node? (g : Graph) (id : String) : Option Node :=
  (g.nodes.get? id).map fun attrs => ⟨id, attrs⟩

def nodeList (g : Graph) : List Node :=
  g.nodes.entries.map fun entry => ⟨entry.1, entry.2⟩

def ids (g : Graph) : List String := g.nodes.keys

def edgesFrom (g : Graph) (id : String) : List Edge :=
  g.edges.filter (·.source == id)

def edgesTo (g : Graph) (id : String) : List Edge :=
  g.edges.filter (·.target == id)

def starts (g : Graph) : List Node :=
  g.nodeList.filter Node.isStart

/-- The only start node, or the number of start nodes. -/
def start (g : Graph) : Except Nat Node :=
  match g.starts with
  | [node] => .ok node
  | nodes => .error nodes.length

def startMessage (count : Nat) : String :=
  s!"Graph must have exactly one start node (Mdiamond); found {count}"

def exits (g : Graph) : List Node :=
  g.nodeList.filter Node.isExit

def goal (g : Graph) : Value := (g.attrs.attr "goal").orElse (.str "")

def stylesheet (g : Graph) : Value := (g.attrs.attr "model_stylesheet").orElse (.str "")

end Graph

end Workflow
