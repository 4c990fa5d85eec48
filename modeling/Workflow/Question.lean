import Workflow.Condition
import Workflow.Graph.Basic
import Workflow.Text.Uppercase
import Workflow.Text.Quoted

/-!
# Questions to a human

A human node becomes a question with one option for each edge out of it. The key of an option is
read back from the condition of its edge. An answer becomes an outcome whose preferred label
makes the condition of the chosen edge true.
-/

namespace Workflow

open Workflow.Text

/-- A shortcut for a label: the character marked in `[K] Label`, `K) Label` or `K - Label`, or else
the first one in upper case. -/
def acceleratorKey (label : String) : String :=
  let plain := String.ofList ((label.toList.take 1).flatMap upperChar)
  match label.toList with
  | '[' :: k :: ']' :: s :: _ => if isWordChar k && isBlank s then String.singleton k else plain
  | k :: ')' :: s :: _ => if isWordChar k && isBlank s then String.singleton k else plain
  | k :: s :: '-' :: t :: _ =>
    if isWordChar k && isBlank s && isBlank t then String.singleton k else plain
  | _ => plain

structure QuestionOption where
  key : String
  label : Value
  deriving DecidableEq, Repr

structure Question where
  text : Value
  stage : String
  options : List QuestionOption
  deriving DecidableEq, Repr

/-- Why a node gives no question. -/
inductive QuestionError where
  | noEdges (node : String)
  | conditionNotText
  | labelNotText
  deriving DecidableEq, Repr

def QuestionError.message : QuestionError → String
  | .noEdges node => "Human stage " ++ quote node ++ " has no outgoing edges"
  | .conditionNotText => "The condition of an edge is not a text"
  | .labelNotText => "The label of an edge is not a text"

namespace Question

/-- The label that a condition asks for. -/
def keyOf? (condition : String) : Option String :=
  ((Condition.clauses condition).find? fun clause =>
    clause.key == "preferred_label" && clause.relation = .equal).map (·.value)

def optionOf (edge : Graph.Edge) : Except QuestionError QuestionOption := do
  let label := edge.label.orElse (.str edge.target)
  let some condition := edge.condition.string? | .error .conditionNotText
  match keyOf? condition with
  | none | some "" =>
    match label.string? with
    | some text => .ok ⟨acceleratorKey text, label⟩
    | none => .error .labelNotText
  | some key => .ok ⟨key, label⟩

def ofNode (g : Graph) (node : Graph.Node) : Except QuestionError Question := do
  let edges := g.edgesFrom node.id
  if edges.isEmpty then .error (.noEdges node.id)
  let options ← edges.mapM optionOf
  let text := (node.prompt.orElse (node.attrs.attr "label")).orElse (.str "Select an option:")
  .ok { text, stage := node.id, options }

end Question

/-- A reply: the key of an option, or a word that says that there is no answer. -/
structure Answer where
  value : String
  selected : Option QuestionOption := none
  text : Option String := none
  deriving DecidableEq, Repr

def Answer.timeout : String := "timeout"

def Answer.skipped : String := "skipped"

namespace Question

def failure (status : Status) (reason : String) : Outcome :=
  { status := .known status, failureReason := some reason }

/-- The outcome of choosing an option. -/
def chosen (q : Question) (option : QuestionOption) (feedback : Option String) : Outcome :=
  let note := match feedback with
    | none | some "" => []
    | some text => [(q.stage ++ ".feedback", Value.str text)]
  { status := .known .success
    preferredLabel := some option.key
    updates := Table.ofList ([(q.stage ++ ".selected", .str option.key),
      (q.stage ++ ".label", option.label)] ++ note) }

def outcome (q : Question) (answer : Answer) : Outcome :=
  if answer.value = Answer.timeout then failure .retry "human gate timeout"
  else if answer.value = Answer.skipped then failure .fail "human skipped interaction"
  else
    match answer.selected.or (q.options.find? (·.key == answer.value)) with
    | some option => q.chosen option answer.text
    | none => failure .fail ("answer " ++ quote answer.value ++ " matches no option")

end Question

end Workflow
