import Workflow.Graph.Basic

/-!
# Prompts

The prompt of a node, or else its label, or else its id, with every `$goal` replaced by the goal
of the graph.
-/

namespace Workflow

/-- A value in a place where only a text can stand. -/
inductive PromptError where
  | promptNotText
  | goalNotText
  deriving DecidableEq, Repr

namespace Graph

def goalMark : String := "$goal"

def promptSource (node : Node) : Value :=
  (node.prompt.orElse (node.attrs.attr "label")).orElse (.str node.id)

def promptOf (g : Graph) (node : Node) : Except PromptError String :=
  match (promptSource node).string?, g.goal.string? with
  | some text, some goal => .ok (Text.replace goalMark goal text)
  | none, _ => .error .promptNotText
  | some _, none => .error .goalNotText

end Graph

end Workflow
