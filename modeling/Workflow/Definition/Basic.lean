import Workflow.Value

/-!
# Workflow definitions

A workflow as its author wrote it: stages with free attributes, the routes between them, and the
models they use. Options belong to human stages and routes to decision stages; all other stages
are left by transitions.
-/

namespace Workflow

inductive Stage.Kind where
  | llm
  | human
  | decision
  | exit
  | tool
  deriving DecidableEq, Repr

namespace Stage.Kind

def word : Stage.Kind → String
  | .llm => "llm"
  | .human => "human"
  | .decision => "decision"
  | .exit => "exit"
  | .tool => "tool"

def all : List Stage.Kind := [.llm, .human, .decision, .exit, .tool]

def ofWord? (word : String) : Option Stage.Kind :=
  all.find? (·.word == word)

theorem ofWord?_word (kind : Stage.Kind) : ofWord? kind.word = some kind := by
  cases kind <;> decide

end Stage.Kind

/-- An answer that a human stage offers. -/
structure Choice where
  key : String
  label : String
  target : String
  deriving DecidableEq, Repr

/-- A way out of a decision stage. -/
structure Route where
  condition : String
  target : String
  priority : Value := .none
  deriving DecidableEq, Repr

/-- A way out of any other stage; always open without a condition. -/
structure Transition where
  source : String
  target : String
  condition : Option String := none
  priority : Value := .none
  deriving DecidableEq, Repr

structure Retry where
  maxAttempts : Value
  backoff : Option String := none
  delay : Option String := none
  maxDelay : Option String := none
  deriving DecidableEq, Repr

def Retry.backoffs : List String := ["exponential", "fixed", "none"]

structure Profile where
  model : Option String := none
  provider : Option String := none
  reasoningEffort : Option String := none
  deriving DecidableEq, Repr

structure Models where
  default : Option String := none
  profiles : Table String Profile := Table.empty
  deriving DecidableEq, Repr

structure Stage where
  id : String
  kind : Stage.Kind
  attrs : Attrs := Table.empty
  choices : List Choice := []
  routes : List Route := []
  retry : Option Retry := none
  line : Nat := 0
  deriving DecidableEq, Repr

namespace Stage

/-- The text of an attribute that is one. -/
def textAttr? (stage : Stage) (name : String) : Option String :=
  (stage.attrs.attr name).string?

def prompt? (stage : Stage) : Option String := stage.textAttr? "prompt"

def promptFile? (stage : Stage) : Option String := stage.textAttr? "prompt_file"

def modelProfile? (stage : Stage) : Option String := stage.textAttr? "model_profile"

end Stage

structure Definition where
  name : String
  start : String
  stages : List Stage := []
  transitions : List Transition := []
  version : Value := .int 2
  goal : Option String := none
  description : Option String := none
  models : Option Models := none
  stylesheet : Option String := none
  deriving DecidableEq, Repr

namespace Definition

def stageIds (d : Definition) : List String :=
  d.stages.map (·.id)

def stage? (d : Definition) (id : String) : Option Stage :=
  d.stages.find? (·.id == id)

end Definition

end Workflow
