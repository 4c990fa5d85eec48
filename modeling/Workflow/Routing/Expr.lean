import Workflow.Relation

/-!
# Routing expressions

An expression decides whether a route is taken. Its atoms compare the outcome of a stage or a
value of the run with a word, or ask whether a value is there.
-/

namespace Workflow.Routing

/-- What a comparison looks at: the status of a stage, or the value at a path. -/
inductive Subject where
  | outcome
  | output
  deriving DecidableEq, Repr

def Subject.word : Subject → String
  | .outcome => "outcome"
  | .output => "output"

inductive Expr where
  | literal (value : Bool)
  | compare (subject : Subject) (argument : String) (relation : Relation) (value : String)
  | present (path : String)
  | not (operand : Expr)
  | and (left right : Expr)
  | or (left right : Expr)
  deriving DecidableEq, Repr

end Workflow.Routing
