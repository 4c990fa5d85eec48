import Workflow.Routing.Normal
import Workflow.Text.Split

/-!
# Guards of edges

A routing expression compiles to a guard: it always holds, never holds, or holds when one of
several condition texts does. Each condition text becomes an edge of its own. The stages that an
expression mentions are listed in source order.
-/

namespace Workflow.Routing

open Workflow.Text

def Leaf.condition : Leaf → String
  | .compare .outcome argument relation value =>
    "context." ++ argument ++ ".status" ++ relation.sign ++ value
  | .compare .output argument relation value =>
    "context." ++ argument ++ relation.sign ++ value
  | .present path => "context." ++ path ++ "!="
  | .absent path => "context." ++ path ++ "="

def Group.condition (group : Group) : String :=
  " && ".intercalate (group.map Leaf.condition)

inductive Guard where
  | always
  | never
  | anyOf (conditions : List String)
  deriving DecidableEq, Repr

def Guard.ofGroups (groups : List Group) : Guard :=
  if groups.isEmpty then .never
  else if groups.any List.isEmpty then .always
  else .anyOf (groups.map Group.condition)

/-- One condition text per edge; the empty text always holds. -/
def Guard.conditions : Guard → List String
  | .always => [""]
  | .never => []
  | .anyOf conditions => conditions

def Expr.guard (e : Expr) : Except Fault Guard :=
  match (e.normalize false).groups with
  | .ok groups => .ok (Guard.ofGroups groups)
  | .error count => .error (.tooManyGroups count)

/-- The guard of an expression text. A text that expands too far is not named in the error. -/
def Guard.compile (text : String) : Except ExprError Guard := do
  let e ← Expr.parse text
  e.guard.mapError fun fault => ⟨fault, ""⟩

/-- The conditions of the edges for a route; without an expression it is always taken. -/
def edgeConditions : Option String → Except ExprError (List String)
  | none => .ok [""]
  | some text =>
    let text := trim text
    if text = "" ∨ text = "true" then .ok [""]
    else (Guard.compile text).map Guard.conditions

structure StageRef where
  function : String
  stage : String
  deriving DecidableEq, Repr

def pathHead (path : String) : String :=
  match cut? "." path with
  | some (head, _) => head
  | none => path

def Expr.stageRefs : Expr → List StageRef
  | .literal _ => []
  | .compare .outcome argument _ _ => [⟨"outcome", argument⟩]
  | .compare .output argument _ _ => [⟨"output", pathHead argument⟩]
  | .present path => [⟨"exists", pathHead path⟩]
  | .not operand => operand.stageRefs
  | .and left right => left.stageRefs ++ right.stageRefs
  | .or left right => left.stageRefs ++ right.stageRefs

end Workflow.Routing
