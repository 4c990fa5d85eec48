import Workflow.Routing.Parse

/-!
# Normal forms of routing expressions

`Expr.normalize` pushes negation down to the leaves. `Normal.groups` distributes conjunction over
disjunction: the expression holds when all leaves of some group hold. An expansion may not pass
`groupLimit` groups at any of its steps.
-/

namespace Workflow.Routing

inductive Leaf where
  | compare (subject : Subject) (argument : String) (relation : Relation) (value : String)
  | present (path : String)
  | absent (path : String)
  deriving DecidableEq, Repr

/-- Expressions whose negations stand directly at presence tests. -/
inductive Normal where
  | literal (value : Bool)
  | atom (leaf : Leaf)
  | and (left right : Normal)
  | or (left right : Normal)
  deriving DecidableEq, Repr

def Leaf.toExpr : Leaf → Expr
  | .compare subject argument relation value => .compare subject argument relation value
  | .present path => .present path
  | .absent path => .not (.present path)

def Normal.toExpr : Normal → Expr
  | .literal value => .literal value
  | .atom leaf => leaf.toExpr
  | .and left right => .and left.toExpr right.toExpr
  | .or left right => .or left.toExpr right.toExpr

def Expr.normalize (negated : Bool) : Expr → Normal
  | .literal value => .literal (value != negated)
  | .compare subject argument relation value =>
    .atom (.compare subject argument (if negated then relation.flip else relation) value)
  | .present path => .atom (if negated then .absent path else .present path)
  | .not operand => operand.normalize (!negated)
  | .and left right =>
    if negated then .or (left.normalize negated) (right.normalize negated)
    else .and (left.normalize negated) (right.normalize negated)
  | .or left right =>
    if negated then .and (left.normalize negated) (right.normalize negated)
    else .or (left.normalize negated) (right.normalize negated)

/-- Leaves that have to hold together; the empty group always holds. -/
abbrev Group := List Leaf

def limited (count : Nat) (groups : List Group) : Except Nat (List Group) :=
  if groupLimit < count then .error count else .ok groups

def Normal.groups : Normal → Except Nat (List Group)
  | .literal value => .ok (if value then [[]] else [])
  | .atom leaf => .ok [[leaf]]
  | .or left right => do
    let ls ← left.groups
    let rs ← right.groups
    limited (ls.length + rs.length) (ls ++ rs)
  | .and left right => do
    let ls ← left.groups
    let rs ← right.groups
    limited (ls.length * rs.length) (ls.flatMap fun l => rs.map fun r => l ++ r)

end Workflow.Routing
