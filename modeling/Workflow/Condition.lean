import Workflow.Outcome
import Workflow.Relation
import Workflow.Text.Split
import Workflow.Text.Blank

/-!
# Edge conditions

A condition is a list of clauses joined by `&&`; it holds when all of them do. A clause compares
the text at a key with a word. A key alone asks that there is a text. Unknown keys have the empty
text, so every condition has a truth value.
-/

namespace Workflow

open Workflow.Text

structure Clause where
  key : String
  relation : Relation
  value : String
  deriving DecidableEq, Repr

namespace Clause

/-- Reads a clause; the sign `!=` is sought before `=`, which it contains. -/
def parse (text : String) : Clause :=
  match cut? "!=" text with
  | some (key, value) => ⟨trim key, .differ, trim value⟩
  | none =>
    match cut? "=" text with
    | some (key, value) => ⟨trim key, .equal, trim value⟩
    | none => ⟨trim text, .differ, ""⟩

/-- The text at a key, where `lookup` reads the run context. -/
def resolve (outcome : Outcome) (lookup : String → Value) (key : String) : String :=
  if key = "outcome" then outcome.status.word
  else if key = "preferred_label" then outcome.preferredLabel.getD ""
  else if "context.".toList.isPrefixOf key.toList then
    match lookup key with
    | .none => (lookup (String.ofList (key.toList.drop "context.".length))).plain
    | value => value.plain
  else (lookup key).plain

def holds (outcome : Outcome) (lookup : String → Value) (clause : Clause) : Bool :=
  clause.relation.holds (resolve outcome lookup clause.key) clause.value

end Clause

namespace Condition

/-- The clauses of a condition, in order. Empty parts are dropped. -/
def clauses (text : String) : List Clause :=
  (((pieces "&&" text).map trim).filter (· ≠ "")).map Clause.parse

def holds (text : String) (outcome : Outcome) (lookup : String → Value) : Bool :=
  (clauses text).all (Clause.holds outcome lookup)

end Condition

end Workflow
