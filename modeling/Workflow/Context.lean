import Workflow.Condition

/-!
# The run context

A key-value store that one run of a workflow builds up, with a log of entries. Values are written
by the outcomes of stages and read by conditions. A key that holds nothing reads as missing.
-/

namespace Workflow

structure Context where
  values : Attrs := Table.empty
  log : List String := []
  deriving DecidableEq, Repr

namespace Context

def ofAttrs (values : Attrs) : Context := { values }

def lookup (c : Context) (key : String) : Value :=
  c.values.attr key

def get (c : Context) (key : String) (default : Value) : Value :=
  match c.lookup key with
  | .none => default
  | value => value

/-- The displayed text at a key, or a default. -/
def getText (c : Context) (key : String) (default : Value) : Value :=
  match c.lookup key with
  | .none => default
  | value => .str value.text

def set (c : Context) (key : String) (value : Value) : Context :=
  { c with values := c.values.insert key value }

def update (c : Context) (updates : Attrs) : Context :=
  { c with values := c.values.insertAll updates.entries }

def applyOutcome (c : Context) (outcome : Outcome) : Context :=
  c.update outcome.updates

def append (c : Context) (entry : String) : Context :=
  { c with log := c.log ++ [entry] }

def satisfies (c : Context) (outcome : Outcome) (condition : String) : Bool :=
  Condition.holds condition outcome c.lookup

/-- The context as it is shown in messages. -/
def display (c : Context) : String :=
  let entry (e : String × Value) : String := Text.quote e.1 ++ ": " ++ e.2.quoted
  "PipelineContext(\x7b" ++ ", ".intercalate (c.values.entries.map entry) ++ "\x7d)"

end Context

end Workflow
