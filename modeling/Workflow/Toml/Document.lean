import Workflow.Number.Binary64

/-!
# TOML documents

A document is a table of fields in order of first writing. A draft is a document in the making: it
remembers which tables may no longer be opened, because a header named them or a dotted key passed
through them, and which values are closed for good, because they were written in brackets.
-/

namespace Workflow.Toml

inductive Value where
  | string (s : String)
  | integer (n : Int)
  | float (x : Binary64)
  | boolean (b : Bool)
  /-- A date, a time or both, as it is written. -/
  | moment (text : String)
  | array (items : List Value)
  | table (fields : List (String × Value))

abbrev Fields := List (String × Value)

abbrev Key := List String

inductive Fault where
  | statement
  | key
  | value
  | string
  | unclosed
  | trailing
  | comment
  | redefined
  | tooManyDigits (count : Nat)
  | tooDeep
  deriving DecidableEq, Repr

def Value.isBracketed : Value → Bool
  | .array _ | .table _ => true
  | _ => false

def writeField (name : String) (value : Value) : Fields → Fields
  | [] => [(name, value)]
  | field :: fields =>
    if field.1 = name then (name, value) :: fields else field :: writeField name value fields

/-- Changes the table behind a key; tables on the way are made where they are missing. Where an
array of tables is on the way, its last table is meant, unless arrays are `closed`. -/
def updateAt (closed : Bool) (f : Fields → Except Fault Fields) :
    Key → Fields → Except Fault Fields
  | [], fields => f fields
  | name :: key, fields => do
    let value ← match fields.lookup name with
      | none => (updateAt closed f key []).map .table
      | some (.table inner) => (updateAt closed f key inner).map .table
      | some (.array items) =>
        match closed, items.reverse with
        | false, .table inner :: others =>
          (updateAt closed f key inner).map fun inner => .array (others.reverse ++ [.table inner])
        | _, _ => .error .redefined
      | some _ => .error .redefined
    .ok (writeField name value fields)

def addField (name : String) (value : Value) (fields : Fields) : Except Fault Fields :=
  match fields.lookup name with
  | some _ => .error .redefined
  | none => .ok (fields ++ [(name, value)])

def addTable (name : String) (fields : Fields) : Except Fault Fields :=
  match fields.lookup name with
  | none => .ok (fields ++ [(name, .array [.table []])])
  | some (.array items) => .ok (writeField name (.array (items ++ [.table []])) fields)
  | some _ => .error .redefined

structure Draft where
  fields : Fields := []
  header : Key := []
  named : List Key := []
  /-- The tables that dotted keys passed through since the last header. -/
  passed : List Key := []
  closed : List Key := []

namespace Draft

def isClosed (draft : Draft) (key : Key) : Bool :=
  draft.closed.any (·.isPrefixOf key)

def settle (draft : Draft) : Draft :=
  { draft with named := draft.named ++ draft.passed, passed := [] }

def openTable (draft : Draft) (key : Key) : Except Fault Draft := do
  if draft.named.contains key || draft.isClosed key then .error .redefined
  let fields ← updateAt false .ok key draft.fields
  .ok { draft with fields, header := key, named := key :: draft.named }

def openItem (draft : Draft) (key : Key) : Except Fault Draft := do
  if draft.isClosed key then .error .redefined
  let fields ← updateAt false (addTable (key.getLast?.getD "")) key.dropLast draft.fields
  -- nothing is known of the tables in a new item
  let outside (other : Key) : Bool := !key.isPrefixOf other
  .ok { draft with
    fields, header := key
    named := key :: draft.named.filter outside, closed := draft.closed.filter outside }

/-- The tables that a dotted key passes through. -/
def between (header key : Key) : List Key :=
  (List.range key.length).tail.map fun n => header ++ key.take n

def assign (draft : Draft) (key : Key) (value : Value) : Except Fault Draft := do
  let passed := between draft.header key
  let parent := draft.header ++ key.dropLast
  if passed.any draft.named.contains || draft.isClosed parent then .error .redefined
  let fields ← updateAt false (addField (key.getLast?.getD "") value) parent draft.fields
  .ok { draft with
    fields
    passed := draft.passed ++ passed
    closed := if value.isBracketed then (draft.header ++ key) :: draft.closed else draft.closed }

end Draft

/-- Adds a field to a table in braces. Arrays and tables in it are closed once they are written. -/
def addInline (fields : Fields) (closed : List Key) (key : Key) (value : Value) :
    Except Fault (Fields × List Key) := do
  if closed.any (·.isPrefixOf key) then .error .redefined
  let fields ← updateAt true (addField (key.getLast?.getD "") value) key.dropLast fields
  .ok (fields, if value.isBracketed then key :: closed else closed)

end Workflow.Toml
