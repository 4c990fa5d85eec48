import Workflow.Graph.Basic
import Workflow.Text.Quoted

/-!
# Graphs as JSON text

The summary of a graph lists everything it holds, in order, indented by two spaces a level and in
ASCII alone. An integer of more than `Number.digitLimit` digits has no written form.
-/

namespace Workflow

open Workflow.Text

/-- The data that a summary is made of. -/
inductive Summary where
  | value (v : Value)
  | list (items : List Summary)
  | record (fields : List (String × Summary))

namespace Summary

def unitEscape (unit : Nat) : List Char :=
  '\\' :: 'u' :: hexDigits 4 unit

/-- What is not printable ASCII is written as one or two units of 16 bits. -/
def escapeChar (c : Char) : List Char :=
  if c = '"' ∨ c = '\\' then ['\\', c]
  else if c = '\n' then ['\\', 'n']
  else if c = '\r' then ['\\', 'r']
  else if c = '\t' then ['\\', 't']
  else if c = '\x0c' then ['\\', 'f']
  else if c = '\x08' then ['\\', 'b']
  else if 32 ≤ c.toNat ∧ c.toNat ≤ 126 then [c]
  else if c.toNat < 0x10000 then unitEscape c.toNat
  else
    let offset := c.toNat - 0x10000
    unitEscape (0xD800 + offset / 0x400) ++ unitEscape (0xDC00 + offset % 0x400)

def quoted (s : String) : String :=
  String.ofList ('"' :: s.toList.flatMap escapeChar ++ ['"'])

def floatText (x : Binary64) : String :=
  match x.view with
  | .nan => "NaN"
  | .infinite negative => if negative then "-Infinity" else "Infinity"
  | .finite .. => x.text

def valueText : Value → String
  | .none => "null"
  | .bool b => if b then "true" else "false"
  | .int n => toString n
  | .float x => floatText x
  | .str s => quoted s
  | .status s => quoted s.word

def indent (level : Nat) : String :=
  String.ofList (List.replicate (2 * level) ' ')

/-- Items on lines of their own between brackets; nothing between them if there are none. -/
def bracket (level : Nat) (left right : String) (items : List String) : String :=
  if items.isEmpty then left ++ right
  else
    left ++ "\n" ++ indent (level + 1) ++ (",\n" ++ indent (level + 1)).intercalate items ++ "\n" ++
      indent level ++ right

mutual

def textAt (level : Nat) : Summary → String
  | .value v => valueText v
  | .list items => bracket level "[" "]" (itemTexts level items)
  | .record fields => bracket level "\x7b" "\x7d" (fieldTexts level fields)

def itemTexts (level : Nat) : List Summary → List String
  | [] => []
  | item :: items => textAt (level + 1) item :: itemTexts level items

def fieldTexts (level : Nat) : List (String × Summary) → List String
  | [] => []
  | (name, field) :: fields =>
    (quoted name ++ ": " ++ textAt (level + 1) field) :: fieldTexts level fields

end

def text (s : Summary) : String := s.textAt 0

def ofAttrs (attrs : Attrs) : Summary :=
  .record (attrs.entries.map fun e => (e.1, .value e.2))

end Summary

namespace Graph

def summary (g : Graph) : Summary :=
  let text (s : String) : Summary := .value (.str s)
  let node (n : Node) : Summary := .record [("id", text n.id), ("attrs", .ofAttrs n.attrs)]
  let edge (e : Edge) : Summary :=
    .record [("from", text e.source), ("to", text e.target), ("attrs", .ofAttrs e.attrs)]
  .record [("name", text g.name), ("attrs", .ofAttrs g.attrs),
    ("nodes", .list (g.nodeList.map node)), ("edges", .list (g.edges.map edge)),
    ("node_defaults", .ofAttrs g.nodeDefaults), ("edge_defaults", .ofAttrs g.edgeDefaults)]

/-- Whether a value is an integer with too many digits to be written. -/
def tooLong : Value → Bool
  | .int n => Number.digitLimit < (Nat.toDigits 10 n.natAbs).length
  | _ => false

/-- Whether every integer of the graph can be written. -/
def writable (g : Graph) : Bool :=
  !(g.attrs.values ++ g.nodeList.flatMap (·.attrs.values) ++
    g.edges.flatMap (·.attrs.values)).any tooLong

end Graph

end Workflow
