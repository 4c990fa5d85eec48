import Workflow.Graph.Basic

/-!
# Graphs as DOT text

Only what is displayed is written: the label and shape of nodes and one label for each edge. Every
text stands between double quotes, with quotes and backslashes escaped.
-/

namespace Workflow.Graph

def dotEscape (c : Char) : List Char :=
  if c = '\\' ∨ c = '"' then ['\\', c] else [c]

def dotQuote (text : String) : String :=
  String.ofList ('"' :: text.toList.flatMap dotEscape ++ ['"'])

/-- An attribute list; nothing where there is no attribute. -/
def dotAttrs (attrs : List (String × Value)) : String :=
  if attrs.isEmpty then ""
  else
    let part (attr : String × Value) : String := attr.1 ++ "=" ++ dotQuote attr.2.text
    " [" ++ ", ".intercalate (attrs.map part) ++ "]"

/-- The attributes with these names that are given. -/
def givenAttrs (attrs : Attrs) (names : List String) : List (String × Value) :=
  (names.map fun name => (name, attrs.attr name)).filter (·.2.isGiven)

def Node.dotLine (node : Node) : String :=
  "  " ++ dotQuote node.id ++ dotAttrs (givenAttrs node.attrs ["label", "shape"]) ++ ";"

def Edge.dotLine (edge : Edge) : String :=
  let label := edge.displayLabel
  "  " ++ dotQuote edge.source ++ " -> " ++ dotQuote edge.target ++
    dotAttrs (if label.isGiven then [("label", label)] else []) ++ ";"

def dotLines (g : Graph) : List String :=
  let label := g.attrs.attr "label"
  ["digraph " ++ dotQuote g.name ++ " \x7b"] ++
  (if label.isGiven then ["  label=" ++ dotQuote label.text ++ ";"] else []) ++
  ["  rankdir=\"TB\";", ""] ++
  g.nodeList.map Node.dotLine ++ [""] ++
  g.edges.map Edge.dotLine ++ ["\x7d"]

def toDot (g : Graph) : String :=
  "\n".intercalate g.dotLines ++ "\n"

end Workflow.Graph
