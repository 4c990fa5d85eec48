import Workflow.Graph.Basic

/-!
# Model stylesheets

A stylesheet gives nodes their model properties. A rule is `selector \x7b property: value; ... \x7d`.
Rules are applied by rising specificity, those of equal specificity in source order, and never
overwrite a property that a node had before.
-/

namespace Workflow.Style

open Workflow.Text

inductive Selector where
  | all
  | cls (name : String)
  | node (id : String)
  deriving DecidableEq, Repr

namespace Selector

def typeName : Selector → String
  | .all => "universal"
  | .cls _ => "class"
  | .node _ => "id"

def value : Selector → String
  | .all => "*"
  | .cls name => name
  | .node id => id

def specificity : Selector → Nat
  | .all => 0
  | .cls _ => 1
  | .node _ => 2

def selects (selector : Selector) (node : Graph.Node) : Bool :=
  match selector with
  | .all => true
  | .cls name => node.classes.contains name
  | .node id => node.id == id

/-- The selector that a text spells, if any. -/
def parse? (text : String) : Option Selector :=
  if text = "*" then some .all
  else match text.toList with
    | '#' :: id => some (.node (String.ofList id))
    | '.' :: name => some (.cls (String.ofList name))
    | _ => none

end Selector

structure Rule where
  selector : Selector
  declarations : Table String String
  deriving DecidableEq, Repr

/-- A block of a stylesheet: the text before its opening brace and the one up to its closing. -/
structure Block where
  selector : List Char
  body : List Char
  deriving DecidableEq, Repr

def beginsSelector (c : Char) : Bool :=
  c == '*' || c == '#' || c == '.'

/-- The first block of a text and what follows it. -/
def block? (cs : List Char) : Option (Block × List Char) := do
  let (selector, rest) ← cutFirst? ['\x7b'] (cs.dropWhile fun c => !beginsSelector c)
  let (body, rest) ← cutFirst? ['\x7d'] rest
  some (⟨selector, body⟩, rest)

theorem length_lt_of_cutFirst? {c : Char} {cs before after : List Char}
    (h : cutFirst? [c] cs = some (before, after)) : after.length < cs.length := by
  have := congrArg List.length (cutFirst?_eq_some h)
  simp only [List.length_append, List.length_singleton] at this
  omega

theorem length_lt_of_block? {cs rest : List Char} {block : Block}
    (h : block? cs = some (block, rest)) : rest.length < cs.length := by
  have hDrop : (cs.dropWhile fun c => !beginsSelector c).length ≤ cs.length :=
    (List.dropWhile_sublist _).length_le
  simp only [block?, Option.bind_eq_bind, Option.bind_eq_some_iff] at h
  obtain ⟨⟨selector, rest₁⟩, hSelector, ⟨body, rest₂⟩, hBody, hEq⟩ := h
  cases hEq
  have h₁ := length_lt_of_cutFirst? hSelector
  have h₂ := length_lt_of_cutFirst? hBody
  simp only at h₁ h₂ ⊢
  omega

def blocks (cs : List Char) : List Block :=
  match _h : block? cs with
  | none => []
  | some (block, rest) => block :: blocks rest
termination_by cs.length
decreasing_by exact length_lt_of_block? _h

def declarations (body : String) : Table String String :=
  (pieces ";" body).foldl (fun table part =>
    match cut? ":" part with
    | none => table
    | some (property, value) =>
      if trim property = "" ∨ trim value = "" then table
      else table.insert (trim property) (trim value)) Table.empty

def Block.selectorText (block : Block) : String :=
  trim (String.ofList block.selector)

def Block.rule? (block : Block) : Option Rule :=
  (Selector.parse? block.selectorText).map fun selector =>
    ⟨selector, declarations (String.ofList block.body)⟩

/-- The rules by rising specificity, in the given order where that is equal. -/
def bySpecificity (rules : List Rule) : List Rule :=
  [0, 1, 2].flatMap fun k => rules.filter (·.selector.specificity == k)

/-- The rules of a stylesheet in the order in which they are applied. -/
def parse (source : String) : List Rule :=
  bySpecificity ((blocks source.toList).filterMap Block.rule?)

/-- The texts of the selectors that are no selector; their blocks are skipped. -/
def skipped (source : String) : List String :=
  ((blocks source.toList).filter (·.rule?.isNone)).map Block.selectorText

def properties : List String := ["llm_model", "llm_provider", "reasoning_effort"]

/-- Writes what a rule declares, without the properties that were there before. -/
def Rule.apply (own : List String) (attrs : Attrs) (rule : Rule) : Attrs :=
  rule.declarations.entries.foldl (fun attrs declaration =>
    if properties.contains declaration.1 && !own.contains declaration.1 then
      attrs.insert declaration.1 (.str declaration.2)
    else attrs) attrs

/-- The properties that attributes hold. -/
def ownProperties (attrs : Attrs) : List String :=
  properties.filter fun property => attrs.attr property ≠ .none

def styleNode (rules : List Rule) (node : Graph.Node) : Attrs :=
  (rules.filter (·.selector.selects node)).foldl (Rule.apply (ownProperties node.attrs)) node.attrs

end Workflow.Style

namespace Workflow.Graph

/-- The text of the stylesheet, if there is one to apply. -/
def styleSource? (g : Graph) : Option String :=
  match (g.attrs.attr "model_stylesheet").string? with
  | some "" | none => none
  | some source => some source

/-- The graph with its own stylesheet applied to every node. -/
def styled (g : Graph) : Graph :=
  match g.styleSource? with
  | none => g
  | some source =>
    let rules := Style.parse source
    { g with nodes := g.nodes.mapValues fun id attrs => Style.styleNode rules ⟨id, attrs⟩ }

end Workflow.Graph
