import Workflow.Graph.Dot
import Workflow.Proofs.Text.Cut

/-!
# What a DOT text shows

The drawing of a graph is what is displayed of it. `Drawing.ofText?` reads a drawing from a text: a
quoted text ends at the first quote that no backslash takes with it, a row ends at the first line
feed outside of quotes, and what stands before the quoted texts of a row tells what they are. The
text of a graph gives back its drawing, so that graphs with the same text look the same.
-/

namespace Workflow.Graph

structure DrawnNode where
  id : String
  label : Option String
  shape : Option String
  deriving DecidableEq, Repr

/-- What is displayed of an edge. The label is empty where none is shown. -/
structure DrawnEdge where
  source : String
  target : String
  label : String
  deriving DecidableEq, Repr

structure Drawing where
  name : String
  label : Option String
  nodes : List DrawnNode
  edges : List DrawnEdge
  deriving DecidableEq, Repr

def shown? (v : Value) : Option String :=
  if v.isGiven then some v.text else none

def Node.drawn (node : Node) : DrawnNode :=
  ⟨node.id, shown? (node.attrs.attr "label"), shown? (node.attrs.attr "shape")⟩

def Edge.drawn (edge : Edge) : DrawnEdge :=
  ⟨edge.source, edge.target, edge.displayLabel.text⟩

def drawing (g : Graph) : Drawing :=
  ⟨g.name, shown? (g.attrs.attr "label"), g.nodeList.map Node.drawn, g.edges.map Edge.drawn⟩

/-- The quoted texts of a row, each with what stands before it. -/
abbrev Row := List (String × String)

namespace Row

/-- Puts a text before the first quoted text of a row. -/
def after (lead : String) : Row → Row
  | [] => []
  | (first, text) :: row => (lead ++ first, text) :: row

def onFirst (f : Row → Row) : List Row → List Row
  | [] => []
  | row :: rows => f row :: rows

mutual

/-- The rows of a text, none if a quoted text does not end. -/
def ofChars? : List Char → Option (List Row)
  | [] => some [[]]
  | '"' :: cs => (ofQuoted? cs).map fun read => onFirst (("", read.1) :: ·) read.2
  | '\n' :: cs => (ofChars? cs).map ([] :: ·)
  | c :: cs => (ofChars? cs).map (onFirst (after (String.singleton c)))

/-- The text up to the end of the quotes, and the rows behind it. -/
def ofQuoted? : List Char → Option (String × List Row)
  | [] => none
  | '"' :: cs => (ofChars? cs).map fun rows => ("", rows)
  | '\\' :: c :: cs => (ofQuoted? cs).map fun read => (String.singleton c ++ read.1, read.2)
  | c :: cs => (ofQuoted? cs).map fun read => (String.singleton c ++ read.1, read.2)

end

def name? : Row → Option String
  | [("digraph ", name)] => some name
  | _ => none

def label? : Row → Option String
  | [("  label=", label)] => some label
  | _ => none

def node? : Row → Option DrawnNode
  | [("  ", id)] => some ⟨id, none, none⟩
  | [("  ", id), (" [label=", label)] => some ⟨id, some label, none⟩
  | [("  ", id), (" [shape=", shape)] => some ⟨id, none, some shape⟩
  | [("  ", id), (" [label=", label), (", shape=", shape)] => some ⟨id, some label, some shape⟩
  | _ => none

def edge? : Row → Option DrawnEdge
  | [("  ", source), (" -> ", target)] => some ⟨source, target, ""⟩
  | [("  ", source), (" -> ", target), (" [label=", label)] => some ⟨source, target, label⟩
  | _ => none

end Row

def Drawing.ofText? (text : String) : Option Drawing := do
  let rows ← Row.ofChars? text.toList
  let name ← rows.findSome? Row.name?
  some ⟨name, rows.findSome? Row.label?, rows.filterMap Row.node?, rows.filterMap Row.edge?⟩

/-- A line of a text: a row, and what stands behind its last quoted text. -/
structure Line where
  row : Row
  ending : String

/-- A line with one quoted text. -/
def Line.single (lead text ending : String) : Line := ⟨[(lead, text)], ending⟩

/-- A line without a quoted text. -/
def Line.bare (ending : String) : Line := ⟨[], ending⟩

/-- Neither ends a row nor begins a quoted text. -/
def IsPlain (text : String) : Prop :=
  ∀ c ∈ text.toList, c ≠ '"' ∧ c ≠ '\n'

instance (text : String) : Decidable (IsPlain text) :=
  List.decidableBAll _ text.toList

structure Line.IsPlain (line : Line) : Prop where
  leads : ∀ part ∈ line.row, Graph.IsPlain part.1
  ending : Graph.IsPlain line.ending

def partChars (part : String × String) : List Char :=
  part.1.toList ++ (dotQuote part.2).toList

def Line.chars (line : Line) : List Char :=
  line.row.flatMap partChars ++ line.ending.toList

namespace Row

theorem onFirst_onFirst (f f' : Row → Row) (rows : List Row) :
    onFirst f (onFirst f' rows) = onFirst (fun row => f (f' row)) rows := by
  cases rows <;> rfl

theorem after_after (lead first : String) (row : Row) :
    after lead (after first row) = after (lead ++ first) row := by
  cases row with
  | nil => rfl
  | cons part row => simp [after, String.append_assoc]

theorem onFirst_after_empty : onFirst (after "") = id := by
  funext rows
  match rows with
  | [] | [] :: _ => rfl
  | (_ :: _) :: _ => simp [onFirst, after]

theorem ofChars?_plain {c : Char} {cs : List Char} (hQuote : c ≠ '"') (hLine : c ≠ '\n') :
    ofChars? (c :: cs) = (ofChars? cs).map (onFirst (after (String.singleton c))) := by
  rw [ofChars?]
  · exact hQuote
  · exact hLine

theorem ofChars?_append_plain {lead : String} (h : IsPlain lead) (cs : List Char) :
    ofChars? (lead.toList ++ cs) = (ofChars? cs).map (onFirst (after lead)) := by
  obtain ⟨text, rfl⟩ : ∃ text, lead = String.ofList text := ⟨_, (String.ofList_toList).symm⟩
  rw [IsPlain, String.toList_ofList] at h
  rw [String.toList_ofList]
  induction text with
  | nil => simp [onFirst_after_empty]
  | cons c text ih =>
    rw [List.forall_mem_cons] at h
    have hAfter (row : Row) : after (String.singleton c) (after (String.ofList text) row) =
        after (String.ofList (c :: text)) row := by
      rw [after_after, String.singleton_eq_ofList, ← String.ofList_append, List.singleton_append]
    rw [List.cons_append, ofChars?_plain h.1.1 h.1.2, ih h.2, Option.map_map]
    simp only [Function.comp_def, onFirst_onFirst, hAfter]

/-- A quote that was escaped is taken with the backslash before it, and so does not end the text. -/
theorem ofQuoted?_escape (text : List Char) (cs : List Char) :
    ofQuoted? (text.flatMap dotEscape ++ '"' :: cs) =
      (ofChars? cs).map fun rows => (String.ofList text, rows) := by
  induction text with
  | nil => simp [ofQuoted?]
  | cons c text ih =>
    have hStep : ofQuoted? (dotEscape c ++ (text.flatMap dotEscape ++ '"' :: cs)) =
        (ofQuoted? (text.flatMap dotEscape ++ '"' :: cs)).map
          fun read => (String.singleton c ++ read.1, read.2) := by
      by_cases h : c = '\\' ∨ c = '"'
      · rw [dotEscape, if_pos h, List.cons_append, List.singleton_append, ofQuoted?]
      · rw [not_or] at h
        rw [dotEscape, if_neg (not_or.mpr h), List.singleton_append, ofQuoted?]
        · exact h.2
        · exact fun _ _ hc => absurd hc h.1
    rw [List.flatMap_cons, List.append_assoc, hStep, ih, Option.map_map]
    simp only [Function.comp_def, String.singleton_eq_ofList, ← String.ofList_append,
      List.singleton_append]

theorem ofChars?_dotQuote (text : String) (cs : List Char) :
    ofChars? ((dotQuote text).toList ++ cs) = (ofChars? cs).map (onFirst (("", text) :: ·)) := by
  have hChars : (dotQuote text).toList ++ cs =
      '"' :: (text.toList.flatMap dotEscape ++ '"' :: cs) := by
    simp [dotQuote]
  rw [hChars, ofChars?, ofQuoted?_escape, Option.map_map, String.ofList_toList]
  rfl

theorem ofChars?_part {part : String × String} (h : IsPlain part.1) (cs : List Char) :
    ofChars? (partChars part ++ cs) = (ofChars? cs).map (onFirst (part :: ·)) := by
  rw [partChars, List.append_assoc, ofChars?_append_plain h, ofChars?_dotQuote, Option.map_map]
  simp only [Function.comp_def, onFirst_onFirst, after, String.append_empty]

theorem ofChars?_parts {row : Row} (h : ∀ part ∈ row, IsPlain part.1) (cs : List Char) :
    ofChars? (row.flatMap partChars ++ cs) = (ofChars? cs).map (onFirst (row ++ ·)) := by
  induction row with
  | nil =>
    have hId : onFirst (([] : Row) ++ ·) = id := by
      funext rows
      cases rows <;> rfl
    rw [List.flatMap_nil, List.nil_append, hId, Option.map_id, id]
  | cons part row ih =>
    rw [List.forall_mem_cons] at h
    rw [List.flatMap_cons, List.append_assoc, ofChars?_part h.1, ih h.2, Option.map_map]
    simp only [Function.comp_def, onFirst_onFirst, List.cons_append]

theorem ofChars?_line {line : Line} (h : line.IsPlain) (cs : List Char) :
    ofChars? (line.chars ++ '\n' :: cs) = (ofChars? cs).map (line.row :: ·) := by
  rw [Line.chars, List.append_assoc, ofChars?_parts h.leads, ofChars?_append_plain h.ending,
    ofChars?, Option.map_map, Option.map_map]
  simp only [Function.comp_def, onFirst, after, List.append_nil]

/-- Lines read one after the other, whatever their quoted texts are. -/
theorem ofChars?_lines {lines : List Line} (h : ∀ line ∈ lines, line.IsPlain) :
    ofChars? (lines.flatMap fun line => line.chars ++ ['\n']) =
      some (lines.map Line.row ++ [[]]) := by
  induction lines with
  | nil => rfl
  | cons line lines ih =>
    rw [List.forall_mem_cons] at h
    rw [List.flatMap_cons, List.append_assoc, List.singleton_append, ofChars?_line h.1, ih h.2]
    rfl

end Row

def attrParts : List (String × Value) → Row
  | [] => []
  | first :: rest =>
    (" [" ++ first.1 ++ "=", first.2.text) ::
      rest.map fun attr => (", " ++ attr.1 ++ "=", attr.2.text)

def attrEnding (attrs : List (String × Value)) : String :=
  if attrs.isEmpty then ";" else "];"

theorem toList_dotAttrs (attrs : List (String × Value)) :
    (dotAttrs attrs ++ ";").toList =
      (attrParts attrs).flatMap partChars ++ (attrEnding attrs).toList := by
  cases attrs with
  | nil => rfl
  | cons first rest =>
    have hRest : (rest.map fun attr => attr.1 ++ "=" ++ dotQuote attr.2.text).flatMap
          (fun text => ", ".toList ++ text.toList) =
        (rest.map fun attr => (", " ++ attr.1 ++ "=", attr.2.text)).flatMap partChars := by
      simp [List.flatMap_map, partChars]
    simp only [dotAttrs, attrParts, attrEnding, List.isEmpty_cons, List.map_cons, if_false,
      Bool.false_eq_true, String.toList_append, Text.toList_intercalate_cons, hRest,
      List.flatMap_cons, partChars, List.append_assoc]
    rfl

/-- The line of a node or an edge: what it is about, and the attributes that are shown. -/
def attrLine (subject : Row) (attrs : List (String × Value)) : Line :=
  ⟨subject ++ attrParts attrs, attrEnding attrs⟩

def shownLabel (edge : Edge) : List (String × Value) :=
  if edge.displayLabel.isGiven then [("label", edge.displayLabel)] else []

def Node.line (node : Node) : Line :=
  attrLine [("  ", node.id)] (givenAttrs node.attrs ["label", "shape"])

def Edge.line (edge : Edge) : Line :=
  attrLine [("  ", edge.source), (" -> ", edge.target)] (shownLabel edge)

theorem Node.toList_dotLine (node : Node) : node.dotLine.toList = node.line.chars := by
  rw [Node.dotLine, Node.line, attrLine, Line.chars, String.append_assoc, String.toList_append,
    toList_dotAttrs]
  simp [partChars]

theorem Edge.toList_dotLine (edge : Edge) : edge.dotLine.toList = edge.line.chars := by
  rw [Edge.dotLine, Edge.line, attrLine, Line.chars, String.append_assoc, String.toList_append,
    ← shownLabel, toList_dotAttrs]
  simp [partChars]

theorem isPlain_append {text text' : String} (h : IsPlain text) (h' : IsPlain text') :
    IsPlain (text ++ text') := by
  intro c hc
  rw [String.toList_append, List.mem_append] at hc
  exact hc.elim (h c) (h' c)

theorem attrParts_isPlain {attrs : List (String × Value)} (h : ∀ attr ∈ attrs, IsPlain attr.1) :
    ∀ part ∈ attrParts attrs, IsPlain part.1 := by
  cases attrs with
  | nil => exact nofun
  | cons first rest =>
    rw [List.forall_mem_cons] at h
    refine List.forall_mem_cons.mpr ⟨?_, List.forall_mem_map.mpr fun attr hAttr => ?_⟩
    · exact isPlain_append (isPlain_append (by decide) h.1) (by decide)
    · exact isPlain_append (isPlain_append (by decide) (h.2 attr hAttr)) (by decide)

theorem attrEnding_isPlain (attrs : List (String × Value)) : IsPlain (attrEnding attrs) := by
  rw [attrEnding]
  split <;> decide

theorem attrLine_isPlain {subject : Row} {attrs : List (String × Value)}
    (hSubject : ∀ part ∈ subject, IsPlain part.1) (hAttrs : ∀ attr ∈ attrs, IsPlain attr.1) :
    (attrLine subject attrs).IsPlain where
  leads := List.forall_mem_append.mpr ⟨hSubject, attrParts_isPlain hAttrs⟩
  ending := attrEnding_isPlain attrs

theorem fst_mem_of_mem_givenAttrs {attrs : Attrs} {names : List String} {attr : String × Value}
    (h : attr ∈ givenAttrs attrs names) : attr.1 ∈ names := by
  obtain ⟨hName, -⟩ := List.mem_filter.mp h
  obtain ⟨name, hMem, rfl⟩ := List.mem_map.mp hName
  exact hMem

namespace Node

theorem line_isPlain (node : Node) : node.line.IsPlain :=
  attrLine_isPlain (by simp [IsPlain]) fun attr hAttr => by
    have hNames : ∀ name ∈ ["label", "shape"], IsPlain name := by decide
    exact hNames _ (fst_mem_of_mem_givenAttrs hAttr)

theorem givenAttrs_shown (node : Node) :
    givenAttrs node.attrs ["label", "shape"] =
      (let label := node.attrs.attr "label"
      let shape := node.attrs.attr "shape"
      (if label.isGiven then [("label", label)] else []) ++
        if shape.isGiven then [("shape", shape)] else []) := by
  simp only [givenAttrs, List.map_cons, List.map_nil, List.filter_cons, List.filter_nil]
  split <;> split <;> rfl

/-- The line of a node is read as what is displayed of it, and as nothing else. -/
theorem row_line (node : Node) :
    node.line.row.node? = some node.drawn ∧ node.line.row.edge? = none ∧
      node.line.row.label? = none := by
  simp only [Node.line, givenAttrs_shown, drawn, shown?]
  cases (node.attrs.attr "label").isGiven <;> cases (node.attrs.attr "shape").isGiven <;>
    exact ⟨rfl, rfl, rfl⟩

end Node

namespace Edge

theorem condition_eq_empty {edge : Edge} (h : edge.condition.isGiven = false) :
    edge.condition = .str "" := by
  rw [condition, Value.orElse] at h ⊢
  split
  · next hGiven => simp [hGiven] at h
  · rfl

/-- Where an edge shows no label, the text of what it would show is empty. -/
theorem text_displayLabel {edge : Edge} (h : edge.displayLabel.isGiven = false) :
    edge.displayLabel.text = "" := by
  cases hLabel : edge.label.isGiven with
  | true =>
    cases hCondition : edge.condition.isGiven with
    | true =>
      have hJoined (label condition : String) :
          (Value.str (label ++ " [" ++ condition ++ "]")).isGiven := by
        simp [Value.isGiven]
      simp [displayLabel, hLabel, hCondition, hJoined] at h
    | false => simp [displayLabel, hLabel, hCondition, Value.orElse] at h
  | false =>
    have hShown : edge.displayLabel = edge.condition := by simp [displayLabel, hLabel, Value.orElse]
    rw [hShown] at h ⊢
    rw [condition_eq_empty h]
    rfl

theorem line_isPlain (edge : Edge) : edge.line.IsPlain := by
  refine attrLine_isPlain (by simp [IsPlain]) fun attr hAttr => ?_
  rw [shownLabel] at hAttr
  split at hAttr
  · rw [List.mem_singleton.mp hAttr]
    exact (by decide : IsPlain "label")
  · exact absurd hAttr List.not_mem_nil

theorem row_line (edge : Edge) :
    edge.line.row.edge? = some edge.drawn ∧ edge.line.row.node? = none ∧
      edge.line.row.label? = none := by
  simp only [Edge.line, shownLabel, drawn]
  cases hGiven : edge.displayLabel.isGiven with
  | true => exact ⟨rfl, rfl, rfl⟩
  | false =>
    rw [text_displayLabel hGiven]
    exact ⟨rfl, rfl, rfl⟩

end Edge

theorem single_isPlain {lead ending : String} (text : String) (hLead : IsPlain lead)
    (hEnding : IsPlain ending) : (Line.single lead text ending).IsPlain :=
  ⟨List.forall_mem_singleton.mpr hLead, hEnding⟩

theorem bare_isPlain {ending : String} (h : IsPlain ending) : (Line.bare ending).IsPlain :=
  ⟨nofun, h⟩

/-- The lines of the text of a graph. -/
def lines (g : Graph) : List Line :=
  let label := g.attrs.attr "label"
  [.single "digraph " g.name " \x7b"] ++
  (if label.isGiven then [.single "  label=" label.text ";"] else []) ++
  [.single "  rankdir=" "TB" ";", .bare ""] ++
  g.nodeList.map Node.line ++ [.bare ""] ++
  g.edges.map Edge.line ++ [.bare "\x7d"]

theorem toList_dotLines (g : Graph) : g.dotLines.map String.toList = g.lines.map Line.chars := by
  have hNodes : (g.nodeList.map Node.dotLine).map String.toList =
      (g.nodeList.map Node.line).map Line.chars := by
    simp only [List.map_map, Function.comp_def, Node.toList_dotLine]
  have hEdges : (g.edges.map Edge.dotLine).map String.toList =
      (g.edges.map Edge.line).map Line.chars := by
    simp only [List.map_map, Function.comp_def, Edge.toList_dotLine]
  simp only [dotLines, lines, List.map_append, hNodes, hEdges]
  split <;> simp [Line.single, Line.bare, Line.chars, partChars, dotQuote, dotEscape]

theorem toList_ended {texts : List String} (h : texts ≠ []) :
    ("\n".intercalate texts ++ "\n").toList = (texts.map String.toList).flatMap (· ++ ['\n']) := by
  induction texts with
  | nil => exact absurd rfl h
  | cons text texts ih =>
    cases texts with
    | nil => simp
    | cons next texts =>
      rw [String.intercalate_cons_cons, String.append_assoc, String.toList_append,
        ih (List.cons_ne_nil next texts), String.toList_append]
      rfl

theorem toList_toDot (g : Graph) :
    g.toDot.toList = g.lines.flatMap fun line => line.chars ++ ['\n'] := by
  have hSome : g.dotLines ≠ [] := by simp [dotLines]
  rw [toDot, toList_ended hSome, toList_dotLines, List.flatMap_map]

theorem lines_isPlain (g : Graph) : ∀ line ∈ g.lines, line.IsPlain := by
  have hLabel : ∀ line ∈ (if (g.attrs.attr "label").isGiven then
      [Line.single "  label=" (g.attrs.attr "label").text ";"] else []), line.IsPlain := by
    split
    · exact List.forall_mem_singleton.mpr (single_isPlain _ (by decide) (by decide))
    · exact nofun
  simp only [lines, List.forall_mem_append, List.forall_mem_cons, List.forall_mem_map, and_assoc]
  exact ⟨single_isPlain _ (by decide) (by decide), nofun, hLabel,
    single_isPlain _ (by decide) (by decide), bare_isPlain (by decide), nofun,
    fun node _ => node.line_isPlain, bare_isPlain (by decide), nofun,
    fun edge _ => edge.line_isPlain, bare_isPlain (by decide), nofun⟩

theorem filterMap_node?_lines (g : Graph) :
    (g.lines.map Line.row).filterMap Row.node? = g.nodeList.map Node.drawn := by
  have hNodes : g.nodeList.filterMap (fun node => node.line.row.node?) =
      g.nodeList.map Node.drawn := by
    simp only [Node.row_line, List.filterMap_eq_map']
  have hEdges : g.edges.filterMap (fun edge => edge.line.row.node?) = [] :=
    List.filterMap_eq_nil_iff.mpr fun edge _ => edge.row_line.2.1
  simp only [lines, List.map_append, List.filterMap_append, List.filterMap_map,
    Function.comp_def, hNodes, hEdges]
  split <;> simp [Line.single, Line.bare, Row.node?]

theorem filterMap_edge?_lines (g : Graph) :
    (g.lines.map Line.row).filterMap Row.edge? = g.edges.map Edge.drawn := by
  have hNodes : g.nodeList.filterMap (fun node => node.line.row.edge?) = [] :=
    List.filterMap_eq_nil_iff.mpr fun node _ => node.row_line.2.1
  have hEdges : g.edges.filterMap (fun edge => edge.line.row.edge?) = g.edges.map Edge.drawn := by
    simp only [Edge.row_line, List.filterMap_eq_map']
  simp only [lines, List.map_append, List.filterMap_append, List.filterMap_map,
    Function.comp_def, hNodes, hEdges]
  split <;> simp [Line.single, Line.bare, Row.edge?]

theorem findSome?_label?_lines (g : Graph) :
    (g.lines.map Line.row).findSome? Row.label? = shown? (g.attrs.attr "label") := by
  have hNodes : g.nodeList.findSome? (fun node => node.line.row.label?) = none :=
    List.findSome?_eq_none_iff.mpr fun node _ => node.row_line.2.2
  have hEdges : g.edges.findSome? (fun edge => edge.line.row.label?) = none :=
    List.findSome?_eq_none_iff.mpr fun edge _ => edge.row_line.2.2
  simp only [lines, shown?, List.map_append, List.findSome?_append, List.findSome?_map,
    Function.comp_def, hNodes, hEdges]
  split <;> simp [Line.single, Line.bare, Row.label?]

/-- The text of a graph is read as what is displayed of the graph, whatever its texts hold. -/
theorem ofText?_toDot (g : Graph) : Drawing.ofText? g.toDot = some g.drawing := by
  have hRows : Row.ofChars? g.toDot.toList = some (g.lines.map Line.row ++ [[]]) := by
    rw [toList_toDot, Row.ofChars?_lines g.lines_isPlain]
  have hName : (g.lines.map Line.row ++ [[]]).findSome? Row.name? = some g.name := rfl
  simp only [Drawing.ofText?, hRows, hName, Option.bind_eq_bind, Option.bind_some,
    List.findSome?_append, List.filterMap_append, findSome?_label?_lines, filterMap_node?_lines,
    filterMap_edge?_lines]
  simp [drawing, Row.label?, Row.node?, Row.edge?]

/-- Graphs with the same text look the same: the reader knows nothing but the text. -/
theorem drawing_eq_of_toDot_eq :
    (∀ g : Graph, Drawing.ofText? g.toDot = some g.drawing) ∧
      ∀ g g' : Graph, g.toDot = g'.toDot → g.drawing = g'.drawing := by
  refine ⟨ofText?_toDot, fun g g' h => Option.some.inj ?_⟩
  calc some g.drawing = Drawing.ofText? g.toDot := (ofText?_toDot g).symm
    _ = Drawing.ofText? g'.toDot := by rw [h]
    _ = some g'.drawing := ofText?_toDot g'

end Workflow.Graph
