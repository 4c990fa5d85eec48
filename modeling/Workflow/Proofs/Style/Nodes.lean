import Workflow.Proofs.Lowering.Entry
import Workflow.Proofs.Style.Profiles

/-!
# The nodes of compiled graphs

Every node of a compiled graph is the start node or belongs to a stage. Styling leaves all but the
model properties as lowering wrote them, and lowering leaves most attributes of a stage as its
source gives them.
-/

namespace Workflow

open Workflow.Style

namespace Stage

variable {stage : Stage} {key : String}

/-- The names that are given to attributes or taken from them when a stage becomes a node. -/
def renamed : List String :=
  ["model", "provider", "command", "llm_model", "llm_provider", "tool_command"]

theorem graphName_eq_iff (h : key ∉ renamed) (name : String) :
    graphName name = key ↔ name = key := by
  simp only [renamed, List.mem_cons, List.not_mem_nil, or_false, not_or] at h
  unfold graphName
  constructor
  · intro hName
    split at hName
    · exact absurd hName.symm h.2.2.2.1
    · split at hName
      · exact absurd hName.symm h.2.2.2.2.1
      · split at hName
        · exact absurd hName.symm h.2.2.2.2.2
        · exact hName
  · rintro rfl
    rw [if_neg h.1, if_neg h.2.1, if_neg h.2.2.1]

theorem get?_renamedAttrs (h : key ∉ renamed) :
    (Table.ofList (stage.attrs.entries.map fun e => (graphName e.1, e.2))).get? key =
      stage.attrs.get? key := by
  rw [Table.ofList, Table.get?_insertAll_map (graphName_eq_iff h) stage.attrs.nodup,
    Table.get?_empty, Option.or_none, Table.get?]

theorem get?_nodeAttrs_of_ne_class (h : key ≠ "class") :
    stage.nodeAttrs.get? key = stage.plainAttrs.get? key := by
  rw [nodeAttrs_eq]
  split
  · rfl
  · rfl
  · rw [Table.get?_insert, if_neg h]

theorem get?_plainAttrs_of_notMem (h : key ∉ retryNames) :
    stage.plainAttrs.get? key =
      (((Table.ofList (stage.attrs.entries.map fun e => (graphName e.1, e.2))).insert "shape"
        (.str stage.kind.shape)).insertNew "label" (.str stage.id)).get? key := by
  refine Table.get?_insertAll_of_notMem ?_
  cases stage.retry with
  | none => exact List.not_mem_nil
  | some retry => exact notMem_retryAttrs h retry

/-- Most attributes are the same on a node as on its stage. -/
theorem get?_nodeAttrs_of_kept (hLowered : key ∉ "class" :: lowered) (hName : key ∉ renamed) :
    stage.nodeAttrs.get? key = stage.attrs.get? key := by
  simp only [lowered, List.mem_cons, not_or] at hLowered
  rw [get?_nodeAttrs_of_ne_class hLowered.1, get?_plainAttrs_of_notMem hLowered.2.2.2,
    Table.get?_insertNew_of_ne hLowered.2.2.1, Table.get?_insert, if_neg hLowered.2.1,
    get?_renamedAttrs hName]

theorem get?_label_nodeAttrs (stage : Stage) :
    stage.nodeAttrs.get? "label" = some ((stage.attrs.get? "label").getD (.str stage.id)) := by
  rw [get?_nodeAttrs_of_ne_class (by decide), get?_plainAttrs_of_notMem (by decide),
    Table.get?_insertNew_self, Table.get?_insert, if_neg (by decide), get?_renamedAttrs (by decide)]

end Stage

/-- A node has the attributes that lowering gave it, the model properties aside. -/
def Graph.Node.IsStyled (node : Graph.Node) (attrs : Attrs) : Prop :=
  ∀ key ∉ properties, node.attrs.get? key = attrs.get? key

section Compile

variable {source : String} {c : Compiled} {g : Graph} {node : Graph.Node}

theorem Graph.mem_nodeList_iff : node ∈ g.nodeList ↔ g.nodes.get? node.id = some node.attrs := by
  rw [Table.get?_eq_some_iff, nodeList, List.mem_map]
  constructor
  · rintro ⟨entry, hEntry, rfl⟩
    exact hEntry
  · exact fun h => ⟨(node.id, node.attrs), h, rfl⟩

theorem Graph.exists_styled_of_get? {id : String} {attrs : Attrs}
    (h : g.nodes.get? id = some attrs) :
    ∃ node ∈ g.styled.nodeList, node.id = id ∧ node.IsStyled attrs := by
  refine ⟨⟨id, styleNode (Style.parse (((g.attrs.attr "model_stylesheet").string?).getD ""))
    ⟨id, attrs⟩⟩, ?_, rfl, fun key hKey => get?_styleNode_of_kept _ _ (Or.inl hKey)⟩
  rw [mem_nodeList_iff, get?_nodes_styled_of_text rfl, h]
  rfl

theorem Graph.exists_get?_of_styled (h : node ∈ g.styled.nodeList) :
    ∃ attrs, g.nodes.get? node.id = some attrs ∧ node.IsStyled attrs := by
  rw [mem_nodeList_iff, get?_nodes_styled_of_text rfl, Option.map_eq_some_iff] at h
  obtain ⟨attrs, hAttrs, hStyle⟩ := h
  refine ⟨attrs, hAttrs, fun key hKey => ?_⟩
  rw [← hStyle]
  exact get?_styleNode_of_kept _ _ (Or.inl hKey)

theorem exists_node_of_stage (h : compile source = .ok c) {stage : Stage}
    (hStage : stage ∈ c.definition.stages) :
    ∃ node ∈ c.graph.nodeList, node.id = stage.id ∧ node.IsStyled stage.nodeAttrs := by
  obtain ⟨g, hGraph, hStyled⟩ := exists_toGraph_of_compile h
  have hNodup := (Definition.isAccepted_of_toGraph hGraph).nodup
  rw [hStyled]
  refine Graph.exists_styled_of_get? ?_
  rw [Definition.nodes_of_toGraph hGraph, Definition.get?_nodes hNodup hStage]

theorem start_or_exists_stage_of_node (h : compile source = .ok c)
    (hNode : node ∈ c.graph.nodeList) :
    (node.id = Graph.startId ∧ node.IsStyled Definition.startAttrs) ∨
      ∃ stage ∈ c.definition.stages, node.id = stage.id ∧ node.IsStyled stage.nodeAttrs := by
  obtain ⟨g, hGraph, hStyled⟩ := exists_toGraph_of_compile h
  rw [hStyled] at hNode
  obtain ⟨attrs, hAttrs, hNode⟩ := Graph.exists_get?_of_styled hNode
  rw [Definition.nodes_of_toGraph hGraph, Table.get?_eq_some_iff, Definition.nodes] at hAttrs
  obtain hMem | ⟨hMem, -⟩ := Table.mem_entries_insertAll hAttrs
  · obtain ⟨stage, hStage, hEq⟩ := List.mem_map.mp hMem
    obtain ⟨hId, rfl⟩ := Prod.mk.inj hEq
    exact Or.inr ⟨stage, hStage, hId.symm, hNode⟩
  · obtain ⟨hId, rfl⟩ := Prod.mk.inj (List.mem_singleton.mp hMem)
    exact Or.inl ⟨hId, hNode⟩

end Compile

end Workflow
