import Workflow.Compile
import Workflow.Proofs.Lowering.Nodes

/-!
# Compiled graphs

A compiled graph is the lowered one with its stylesheet applied. Styling changes attributes of
nodes; it keeps the nodes and the edges.
-/

namespace Workflow

namespace Graph

theorem edges_styled (g : Graph) : g.styled.edges = g.edges := by
  unfold styled
  split <;> rfl

theorem attrs_styled (g : Graph) : g.styled.attrs = g.attrs := by
  unfold styled
  split <;> rfl

theorem ids_styled (g : Graph) : g.styled.ids = g.ids := by
  unfold styled
  split
  · rfl
  · exact Table.keys_mapValues _ _

theorem exists_node?_eq_some {g : Graph} {id : String} (h : id ∈ g.ids) :
    ∃ node, g.node? id = some node ∧ node.id = id := by
  obtain ⟨attrs, hAttrs⟩ := Table.exists_get?_eq_some h
  exact ⟨⟨id, attrs⟩, by rw [node?, hAttrs]; rfl, rfl⟩

end Graph

theorem exists_toGraph_of_compile {source : String} {c : Compiled} (h : compile source = .ok c) :
    ∃ g, c.definition.toGraph = .ok g ∧ c.graph = g.styled := by
  obtain ⟨d, -, h⟩ := Except.bind_eq_ok_iff.mp h
  obtain ⟨warnings, -, h⟩ := Except.bind_eq_ok_iff.mp (Except.mapError_eq_ok_iff.mp h)
  obtain ⟨g, hGraph, h⟩ := Except.bind_eq_ok_iff.mp h
  cases h
  exact ⟨g, hGraph, rfl⟩

theorem parse_and_warnings_of_compile {source : String} {c : Compiled}
    (h : compile source = .ok c) :
    Definition.parse source = .ok c.definition ∧ c.warnings = c.definition.validate := by
  obtain ⟨d, hParse, h⟩ := Except.bind_eq_ok_iff.mp h
  obtain ⟨warnings, hAccept, h⟩ := Except.bind_eq_ok_iff.mp (Except.mapError_eq_ok_iff.mp h)
  obtain ⟨g, hGraph, h⟩ := Except.bind_eq_ok_iff.mp h
  cases h
  have hAccepted := Definition.isAccepted_of_toGraph hGraph
  rw [Definition.accept_eq_ok hAccepted] at hAccept
  cases hAccept
  exact ⟨Except.mapError_eq_ok_iff.mp hParse, rfl⟩

theorem exists_compile_of_parse {source : String} {d : Definition}
    (hParse : Definition.parse source = .ok d) (hAccepted : d.IsAccepted) :
    ∃ c, compile source = .ok c ∧ c.definition = d := by
  obtain ⟨graph, hCompile⟩ := hAccepted.exists_compile_eq_ok (Definition.hasPriorities_parse hParse)
  rw [compile_eq_of_parse hParse, hCompile]
  exact ⟨_, rfl, rfl⟩

end Workflow
