import Workflow.Proofs.Definition.Linked
import Workflow.Proofs.Table

/-!
# The nodes of a lowered definition

The nodes are the start node and one node for each stage, in order. A stage with the id of the
start node takes its place. The shape of a node is that of the kind of its stage, whatever
attributes the stage has.
-/

namespace Workflow

namespace Stage

/-- The names of the attributes for a retry policy. -/
def retryNames : List String :=
  ["max_retries", "retry_backoff", "retry_delay", "retry_max_delay"]

theorem notMem_retryAttrs {key : String} (h : key ∉ retryNames) (retry : Retry) :
    key ∉ (retryAttrs retry).map Prod.fst := by
  simp only [retryNames, List.mem_cons, List.not_mem_nil, or_false, not_or] at h
  simp only [retryAttrs, List.cons_append, List.map_cons, List.map_append, List.mem_cons,
    List.mem_append, not_or]
  refine ⟨h.1, ⟨?_, ?_⟩, ?_⟩ <;> split <;> simp [h]

theorem get?_shape_nodeAttrs (stage : Stage) :
    stage.nodeAttrs.get? "shape" = some (.str stage.kind.shape) := by
  have hRetry : "shape" ∉ (((stage.retry.map retryAttrs).getD []).map Prod.fst) := by
    cases stage.retry with
    | none => exact List.not_mem_nil
    | some retry => exact notMem_retryAttrs (by decide) retry
  have hRetried : ∀ attrs : Attrs,
      (((attrs.insert "shape" (.str stage.kind.shape)).insertNew "label" (.str stage.id)).insertAll
        ((stage.retry.map retryAttrs).getD [])).get? "shape" = some (.str stage.kind.shape) := by
    intro attrs
    rw [Table.get?_insertAll_of_notMem hRetry, Table.get?_insertNew_of_ne (by decide),
      Table.get?_insert, if_pos rfl]
  unfold nodeAttrs
  split
  · exact hRetried _
  · exact hRetried _
  · rw [Table.get?_insert, if_neg (by decide)]
    exact hRetried _

theorem isStart_eq_false (stage : Stage) :
    (⟨stage.id, stage.nodeAttrs⟩ : Graph.Node).isStart = false := by
  have hKind : stage.kind.shape ≠ "Mdiamond" := by
    cases stage.kind <;> decide
  simp [Graph.Node.isStart, Graph.Node.shape, Graph.Node.attrOr, get?_shape_nodeAttrs, hKind]

end Stage

namespace Definition

variable {d : Definition} {g : Graph}

theorem toGraph_eq_ok (h : d.IsAccepted) {edges : List Graph.Edge} (hEdges : d.edges = .ok edges) :
    d.toGraph =
      .ok { name := d.name, attrs := d.graphAttrs, nodes := d.nodes, edges := edges } := by
  rw [toGraph, accept_eq_ok h, hEdges]
  rfl

/-- A definition has a graph exactly if validation accepts it and its edges can be made. -/
theorem toGraph_eq_ok_iff : d.toGraph = .ok g ↔ d.IsAccepted ∧ ∃ edges, d.edges = .ok edges ∧
    g = { name := d.name, attrs := d.graphAttrs, nodes := d.nodes, edges := edges } := by
  constructor
  · intro h
    obtain ⟨warnings, hWarnings, h⟩ := Except.bind_eq_ok_iff.mp h
    obtain ⟨edges, hEdges, h⟩ := Except.bind_eq_ok_iff.mp h
    refine ⟨?_, edges, hEdges, (Except.ok.inj h).symm⟩
    by_contra hRejected
    rw [accept_eq_error hRejected] at hWarnings
    cases hWarnings
  · rintro ⟨hAccepted, edges, hEdges, rfl⟩
    exact toGraph_eq_ok hAccepted hEdges

theorem isAccepted_of_toGraph (h : d.toGraph = .ok g) : d.IsAccepted :=
  (toGraph_eq_ok_iff.mp h).1

theorem edges_of_toGraph (h : d.toGraph = .ok g) : d.edges = .ok g.edges := by
  obtain ⟨-, edges, hEdges, rfl⟩ := toGraph_eq_ok_iff.mp h
  exact hEdges

theorem nodes_of_toGraph (h : d.toGraph = .ok g) : g.nodes = d.nodes := by
  obtain ⟨-, edges, -, rfl⟩ := toGraph_eq_ok_iff.mp h
  rfl

theorem attrs_of_toGraph (h : d.toGraph = .ok g) : g.attrs = d.graphAttrs := by
  obtain ⟨-, edges, -, rfl⟩ := toGraph_eq_ok_iff.mp h
  rfl

theorem map_fst_stages (d : Definition) :
    (d.stages.map fun stage => (stage.id, stage.nodeAttrs)).map Prod.fst = d.stageIds := by
  rw [List.map_map]
  rfl

theorem mem_keys_nodes {id : String} :
    id ∈ d.nodes.keys ↔ id = Graph.startId ∨ id ∈ d.stageIds := by
  have hEntry : (Table.ofList [(Graph.startId, startAttrs)]).keys = [Graph.startId] := rfl
  rw [nodes, Table.mem_keys_insertAll, map_fst_stages, hEntry, List.mem_singleton]

theorem get?_nodes (hNodup : d.stageIds.Nodup) {stage : Stage} (h : stage ∈ d.stages) :
    d.nodes.get? stage.id = some stage.nodeAttrs := by
  rw [← map_fst_stages] at hNodup
  exact Table.get?_insertAll_of_mem hNodup (List.mem_map_of_mem h)

theorem entries_nodes (hNodup : d.stageIds.Nodup) (hFree : Graph.startId ∉ d.stageIds) :
    d.nodes.entries =
      (Graph.startId, startAttrs) :: d.stages.map fun stage => (stage.id, stage.nodeAttrs) := by
  apply Table.entries_insertAll
  rw [map_fst_stages]
  exact List.nodup_cons.mpr ⟨hFree, hNodup⟩

theorem mem_entries_nodes (hTaken : Graph.startId ∈ d.stageIds) {entry : String × Attrs}
    (h : entry ∈ d.nodes.entries) : ∃ stage ∈ d.stages, entry = (stage.id, stage.nodeAttrs) := by
  obtain hMem | ⟨hMem, hNew⟩ := Table.mem_entries_insertAll h
  · obtain ⟨stage, hStage, hEq⟩ := List.mem_map.mp hMem
    exact ⟨stage, hStage, hEq.symm⟩
  · obtain rfl : entry = (Graph.startId, startAttrs) := List.mem_singleton.mp hMem
    rw [map_fst_stages] at hNew
    exact absurd hTaken hNew

end Definition

end Workflow
