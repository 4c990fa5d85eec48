import Workflow.Proofs.Lowering.Edges

/-!
# The entry of a lowered definition

A graph has its start node exactly if no stage takes the id of that node. It is then the first
node and the only one of its shape, one edge leads from it to the declared start, and none leads
back.
-/

namespace Workflow.Definition

variable {d : Definition} {g : Graph}

theorem nodeList_of_toGraph (h : d.toGraph = .ok g) :
    g.nodeList = d.nodes.entries.map fun entry => ⟨entry.1, entry.2⟩ := by
  rw [Graph.nodeList, nodes_of_toGraph h]

theorem isStart_startAttrs : (⟨Graph.startId, startAttrs⟩ : Graph.Node).isStart = true := by
  decide

theorem nodeList_of_free (h : d.toGraph = .ok g) (hFree : Graph.startId ∉ d.stageIds) :
    g.nodeList = ⟨Graph.startId, startAttrs⟩ ::
      d.stages.map fun stage => ⟨stage.id, stage.nodeAttrs⟩ := by
  have hNodup := (isAccepted_of_toGraph h).nodup
  rw [nodeList_of_toGraph h, entries_nodes hNodup hFree, List.map_cons, List.map_map]
  rfl

theorem starts_of_free (h : d.toGraph = .ok g) (hFree : Graph.startId ∉ d.stageIds) :
    g.starts = [⟨Graph.startId, startAttrs⟩] := by
  have hStages : (d.stages.map fun stage => (⟨stage.id, stage.nodeAttrs⟩ : Graph.Node)).filter
      Graph.Node.isStart = [] := by
    rw [List.filter_eq_nil_iff, List.forall_mem_map]
    intro stage _
    rw [stage.isStart_eq_false]
    exact Bool.false_ne_true
  rw [Graph.starts, nodeList_of_free h hFree, List.filter_cons, if_pos isStart_startAttrs, hStages]

theorem starts_of_taken (h : d.toGraph = .ok g) (hTaken : Graph.startId ∈ d.stageIds) :
    g.starts = [] := by
  rw [Graph.starts, nodeList_of_toGraph h, List.filter_eq_nil_iff, List.forall_mem_map]
  intro entry hEntry
  obtain ⟨stage, -, rfl⟩ := mem_entries_nodes hTaken hEntry
  rw [stage.isStart_eq_false]
  exact Bool.false_ne_true

/-- Around a start node that no stage replaces there is the entry edge alone. -/
theorem edges_at_start (h : d.toGraph = .ok g) (hFree : Graph.startId ∉ d.stageIds) :
    g.edgesFrom Graph.startId = [d.entryEdge] ∧ g.edgesTo Graph.startId = [] := by
  obtain ⟨between, own, hParts⟩ := exists_edgeParts h
  have hLinked := (isAccepted_of_toGraph h).isLinked
  have hNe : ∀ id ∈ d.stageIds, (id == Graph.startId) = false := fun id hId =>
    beq_false_of_ne fun hEq => hFree (hEq ▸ hId)
  have hEnds := hParts.ends_mem hLinked
  constructor
  · have hRest : (between.flatten ++ own.flatten).filter (·.source == Graph.startId) = [] := by
      rw [List.filter_eq_nil_iff]
      intro edge hEdge
      rw [hNe _ (hEnds edge hEdge).1]
      exact Bool.false_ne_true
    rw [Graph.edgesFrom, hParts.edges, List.filter_cons, if_pos (by rfl), hRest]
  · rw [Graph.edgesTo, hParts.edges, List.filter_eq_nil_iff, List.forall_mem_cons]
    constructor
    · rw [entryEdge, hNe _ hLinked.start]
      exact Bool.false_ne_true
    · intro edge hEdge
      rw [hNe _ (hEnds edge hEdge).2]
      exact Bool.false_ne_true

/-- A graph has its entry exactly if no stage takes the id of the start node. -/
theorem entry_toGraph (h : d.toGraph = .ok g) :
    (Graph.startId ∉ d.stageIds →
      g.ids = Graph.startId :: d.stageIds ∧ g.nodes.size = d.stages.length + 1 ∧
      g.start = .ok ⟨Graph.startId, startAttrs⟩ ∧
      (∀ node ∈ g.nodeList, node.shape = .str "Mdiamond" ↔ node.id = Graph.startId) ∧
      g.edgesFrom Graph.startId = [d.entryEdge] ∧ g.edgesTo Graph.startId = []) ∧
    (Graph.startId ∈ d.stageIds → g.start = .error 0) ∧
    ∀ stage ∈ d.stages, ∃ node, g.node? stage.id = some node ∧
      node.shape = .str stage.kind.shape := by
  have hAccepted := isAccepted_of_toGraph h
  refine ⟨fun hFree => ?_, fun hTaken => ?_, fun stage hStage => ?_⟩
  · have hEntries := entries_nodes hAccepted.nodup hFree
    obtain ⟨hFrom, hTo⟩ := edges_at_start h hFree
    refine ⟨?_, ?_, ?_, ?_, hFrom, hTo⟩
    · rw [Graph.ids, nodes_of_toGraph h, Table.keys, hEntries, List.map_cons, map_fst_stages]
    · rw [nodes_of_toGraph h, Table.size, hEntries, List.length_cons, List.length_map]
    · rw [Graph.start, starts_of_free h hFree]
    · rw [nodeList_of_free h hFree, List.forall_mem_cons, List.forall_mem_map]
      refine ⟨by decide, fun stage hStage => iff_of_false ?_ ?_⟩
      · simpa [Graph.Node.isStart] using stage.isStart_eq_false
      · intro hEq
        exact hFree (hEq ▸ id_mem_stageIds hStage)
  · rw [Graph.start, starts_of_taken h hTaken]
    rfl
  · refine ⟨⟨stage.id, stage.nodeAttrs⟩, ?_, ?_⟩
    · rw [Graph.node?, nodes_of_toGraph h, get?_nodes hAccepted.nodup hStage]
      rfl
    · rw [Graph.Node.shape, Graph.Node.attrOr, stage.get?_shape_nodeAttrs]
      rfl

/-- A stage cannot ask for the shape of the start node. -/
theorem entry_toGraph_at_shaped_stage :
    ∃ d g, toGraph d = .ok g ∧ Graph.startId ∉ d.stageIds ∧
      d.stages.map (·.attrs.attr "shape") = [.str "Mdiamond", .none] ∧
      g.ids = ["__start__", "a", "z"] ∧ g.nodes.size = 3 ∧
      g.start = .ok ⟨"__start__", startAttrs⟩ ∧
      g.edgesFrom "__start__" = [⟨"__start__", "a", Table.ofList [("condition", .str "")]⟩] ∧
      g.edgesTo "__start__" = [] := by
  obtain ⟨d, hd⟩ : ∃ d : Definition, d =
      { name := "w", start := "a", stages := [
          { id := "a", kind := .tool, attrs := Table.ofList [("command", .str "make"),
            ("shape", .str "Mdiamond")] },
          { id := "z", kind := .exit }],
        transitions := [⟨"a", "z", none, .none⟩] } := ⟨_, rfl⟩
  have hReachable : d.reachable = ["z", "a"] := by
    simp [hd, reachable, visit, leadsTo, stage?, targets, stageIds]
  have hValidate : d.validate = [] := by
    rw [validate, checkReachable, hReachable, hd]
    decide +kernel
  have hAccepted := isAccepted_of_validate_eq_nil hValidate
  obtain ⟨edges, hEdges⟩ : ∃ edges, d.edges = .ok edges := by
    rw [hd]
    exact ⟨_, rfl⟩
  have hFree : Graph.startId ∉ d.stageIds := by
    rw [hd]
    decide
  have hGraph := toGraph_eq_ok hAccepted hEdges
  obtain ⟨hIds, hSize, hStart, -, hFrom, hTo⟩ := (entry_toGraph hGraph).1 hFree
  refine ⟨d, _, hGraph, hFree, by rw [hd]; rfl, hIds.trans (by rw [hd]; rfl),
    hSize.trans (by rw [hd]; rfl), hStart, hFrom.trans (by rw [hd]; rfl), hTo⟩

/-- A stage with the id of the start node replaces it. -/
theorem exists_toGraph_without_start :
    ∃ d g, toGraph d = .ok g ∧ d.stageIds = ["a", "__start__"] ∧ g.ids = ["__start__", "a"] ∧
      g.start = .error 0 ∧ (g.edgesTo "__start__").map (·.source) = ["a"] := by
  obtain ⟨d, hd⟩ : ∃ d : Definition, d =
      { name := "w", start := "a", stages := [
          { id := "a", kind := .tool, attrs := Table.ofList [("command", .str "make")] },
          { id := "__start__", kind := .exit }],
        transitions := [⟨"a", "__start__", none, .none⟩] } := ⟨_, rfl⟩
  have hReachable : d.reachable = ["__start__", "a"] := by
    simp [hd, reachable, visit, leadsTo, stage?, targets, stageIds]
  have hValidate : d.validate = [] := by
    rw [validate, checkReachable, hReachable, hd]
    decide +kernel
  have hAccepted := isAccepted_of_validate_eq_nil hValidate
  have hIds : d.nodes.keys = ["__start__", "a"] := by
    rw [hd]
    decide +kernel
  have hTaken : Graph.startId ∈ d.stageIds := by
    rw [hd]
    decide
  obtain ⟨edges, hEdges, hTo⟩ : ∃ edges, d.edges = .ok edges ∧
      (edges.filter (·.target == "__start__")).map (·.source) = ["a"] := by
    rw [hd]
    exact ⟨_, rfl, rfl⟩
  have hGraph := toGraph_eq_ok hAccepted hEdges
  refine ⟨d, _, hGraph, by rw [hd]; rfl, hIds, ?_, hTo⟩
  rw [Graph.start, starts_of_taken hGraph hTaken]
  rfl

end Workflow.Definition
