import Workflow.Proofs.Lowering.Entry
import Workflow.Proofs.Lowering.Selection
import Workflow.Proofs.Validation.Reachable

/-!
# Reachability in a definition and in its graph

Validation follows every way out that a stage declares. A way whose guard never holds has no edge in
the graph, so the graph reaches what validation reaches as soon as these closed ways are added to its
edges, and it may reach less without them.
-/

namespace Workflow

open Workflow.Routing

def Graph.LeadsTo (g : Graph) (source target : String) : Prop :=
  ∃ edge ∈ g.edges, edge.source = source ∧ edge.target = target

def Graph.Reaches (g : Graph) : String → String → Prop :=
  Relation.ReflTransGen g.LeadsTo

/-- A way out is closed if its guard never holds, so that it has no edge. -/
def Exit.IsClosed (exit : Exit) : Prop :=
  edgeConditions exit.condition = .ok []

theorem Exit.Expands.exists_edge_iff {source : String} {total : Nat} {entry : Exit × Nat}
    {edges : List Graph.Edge} (h : Exit.Expands source total entry edges) :
    (∃ edge, edge ∈ edges) ↔ ¬ entry.1.IsClosed := by
  obtain ⟨conditions, weight, hConditions, -, rfl⟩ := h
  rw [IsClosed, hConditions]
  cases conditions <;> simp

/-- The ways out that are not closed lead where the edges lead. -/
theorem Expands.exists_edge_iff {source : String} {exits : List Exit} {edges : List Graph.Edge}
    (h : Expands source exits edges) {target : String} :
    (∃ edge ∈ edges, edge.target = target) ↔
      ∃ exit ∈ exits, exit.target = target ∧ ¬ exit.IsClosed := by
  obtain ⟨parts, hParts, rfl⟩ := h
  have hTarget : ∀ entry part, Exit.Expands source exits.length entry part →
      ∀ edge ∈ part, edge.target = entry.1.target := by
    rintro entry part ⟨conditions, weight, -, -, rfl⟩ edge hEdge
    obtain ⟨condition, -, rfl⟩ := List.mem_map.mp hEdge
    rfl
  constructor
  · rintro ⟨edge, hEdge, rfl⟩
    obtain ⟨part, hPart, hMem⟩ := List.mem_flatten.mp hEdge
    obtain ⟨entry, hEntry, hExpands⟩ := Except.exists_of_mem_of_forall₂ hParts part hPart
    exact ⟨entry.1, List.fst_mem_of_mem_zipIdx hEntry, (hTarget entry part hExpands edge hMem).symm,
      hExpands.exists_edge_iff.mp ⟨edge, hMem⟩⟩
  · rintro ⟨exit, hExit, rfl, hOpen⟩
    rw [← List.zipIdx_map_fst 0 exits] at hExit
    obtain ⟨entry, hEntry, rfl⟩ := List.mem_map.mp hExit
    obtain ⟨part, hPart, hExpands : Exit.Expands source exits.length entry part⟩ :=
      Except.exists_of_mem_of_forall₂ hParts.flip entry hEntry
    obtain ⟨edge, hMem⟩ := hExpands.exists_edge_iff.mpr hOpen
    exact ⟨edge, List.mem_flatten.mpr ⟨part, hPart, hMem⟩, hTarget entry part hExpands edge hMem⟩

theorem Stage.isExit_iff (stage : Stage) :
    (⟨stage.id, stage.nodeAttrs⟩ : Graph.Node).isExit = true ↔ stage.kind = .exit := by
  have hShape : (⟨stage.id, stage.nodeAttrs⟩ : Graph.Node).shape = .str stage.kind.shape := by
    rw [Graph.Node.shape, Graph.Node.attrOr, stage.get?_shape_nodeAttrs]
    rfl
  rw [Graph.Node.isExit, hShape, decide_eq_true_iff]
  cases stage.kind <;> decide

namespace Definition

variable {d : Definition} {g : Graph} {stage : Stage} {target : String}

/-- A closed way leads from one stage to another. -/
def HasClosedWay (d : Definition) (source target : String) : Prop :=
  ∃ stage ∈ d.stages, stage.id = source ∧ ∃ way ∈ d.waysFrom stage,
    way.target = target ∧ way.IsClosed

/-- One node leads to another by an edge of the graph or by a closed way of the definition. -/
def LeadsIn (d : Definition) (g : Graph) (source target : String) : Prop :=
  g.LeadsTo source target ∨ d.HasClosedWay source target

/-- The warnings of a definition say which stages are not reached, and whether no exit node is. -/
structure WarnsOf (d : Definition) (g : Graph) (reached : String → Prop) : Prop where
  stages : ∀ stage ∈ d.stages, .unreachable stage.id ∈ d.validate ↔ ¬ reached stage.id
  exits : .noReachableExit ∈ d.validate ↔ ∀ node ∈ g.exits, ¬ reached node.id

theorem targets_eq_waysFrom (hKind : stage.kind ≠ .human) :
    d.targets stage = (d.waysFrom stage).map (·.target) := by
  unfold targets waysFrom exitsFrom
  cases hStage : stage.kind with
  | human => exact absurd hStage hKind
  | decision => simp [Function.comp_def, Route.exit]
  | llm | tool | exit => simp [Function.comp_def, Transition.exit]

theorem IsLinked.waysFrom_eq_nil (h : d.IsLinked) (hStage : stage ∈ d.stages)
    (hKind : stage.kind = .human) : d.waysFrom stage = [] := by
  have hOwn : stage.routesItself = true := by
    rw [Stage.routesItself, hKind]
    rfl
  rw [waysFrom, hKind, if_neg (by decide)]
  exact h.exitsFrom_eq_nil hStage hOwn

theorem LeavingEdges.mem_targets_iff {edges : List Graph.Edge} (h : d.LeavingEdges stage edges)
    (hLinked : d.IsLinked) (hStage : stage ∈ d.stages) :
    target ∈ d.targets stage ↔ (∃ edge ∈ edges, edge.target = target) ∨
      ∃ way ∈ d.waysFrom stage, way.target = target ∧ way.IsClosed := by
  by_cases hKind : stage.kind = .human
  · have hEdges : edges = stage.choices.map (choiceEdge stage) := by
      unfold LeavingEdges at h
      rwa [hKind] at h
    simp [targets, hKind, hEdges, hLinked.waysFrom_eq_nil hStage hKind, choiceEdge]
  · rw [(h.expands hKind).exists_edge_iff, targets_eq_waysFrom hKind, List.mem_map]
    constructor
    · rintro ⟨way, hWay, hTarget⟩
      by_cases hClosed : way.IsClosed
      · exact Or.inr ⟨way, hWay, hTarget, hClosed⟩
      · exact Or.inl ⟨way, hWay, hTarget, hClosed⟩
    · rintro (⟨way, hWay, hTarget, -⟩ | ⟨way, hWay, hTarget, -⟩)
      · exact ⟨way, hWay, hTarget⟩
      · exact ⟨way, hWay, hTarget⟩

theorem IsLinked.targets_mem (h : d.IsLinked) (hStage : stage ∈ d.stages)
    (hTarget : target ∈ d.targets stage) : target ∈ d.stageIds := by
  unfold targets at hTarget
  split at hTarget
  · obtain ⟨choice, hChoice, rfl⟩ := List.mem_map.mp hTarget
    exact h.choice stage hStage choice hChoice
  · obtain ⟨route, hRoute, rfl⟩ := List.mem_map.mp hTarget
    exact h.route stage hStage route hRoute
  · obtain ⟨t, ht, rfl⟩ := List.mem_map.mp hTarget
    exact h.target t (List.mem_of_mem_filter ht)

theorem leads_iff (hLinked : d.IsLinked) (hStage : stage ∈ d.stages) :
    Leads d.stageIds d.leadsTo stage.id target ↔ target ∈ d.targets stage := by
  rw [Leads, leadsTo, stage?_eq_some hLinked.nodup hStage]
  exact ⟨And.right, fun hTarget => ⟨hLinked.targets_mem hStage hTarget, hTarget⟩⟩

theorem mem_stageIds_of_leads {source : String} (h : Leads d.stageIds d.leadsTo source target) :
    source ∈ d.stageIds := by
  obtain ⟨-, hTarget⟩ := h
  unfold leadsTo stage? at hTarget
  split at hTarget
  · rename_i stage hFind
    have hId : stage.id = source := by simpa using List.find?_some hFind
    exact hId ▸ id_mem_stageIds (List.mem_of_find?_eq_some hFind)
  · cases hTarget

section Start

variable (h : d.toGraph = .ok g) (hFree : Graph.startId ∉ d.stageIds)

include h hFree

theorem leadsIn_iff (hStage : stage ∈ d.stages) :
    d.LeadsIn g stage.id target ↔ Leads d.stageIds d.leadsTo stage.id target := by
  obtain ⟨between, own, hParts⟩ := exists_edgeParts h
  have hLinked := (isAccepted_of_toGraph h).isLinked
  have hId : stage.id ≠ Graph.startId := fun hEq => hFree (hEq ▸ id_mem_stageIds hStage)
  rw [leads_iff hLinked hStage,
    (hParts.leavingEdges hLinked hStage hId).mem_targets_iff hLinked hStage]
  refine or_congr ?_ ?_
  · simp [Graph.LeadsTo, Graph.edgesFrom, and_assoc]
  · constructor
    · rintro ⟨other, hOther, hEq, hWay⟩
      have hSame : other = stage := by
        have hFirst := stage?_eq_some hLinked.nodup hOther
        rw [hEq, stage?_eq_some hLinked.nodup hStage] at hFirst
        exact (Option.some.inj hFirst).symm
      exact hSame ▸ hWay
    · exact fun hWay => ⟨stage, hStage, rfl, hWay⟩

theorem leadsIn_start_iff : d.LeadsIn g Graph.startId target ↔ target = d.start := by
  have hEntry : g.LeadsTo Graph.startId target ↔ target = d.start := by
    have hFrom : g.LeadsTo Graph.startId target ↔
        ∃ edge ∈ g.edgesFrom Graph.startId, edge.target = target := by
      simp [Graph.LeadsTo, Graph.edgesFrom, and_assoc]
    rw [hFrom, (edges_at_start h hFree).1]
    simp [entryEdge, eq_comm]
  rw [LeadsIn, hEntry, or_iff_left]
  rintro ⟨stage, hStage, hId, -⟩
  exact hFree (hId ▸ id_mem_stageIds hStage)

/-- With the closed ways, a graph reaches from its start node exactly the stages that validation
finds reachable. -/
theorem reaches_iff {id : String} : Relation.ReflTransGen (d.LeadsIn g) Graph.startId id ↔
    id = Graph.startId ∨ id ∈ d.reachable := by
  have hStart := (isAccepted_of_toGraph h).start_mem
  constructor
  · intro hReach
    induction hReach with
    | refl => exact Or.inl rfl
    | tail _ hLeads ih =>
      right
      rw [mem_reachable_iff, and_iff_right hStart]
      obtain rfl | hMem := ih
      · rw [(leadsIn_start_iff h hFree).mp hLeads]
      · obtain ⟨stage, hStage, rfl⟩ := List.mem_map.mp (mem_stageIds_of_reachable hMem)
        exact (mem_reachable_iff.mp hMem).2.tail ((leadsIn_iff h hFree hStage).mp hLeads)
  · rintro (rfl | hMem)
    · exact .refl
    · refine .head ((leadsIn_start_iff h hFree).mpr rfl) ?_
      refine Relation.ReflTransGen.mono (fun source target hLeads => ?_) _ _
        (mem_reachable_iff.mp hMem).2
      obtain ⟨stage, hStage, rfl⟩ := List.mem_map.mp (mem_stageIds_of_leads hLeads)
      exact (leadsIn_iff h hFree hStage).mpr hLeads

theorem mem_exits_iff {node : Graph.Node} : node ∈ g.exits ↔
    ∃ stage ∈ d.stages, stage.kind = .exit ∧ node = ⟨stage.id, stage.nodeAttrs⟩ := by
  have hStartNode : (⟨Graph.startId, startAttrs⟩ : Graph.Node).isExit = false := by decide
  rw [Graph.exits, nodeList_of_free h hFree, List.mem_filter, List.mem_cons, List.mem_map]
  constructor
  · rintro ⟨rfl | ⟨stage, hStage, rfl⟩, hExit⟩
    · rw [hStartNode] at hExit
      cases hExit
    · exact ⟨stage, hStage, stage.isExit_iff.mp hExit, rfl⟩
  · rintro ⟨stage, hStage, hKind, rfl⟩
    exact ⟨Or.inr ⟨stage, hStage, rfl⟩, stage.isExit_iff.mpr hKind⟩

/-- Validation warns of what the graph, with the closed ways of the definition, does not reach. -/
theorem warnsOf_leadsIn :
    d.WarnsOf g (Relation.ReflTransGen (d.LeadsIn g) Graph.startId) := by
  have hStart := (isAccepted_of_toGraph h).start_mem
  have hStage : ∀ stage ∈ d.stages, Relation.ReflTransGen (d.LeadsIn g) Graph.startId stage.id ↔
      stage.id ∈ d.reachable := by
    intro stage hStage
    rw [reaches_iff h hFree, or_iff_right]
    exact fun hEq => hFree (hEq ▸ id_mem_stageIds hStage)
  constructor
  · intro stage hMem
    rw [unreachable_mem_validate_iff, hStage stage hMem]
    exact ⟨fun hWarned => hWarned.2.2, fun hOut => ⟨hStart, id_mem_stageIds hMem, hOut⟩⟩
  · rw [noReachableExit_mem_validate_iff, and_iff_right hStart]
    constructor
    · intro hNone node hNode
      obtain ⟨stage, hMem, hKind, rfl⟩ := (mem_exits_iff h hFree).mp hNode
      exact fun hReach => hNone stage hMem hKind ((hStage stage hMem).mp hReach)
    · intro hNone stage hMem hKind hReach
      exact hNone _ ((mem_exits_iff h hFree).mpr ⟨stage, hMem, hKind, rfl⟩)
        ((hStage stage hMem).mpr hReach)

/-- Warnings about reachability are right of the graph. They are complete as soon as the closed ways
count, and so for every definition without closed ways. -/
theorem reachability_toGraph :
    d.WarnsOf g (Relation.ReflTransGen (d.LeadsIn g) Graph.startId) ∧
    (∀ stage ∈ d.stages, .unreachable stage.id ∈ d.validate →
      ¬ g.Reaches Graph.startId stage.id) ∧
    (.noReachableExit ∈ d.validate → ∀ node ∈ g.exits, ¬ g.Reaches Graph.startId node.id) ∧
    ((∀ source target, ¬ d.HasClosedWay source target) →
      d.WarnsOf g (g.Reaches Graph.startId)) := by
  have hWarns := warnsOf_leadsIn h hFree
  have hMore : ∀ id, g.Reaches Graph.startId id →
      Relation.ReflTransGen (d.LeadsIn g) Graph.startId id :=
    fun _ => Relation.ReflTransGen.mono (fun _ _ => Or.inl) _ _
  refine ⟨hWarns, fun stage hStage hWarned hReach => ?_, fun hWarned node hNode hReach => ?_,
    fun hNone => ?_⟩
  · exact (hWarns.stages stage hStage).mp hWarned (hMore _ hReach)
  · exact hWarns.exits.mp hWarned node hNode (hMore _ hReach)
  · have hSame : d.LeadsIn g = g.LeadsTo := by
      funext source target
      exact propext (or_iff_left (hNone source target))
    rwa [hSame] at hWarns

end Start

theorem reachability_toGraph_at_closed_route :
    ∃ d g, toGraph d = .ok g ∧ Graph.startId ∉ d.stageIds ∧ d.HasClosedWay "x" "y" ∧
      d.validate = [.unreachable "u"] ∧ ¬ g.Reaches Graph.startId "u" ∧
      Relation.ReflTransGen (d.LeadsIn g) Graph.startId "y" := by
  obtain ⟨d, hd⟩ : ∃ d : Definition, d =
      { name := "w", start := "x", stages := [
          { id := "x", kind := .decision,
            routes := [⟨"false", "y", .none⟩, ⟨"true", "z", .none⟩] },
          { id := "y", kind := .exit }, { id := "z", kind := .exit },
          { id := "u", kind := .exit }] } := ⟨_, rfl⟩
  have hReachable : d.reachable = ["z", "y", "x"] := by
    simp [hd, reachable, visit, leadsTo, stage?, targets, stageIds]
  have hValidate : d.validate = [.unreachable "u"] := by
    rw [validate, checkReachable, hReachable, hd]
    decide +kernel
  have hAccepted : d.IsAccepted := by
    rw [IsAccepted, hValidate]
    decide
  have hPriorities : d.HasPriorities := by
    rw [hd]
    simp [HasPriorities, Stage.HasPriorities, Value.IsPriority]
  obtain ⟨g, hGraph⟩ := hAccepted.exists_toGraph_eq_ok hPriorities
  have hFree : Graph.startId ∉ d.stageIds := by
    rw [hd]
    decide
  have hMem : ∀ id ∈ ["y", "u"], ∃ stage ∈ d.stages, stage.id = id := by
    rw [hd]
    decide
  obtain ⟨hWarns, hRight, -⟩ := reachability_toGraph hGraph hFree
  refine ⟨d, g, hGraph, hFree, ?_, hValidate, ?_, ?_⟩
  · rw [hd]
    exact ⟨_, List.mem_cons_self, rfl, ⟨"y", some "false", .none⟩, List.mem_cons_self, rfl,
      by unfold Exit.IsClosed; decide +kernel⟩
  · obtain ⟨stage, hStage, hId⟩ := hMem "u" (by decide)
    rw [← hId]
    refine hRight stage hStage ?_
    rw [hValidate, hId]
    exact List.mem_singleton_self _
  · obtain ⟨stage, hStage, hId⟩ := hMem "y" (by decide)
    have hQuiet : .unreachable stage.id ∉ d.validate := by
      rw [hValidate, hId]
      decide
    rw [← hId]
    exact not_not.mp (mt (hWarns.stages stage hStage).mpr hQuiet)

/-- The only way to the exit is closed, and validation is silent about it. -/
theorem exists_unreached_without_warning :
    ∃ d g, toGraph d = .ok g ∧ Graph.startId ∉ d.stageIds ∧ d.validate = [] ∧
      (∃ stage ∈ d.stages, ¬ g.Reaches Graph.startId stage.id) ∧
      ∀ node ∈ g.exits, ¬ g.Reaches Graph.startId node.id := by
  obtain ⟨d, hd⟩ : ∃ d : Definition, d =
      { name := "w", start := "x", stages := [
          { id := "x", kind := .decision,
            routes := [⟨"false", "z", .none⟩, ⟨"true", "x", .none⟩] },
          { id := "z", kind := .exit }] } := ⟨_, rfl⟩
  have hReachable : d.reachable = ["z", "x"] := by
    simp [hd, reachable, visit, leadsTo, stage?, targets, stageIds]
  have hValidate : d.validate = [] := by
    rw [validate, checkReachable, hReachable, hd]
    decide +kernel
  have hEdges : d.edges = .ok [⟨"__start__", "x", Table.ofList [("condition", .str "")]⟩,
      ⟨"x", "x", Table.ofList [("condition", .str ""), ("weight", .int 1)]⟩] := by
    rw [hd]
    decide +kernel
  obtain ⟨g, hGraph, hg⟩ : ∃ g, d.toGraph = .ok g ∧ .ok g.edges = d.edges :=
    ⟨_, toGraph_eq_ok (isAccepted_of_validate_eq_nil hValidate) hEdges, hEdges.symm⟩
  rw [hEdges] at hg
  have hFree : Graph.startId ∉ d.stageIds := by
    rw [hd]
    decide
  have hOut : ¬ g.Reaches Graph.startId "z" := by
    intro hReach
    -- the last step would be an edge to the exit
    obtain hEnd | ⟨_, -, edge, hEdge, -, hTarget⟩ := Relation.ReflTransGen.cases_tail hReach
    · revert hEnd
      decide
    · simp only [Except.ok.inj hg, List.mem_cons, List.not_mem_nil, or_false] at hEdge
      obtain rfl | rfl := hEdge
      · revert hTarget
        decide
      · revert hTarget
        decide
  refine ⟨d, g, hGraph, hFree, hValidate, ⟨{ id := "z", kind := .exit }, by simp [hd], hOut⟩,
    fun node hNode => ?_⟩
  obtain ⟨stage, hStage, hKind, rfl⟩ := (mem_exits_iff hGraph hFree).mp hNode
  rw [hd] at hStage
  simp only [List.mem_cons, List.not_mem_nil, or_false] at hStage
  obtain rfl | rfl := hStage
  · cases hKind
  · exact hOut

/-- A stage that takes the id of the start node is warned of, though the graph starts from it. -/
theorem exists_warning_about_start :
    ∃ d g, toGraph d = .ok g ∧ .unreachable Graph.startId ∈ d.validate ∧
      g.Reaches Graph.startId Graph.startId := by
  obtain ⟨d, hd⟩ : ∃ d : Definition, d =
      { name := "w", start := "a", stages := [
          { id := "a", kind := .exit }, { id := "__start__", kind := .exit }] } := ⟨_, rfl⟩
  have hReachable : d.reachable = ["a"] := by
    simp [hd, reachable, visit, leadsTo, stage?, targets, stageIds]
  have hValidate : d.validate = [.unreachable "__start__"] := by
    rw [validate, checkReachable, hReachable, hd]
    decide +kernel
  have hAccepted : d.IsAccepted := by
    rw [IsAccepted, hValidate]
    decide
  obtain ⟨edges, hEdges⟩ : ∃ edges, d.edges = .ok edges := by
    rw [hd]
    exact ⟨_, rfl⟩
  refine ⟨d, _, toGraph_eq_ok hAccepted hEdges, ?_, Relation.ReflTransGen.refl⟩
  rw [hValidate]
  exact List.mem_singleton_self _

/-- Where a way out is closed or a stage takes the id of the start node, the warnings and the graph
differ. -/
theorem exists_warnings_unlike_graph :
    (∃ d g, toGraph d = .ok g ∧ Graph.startId ∉ d.stageIds ∧ d.validate = [] ∧
      (∃ stage ∈ d.stages, ¬ g.Reaches Graph.startId stage.id) ∧
      ∀ node ∈ g.exits, ¬ g.Reaches Graph.startId node.id) ∧
    ∃ d g, toGraph d = .ok g ∧ .unreachable Graph.startId ∈ d.validate ∧
      g.Reaches Graph.startId Graph.startId :=
  ⟨exists_unreached_without_warning, exists_warning_about_start⟩

end Definition

end Workflow
