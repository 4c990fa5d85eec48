import Workflow.Proofs.Lowering.Nodes

/-!
# The edges of a lowered definition

Lowering keeps every way out of every stage, once and in order. `Expands` says which edges the
ways out of one stage become; the edges of a graph are the entry, the expansions of the
transitions grouped by source, and the edges that the stages declare themselves. What leaves one
stage is then the part that belongs to it.
-/

namespace Workflow

open Workflow.Routing

theorem Graph.Edge.condition_eq {edge : Edge} {condition : String}
    (h : edge.attrs.attr "condition" = .str condition) : edge.condition = .str condition := by
  rw [Edge.condition, h, Value.orElse]
  by_cases hEmpty : condition = "" <;> simp [Value.isGiven, hEmpty]

/-- The weight that a priority gives to a way out with `rank` siblings from it on. -/
inductive IsWeight (priority : Value) (rank : Int) : Value → Prop
  | whole {n : Int} (h : priority.orElse (.int 0) = .int n) :
      IsWeight priority rank (.int (n * 1000000 + rank))
  | truth (h : priority = .bool true) : IsWeight priority rank (.int (1000000 + rank))
  | binary {x scale order : Binary64} (h : priority.orElse (.int 0) = .float x)
      (hScale : Binary64.ofInt? 1000000 = some scale) (hOrder : Binary64.ofInt? rank = some order) :
      IsWeight priority rank (.float ((x.mul scale).add order))

theorem isWeight_of_orderWeight {priority weight : Value} {index total : Int}
    (h : orderWeight priority index total = .ok weight) :
    IsWeight priority (total - index) weight := by
  unfold orderWeight at h
  split at h
  · rename_i n hPriority
    cases h
    exact .whole hPriority
  · rename_i b hPriority
    cases h
    have hTrue : priority = .bool true := by
      unfold Value.orElse at hPriority
      split at hPriority
      · rename_i hGiven
        subst hPriority
        exact congrArg Value.bool hGiven
      · cases hPriority
    subst hTrue
    cases hPriority
    exact .truth rfl
  · rename_i x hPriority
    split at h
    · rename_i scale order hScale hOrder
      cases h
      exact .binary hPriority hScale hOrder
    · cases h
  all_goals cases h

/-- The edges that one of `total` ways out becomes: one for each condition of its guard. -/
def Exit.Expands (source : String) (total : Nat) (entry : Exit × Nat) (edges : List Graph.Edge) :
    Prop :=
  ∃ conditions weight, edgeConditions entry.1.condition = .ok conditions ∧
    IsWeight entry.1.priority (total - entry.2) weight ∧
    edges = conditions.map fun condition => ⟨source, entry.1.target,
      Table.ofList [("condition", .str condition), ("weight", weight)]⟩

/-- The edges that all ways out of a stage become, one way after the other. -/
def Expands (source : String) (exits : List Exit) (edges : List Graph.Edge) : Prop :=
  ∃ parts, List.Forall₂ (Exit.Expands source exits.length) exits.zipIdx parts ∧
    edges = parts.flatten

theorem Exit.expands_of_edges_eq_ok {source : String} {total index : Nat} {exit : Exit}
    {edges : List Graph.Edge} (h : exit.edges source total index = .ok edges) :
    Exit.Expands source total (exit, index) edges := by
  obtain ⟨weight, hWeight, h⟩ := Except.bind_eq_ok_iff.mp h
  obtain ⟨conditions, hConditions, h⟩ := Except.bind_eq_ok_iff.mp h
  cases h
  exact ⟨conditions, weight, Except.mapError_eq_ok_iff.mp hConditions,
    isWeight_of_orderWeight (Except.mapError_eq_ok_iff.mp hWeight), rfl⟩

theorem expands_of_exitEdges_eq_ok {source : String} {exits : List Exit} {edges : List Graph.Edge}
    (h : exitEdges source exits = .ok edges) : Expands source exits edges := by
  obtain ⟨parts, hParts, h⟩ := Except.bind_eq_ok_iff.mp h
  cases h
  refine ⟨parts, (Except.mapM_eq_ok_iff_forall₂.mp hParts).imp ?_, rfl⟩
  intro entry part hPart
  exact Exit.expands_of_edges_eq_ok hPart

theorem expands_nil (source : String) : Expands source [] [] :=
  ⟨[], .nil, rfl⟩

theorem Expands.eq_nil {source : String} {edges : List Graph.Edge}
    (h : Expands source [] edges) : edges = [] := by
  obtain ⟨parts, hParts, rfl⟩ := h
  cases hParts
  rfl

theorem Expands.ends {source : String} {exits : List Exit} {edges : List Graph.Edge}
    (h : Expands source exits edges) :
    ∀ edge ∈ edges, edge.source = source ∧ ∃ exit ∈ exits, edge.target = exit.target := by
  obtain ⟨parts, hParts, rfl⟩ := h
  intro edge hEdge
  obtain ⟨part, hPart, hMem⟩ := List.mem_flatten.mp hEdge
  obtain ⟨entry, hEntry, conditions, weight, -, -, rfl⟩ :=
    Except.exists_of_mem_of_forall₂ hParts part hPart
  obtain ⟨condition, -, rfl⟩ := List.mem_map.mp hMem
  exact ⟨rfl, entry.1, List.fst_mem_of_mem_zipIdx hEntry, rfl⟩

section Parts

variable {γ : Type} {R : γ → List Graph.Edge → Prop} {name : γ → String} {items : List γ}
  {parts : List (List Graph.Edge)}

theorem filter_flatten_eq_nil (h : List.Forall₂ R items parts)
    (hSource : ∀ item part, R item part → ∀ edge ∈ part, edge.source = name item) {id : String}
    (hId : id ∉ items.map name) : parts.flatten.filter (·.source == id) = [] := by
  rw [List.filter_eq_nil_iff]
  intro edge hEdge hEq
  obtain ⟨part, hPart, hMem⟩ := List.mem_flatten.mp hEdge
  obtain ⟨item, hItem, hR⟩ := Except.exists_of_mem_of_forall₂ h part hPart
  have hName : name item = id := (hSource item part hR edge hMem).symm.trans (by simpa using hEq)
  exact hId (hName ▸ List.mem_map_of_mem hItem)

/-- Where every part leaves one node, and no two parts the same, the edges that leave the node of
a part are that part. -/
theorem filter_flatten_eq_part (h : List.Forall₂ R items parts)
    (hSource : ∀ item part, R item part → ∀ edge ∈ part, edge.source = name item)
    (hNodup : (items.map name).Nodup) :
    ∀ item ∈ items, R item (parts.flatten.filter (·.source == name item)) := by
  induction h with
  | nil => simp
  | @cons first part items parts hFirst hRest ih =>
    rw [List.map_cons, List.nodup_cons] at hNodup
    rw [List.forall_mem_cons, List.flatten_cons]
    constructor
    · have hPart : part.filter (·.source == name first) = part := by
        rw [List.filter_eq_self]
        intro edge hEdge
        simp [hSource first part hFirst edge hEdge]
      rw [List.filter_append, hPart, filter_flatten_eq_nil hRest hSource hNodup.1,
        List.append_nil]
      exact hFirst
    · intro item hItem
      have hPart : part.filter (·.source == name item) = [] := by
        rw [List.filter_eq_nil_iff]
        intro edge hEdge hEq
        have hName : name first = name item :=
          (hSource first part hFirst edge hEdge).symm.trans (by simpa using hEq)
        exact hNodup.1 (hName ▸ List.mem_map_of_mem hItem)
      rw [List.filter_append, hPart, List.nil_append]
      exact ih hNodup.2 item hItem

end Parts

section Distinct

theorem distinct_step (names seen : List String) :
    names.foldl (fun seen name => if seen.contains name then seen else seen ++ [name]) seen =
      seen ++ (names.filter fun name => !seen.contains name).eraseDups := by
  induction names generalizing seen with
  | nil => simp
  | cons name names ih =>
    rw [List.foldl_cons, ih, List.filter_cons]
    by_cases h : name ∈ seen
    · simp [h]
    · have hLater : (names.filter fun other => !(seen ++ [name]).contains other) =
          (names.filter fun other => !seen.contains other).filter fun other => !other == name := by
        rw [List.filter_filter]
        congr 1
        funext other
        by_cases hEq : other = name <;> simp [hEq]
      have hFirst : (!seen.contains name) = true := by simpa using h
      rw [if_pos hFirst, if_neg (by simpa using h), hLater, List.eraseDups_cons,
        List.append_assoc, List.singleton_append]

theorem distinct_eq_eraseDups (names : List String) : distinct names = names.eraseDups := by
  rw [distinct, distinct_step]
  simp

theorem nodup_eraseDups (names : List String) : names.eraseDups.Nodup := by
  match names with
  | [] => simp
  | name :: names =>
    rw [List.eraseDups_cons, List.nodup_cons, List.mem_eraseDups]
    exact ⟨by simp, nodup_eraseDups _⟩
termination_by names.length
decreasing_by exact Nat.lt_succ_of_le (List.length_filter_le _ _)

end Distinct

/-- The edges that a stage declares itself. -/
def Stage.OwnEdges (stage : Stage) (edges : List Graph.Edge) : Prop :=
  match stage.kind with
  | .human => edges = stage.choices.map (Definition.choiceEdge stage)
  | .decision => Expands stage.id (stage.routes.map Route.exit) edges
  | .llm | .tool | .exit => edges = []

theorem Stage.ownEdges_of_stageEdges {stage : Stage} {edges : List Graph.Edge}
    (h : Definition.stageEdges stage = .ok edges) : stage.OwnEdges edges := by
  unfold Definition.stageEdges at h
  unfold OwnEdges
  cases hKind : stage.kind with
  | decision =>
    rw [hKind] at h
    exact expands_of_exitEdges_eq_ok h
  | human | llm | tool | exit =>
    rw [hKind] at h
    exact (Except.ok.inj h).symm

theorem Stage.OwnEdges.source_eq {stage : Stage} {edges : List Graph.Edge}
    (h : stage.OwnEdges edges) : ∀ edge ∈ edges, edge.source = stage.id := by
  unfold OwnEdges at h
  split at h
  · subst h
    simp [Definition.choiceEdge]
  · exact fun edge hEdge => (h.ends edge hEdge).1
  all_goals
    subst h
    simp

namespace Definition

/-- The transitions that leave a stage, in order. -/
def exitsFrom (d : Definition) (source : String) : List Exit :=
  (d.transitions.filter (·.source == source)).map Transition.exit

/-- All edges that leave a stage. -/
def LeavingEdges (d : Definition) (stage : Stage) (edges : List Graph.Edge) : Prop :=
  match stage.kind with
  | .human => edges = stage.choices.map (choiceEdge stage)
  | .decision => Expands stage.id (stage.routes.map Route.exit) edges
  | .llm | .tool | .exit => Expands stage.id (d.exitsFrom stage.id) edges

def entryEdge (d : Definition) : Graph.Edge :=
  ⟨Graph.startId, d.start, Table.ofList [("condition", .str "")]⟩

/-- The edges of a graph in parts: those of the transitions of each source in order of first
appearance, and those that each stage declares. -/
structure EdgeParts (d : Definition) (g : Graph) (between own : List (List Graph.Edge)) :
    Prop where
  transitions : List.Forall₂ (fun source => Expands source (d.exitsFrom source))
    (d.transitions.map (·.source)).eraseDups between
  stages : List.Forall₂ Stage.OwnEdges d.stages own
  edges : g.edges = d.entryEdge :: (between.flatten ++ own.flatten)

variable {d : Definition} {g : Graph} {between own : List (List Graph.Edge)}

theorem exists_edgeParts (h : d.toGraph = .ok g) :
    ∃ between own, d.EdgeParts g between own := by
  obtain ⟨transitions, hTransitions, h⟩ := Except.bind_eq_ok_iff.mp (edges_of_toGraph h)
  obtain ⟨own, hOwn, h⟩ := Except.bind_eq_ok_iff.mp h
  obtain ⟨between, hBetween, hFlat⟩ := Except.bind_eq_ok_iff.mp hTransitions
  obtain rfl : between.flatten = transitions := Except.ok.inj hFlat
  rw [distinct_eq_eraseDups] at hBetween
  refine ⟨between, own, ?_, ?_, (Except.ok.inj h).symm⟩
  · exact (Except.mapM_eq_ok_iff_forall₂.mp hBetween).imp fun _ _ hPart =>
      expands_of_exitEdges_eq_ok hPart
  · exact (Except.mapM_eq_ok_iff_forall₂.mp hOwn).imp fun _ _ hPart =>
      Stage.ownEdges_of_stageEdges hPart

theorem exists_transition_of_mem_exitsFrom {source : String} {exit : Exit}
    (h : exit ∈ d.exitsFrom source) :
    ∃ t ∈ d.transitions, t.source = source ∧ exit.target = t.target := by
  obtain ⟨t, hMem, rfl⟩ := List.mem_map.mp h
  obtain ⟨ht, hSource⟩ := List.mem_filter.mp hMem
  exact ⟨t, ht, by simpa using hSource, rfl⟩

/-- Apart from the entry, an edge of the graph leads from a declared stage to a declared stage. -/
theorem EdgeParts.ends_mem (h : d.EdgeParts g between own) (hLinked : d.IsLinked) :
    ∀ edge ∈ between.flatten ++ own.flatten,
      edge.source ∈ d.stageIds ∧ edge.target ∈ d.stageIds := by
  intro edge hEdge
  obtain hEdge | hEdge := List.mem_append.mp hEdge
  · obtain ⟨part, hPart, hMem⟩ := List.mem_flatten.mp hEdge
    obtain ⟨source, hSource, hExpands⟩ := Except.exists_of_mem_of_forall₂ h.transitions part hPart
    obtain ⟨hFrom, exit, hExit, hTo⟩ := hExpands.ends edge hMem
    obtain ⟨t, ht, hFirst, hTarget⟩ := exists_transition_of_mem_exitsFrom hExit
    rw [hFrom, hTo, hTarget, ← hFirst]
    exact ⟨hLinked.source t ht, hLinked.target t ht⟩
  · obtain ⟨part, hPart, hMem⟩ := List.mem_flatten.mp hEdge
    obtain ⟨stage, hStage, hOwn⟩ := Except.exists_of_mem_of_forall₂ h.stages part hPart
    refine ⟨hOwn.source_eq edge hMem ▸ id_mem_stageIds hStage, ?_⟩
    unfold Stage.OwnEdges at hOwn
    split at hOwn
    · subst hOwn
      obtain ⟨choice, hChoice, rfl⟩ := List.mem_map.mp hMem
      exact hLinked.choice stage hStage choice hChoice
    · obtain ⟨-, exit, hExit, hTo⟩ := hOwn.ends edge hMem
      obtain ⟨route, hRoute, rfl⟩ := List.mem_map.mp hExit
      rw [hTo]
      exact hLinked.route stage hStage route hRoute
    all_goals
      subst hOwn
      cases hMem

/-- What the transitions contribute to the edges that leave a node. -/
theorem EdgeParts.expands_filter (h : d.EdgeParts g between own) (id : String) :
    Expands id (d.exitsFrom id) (between.flatten.filter (·.source == id)) := by
  have hSource : ∀ source part, Expands source (d.exitsFrom source) part →
      ∀ edge ∈ part, edge.source = source := fun _ _ hPart edge hEdge => (hPart.ends edge hEdge).1
  by_cases hId : id ∈ (d.transitions.map (·.source)).eraseDups
  · refine filter_flatten_eq_part h.transitions hSource ?_ id hId
    rw [List.map_id']
    exact nodup_eraseDups _
  · have hNone : d.exitsFrom id = [] := by
      rw [List.eq_nil_iff_forall_not_mem]
      intro exit hExit
      obtain ⟨t, ht, hEq, -⟩ := exists_transition_of_mem_exitsFrom hExit
      exact hId (List.mem_eraseDups.mpr (hEq ▸ List.mem_map_of_mem ht))
    rw [hNone, filter_flatten_eq_nil h.transitions hSource (by rwa [List.map_id'])]
    exact expands_nil id

theorem EdgeParts.ownEdges_filter (h : d.EdgeParts g between own) (hNodup : d.stageIds.Nodup)
    {stage : Stage} (hStage : stage ∈ d.stages) :
    stage.OwnEdges (own.flatten.filter (·.source == stage.id)) :=
  filter_flatten_eq_part h.stages (fun _ _ hPart => hPart.source_eq) hNodup stage hStage

/-- No transition leaves a stage that has its own ways out. -/
theorem IsLinked.exitsFrom_eq_nil (h : d.IsLinked) {stage : Stage} (hStage : stage ∈ d.stages)
    (hOwn : stage.routesItself = true) : d.exitsFrom stage.id = [] := by
  rw [List.eq_nil_iff_forall_not_mem]
  intro exit hExit
  obtain ⟨t, ht, hSource, -⟩ := exists_transition_of_mem_exitsFrom hExit
  have hNot := h.leaves t ht stage hStage hSource.symm
  rw [hOwn] at hNot
  cases hNot

theorem EdgeParts.leavingEdges (h : d.EdgeParts g between own) (hLinked : d.IsLinked)
    {stage : Stage} (hStage : stage ∈ d.stages) (hId : stage.id ≠ Graph.startId) :
    d.LeavingEdges stage (g.edgesFrom stage.id) := by
  have hEntry : (d.entryEdge.source == stage.id) = false := beq_false_of_ne hId.symm
  have hFrom : g.edgesFrom stage.id = between.flatten.filter (·.source == stage.id) ++
      own.flatten.filter (·.source == stage.id) := by
    rw [Graph.edgesFrom, h.edges, List.filter_cons, hEntry, List.filter_append]
    rfl
  have hTransitions := h.expands_filter stage.id
  have hOwn := h.ownEdges_filter hLinked.nodup hStage
  rw [hFrom]
  unfold Stage.OwnEdges at hOwn
  unfold LeavingEdges
  cases hKind : stage.kind with
  | human | decision =>
    rw [hKind] at hOwn
    rw [hLinked.exitsFrom_eq_nil hStage (by simp [Stage.routesItself, hKind])] at hTransitions
    rw [hTransitions.eq_nil, List.nil_append]
    exact hOwn
  | llm | tool | exit =>
    rw [hKind] at hOwn
    rw [hOwn, List.append_nil]
    exact hTransitions

/-- Lowering loses, repeats and reorders no way out of a stage. -/
theorem routing_toGraph (h : d.toGraph = .ok g) :
    (∃ between own, d.EdgeParts g between own) ∧
    (∀ edge ∈ g.edges, edge.source ∈ g.ids ∧ edge.target ∈ g.ids) ∧
    ∀ stage ∈ d.stages, stage.id ≠ Graph.startId →
      d.LeavingEdges stage (g.edgesFrom stage.id) := by
  obtain ⟨between, own, hParts⟩ := exists_edgeParts h
  have hLinked := (isAccepted_of_toGraph h).isLinked
  have hIds : ∀ {id}, id ∈ g.ids ↔ id = Graph.startId ∨ id ∈ d.stageIds := by
    intro id
    rw [Graph.ids, nodes_of_toGraph h]
    exact mem_keys_nodes
  refine ⟨⟨between, own, hParts⟩, ?_, fun stage => hParts.leavingEdges hLinked⟩
  intro edge hEdge
  rw [hParts.edges] at hEdge
  rw [hIds, hIds]
  obtain rfl | hEdge := List.mem_cons.mp hEdge
  · exact ⟨Or.inl rfl, Or.inr hLinked.start⟩
  · obtain ⟨hSource, hTarget⟩ := hParts.ends_mem hLinked edge hEdge
    exact ⟨Or.inr hSource, Or.inr hTarget⟩

theorem routing_toGraph_at_interleaved :
    ∃ d g, toGraph d = .ok g ∧
      g.edges = [⟨"__start__", "a", Table.ofList [("condition", .str "")]⟩,
        ⟨"a", "b", Table.ofList [("condition", .str "context.a.status=ok"), ("weight", .int 2)]⟩,
        ⟨"a", "h", Table.ofList [("condition", .str ""), ("weight", .int 1)]⟩,
        ⟨"b", "x", Table.ofList [("condition", .str ""), ("weight", .int 1)]⟩,
        ⟨"h", "a", Table.ofList [("condition", .str "preferred_label=y"), ("label", .str "Yes")]⟩,
        ⟨"h", "z", Table.ofList [("condition", .str "preferred_label=n"), ("label", .str "No")]⟩,
        ⟨"x", "z", Table.ofList [("condition", .str "context.a.status=ok"),
          ("weight", .int 2000003)]⟩,
        ⟨"x", "z", Table.ofList [("condition", .str "context.a.log!="), ("weight", .int 2000003)]⟩,
        ⟨"x", "b", Table.ofList [("condition", .str ""), ("weight", .int 1)]⟩] ∧
      (∃ between own, d.EdgeParts g between own) ∧
      ∀ stage ∈ d.stages, stage.id ≠ Graph.startId →
        d.LeavingEdges stage (g.edgesFrom stage.id) := by
  obtain ⟨d, hd⟩ : ∃ d : Definition, d =
      { name := "w"
        start := "a"
        stages := [
          { id := "a", kind := .tool, attrs := Table.ofList [("command", .str "make")] },
          { id := "h", kind := .human, choices := [⟨"y", "Yes", "a"⟩, ⟨"n", "No", "z"⟩] },
          { id := "b", kind := .tool, attrs := Table.ofList [("command", .str "test")] },
          { id := "x", kind := .decision, routes := [
            ⟨"outcome(\"a\") == \"ok\" || exists(\"a.log\")", "z", .int 2⟩, ⟨"false", "a", .none⟩,
            ⟨"true", "b", .none⟩] },
          { id := "z", kind := .exit }]
        transitions := [⟨"a", "b", some "outcome(\"a\") == \"ok\"", .none⟩,
          ⟨"b", "x", none, .none⟩, ⟨"a", "h", some " ", .none⟩] } := ⟨_, rfl⟩
  have hReachable : d.reachable = ["z", "x", "h", "b", "a"] := by
    simp [hd, reachable, visit, leadsTo, stage?, targets, stageIds]
  have hValidate : d.validate = [] := by
    rw [validate, checkReachable, hReachable, hd]
    decide +kernel
  have hAccepted := isAccepted_of_validate_eq_nil hValidate
  have hRun : ∀ edges, d.edges = .ok edges → ∃ g, d.toGraph = .ok g ∧ g.edges = edges ∧
      (∃ between own, d.EdgeParts g between own) ∧
      ∀ stage ∈ d.stages, stage.id ≠ Graph.startId →
        d.LeavingEdges stage (g.edgesFrom stage.id) := by
    intro edges hEdges
    have hGraph := toGraph_eq_ok hAccepted hEdges
    obtain ⟨hParts, -, hLeaving⟩ := routing_toGraph hGraph
    exact ⟨_, hGraph, rfl, hParts, hLeaving⟩
  exact ⟨d, hRun _ (by rw [hd]; decide +kernel)⟩

end Definition

end Workflow
