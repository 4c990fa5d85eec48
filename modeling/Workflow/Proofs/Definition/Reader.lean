import Workflow.Definition.Reader
import Workflow.Proofs.Except

/-!
# What reading a definition guarantees

Priorities are read as integers or left out, on transitions and on the routes of stages.
-/

namespace Workflow

open Workflow.Source

/-- The priorities that a source can give. -/
def Value.IsPriority (v : Value) : Prop :=
  v = .none ∨ ∃ n, v = .int n

theorem Source.Node.isPriority_of_integerProperty {node : Node} {stage key : String} {v : Value}
    (h : node.integerProperty stage key = .ok v) : v.IsPriority := by
  unfold integerProperty at h
  split at h
  · cases h
    exact Or.inl rfl
  · cases h
    exact Or.inr ⟨_, rfl⟩
  · cases h

theorem Route.isPriority_of_ofNode {stage : String} {node : Node} {route : Route}
    (h : Route.ofNode stage node = .ok route) : route.priority.IsPriority := by
  simp only [Route.ofNode, Except.bind_eq_ok_iff, Except.ok.injEq] at h
  obtain ⟨condition, -, target, -, priority, hPriority, rfl⟩ := h
  exact Node.isPriority_of_integerProperty hPriority

theorem Transition.isPriority_of_ofNode {node : Node} {t : Transition}
    (h : Transition.ofNode node = .ok t) : t.priority.IsPriority := by
  simp only [Transition.ofNode, Except.bind_eq_ok_iff, Except.ok.injEq] at h
  obtain ⟨source, -, target, -, condition, -, priority, hPriority, rfl⟩ := h
  exact Node.isPriority_of_integerProperty hPriority

namespace Stage

def HasPriorities (stage : Stage) : Prop :=
  ∀ route ∈ stage.routes, route.priority.IsPriority

/-- What reading a child of a stage can change. -/
theorem addChild_cases {stage stage' : Stage} {node : Node} (h : stage.addChild node = .ok stage') :
    (∃ prompt, stage' = { stage with attrs := stage.attrs.insert "prompt" (.str prompt) }) ∨
    (∃ choice, stage.kind = .human ∧ Choice.ofNode stage.id node = .ok choice ∧
      stage' = { stage with choices := stage.choices ++ [choice] }) ∨
    (∃ route, stage.kind = .decision ∧ Route.ofNode stage.id node = .ok route ∧
      stage' = { stage with routes := stage.routes ++ [route] }) ∨
    ∃ retry, Retry.ofNode stage.id node = .ok retry ∧
      stage' = { stage with retry := some retry } := by
  unfold addChild at h
  split at h
  · split at h
    · cases h
    · obtain ⟨prompt, -, hEq⟩ := Except.bind_eq_ok_iff.mp h
      cases hEq
      exact Or.inl ⟨prompt, rfl⟩
  · split at h
    · cases h
    · rename_i hKind
      obtain ⟨choice, hChoice, hEq⟩ := Except.bind_eq_ok_iff.mp h
      cases hEq
      exact Or.inr (Or.inl ⟨choice, not_not.mp hKind, hChoice, rfl⟩)
  · split at h
    · cases h
    · rename_i hKind
      obtain ⟨route, hRoute, hEq⟩ := Except.bind_eq_ok_iff.mp h
      cases hEq
      exact Or.inr (Or.inr (Or.inl ⟨route, not_not.mp hKind, hRoute, rfl⟩))
  · split at h
    · cases h
    · obtain ⟨retry, hRetry, hEq⟩ := Except.bind_eq_ok_iff.mp h
      cases hEq
      exact Or.inr (Or.inr (Or.inr ⟨retry, hRetry, rfl⟩))
  · cases h

theorem hasPriorities_addChild {stage stage' : Stage} {node : Node} (hStage : stage.HasPriorities)
    (h : stage.addChild node = .ok stage') : stage'.HasPriorities := by
  obtain ⟨prompt, rfl⟩ | ⟨choice, -, -, rfl⟩ | ⟨route, -, hRoute, rfl⟩ | ⟨retry, -, rfl⟩ :=
    addChild_cases h
  · exact hStage
  · exact hStage
  · intro r hr
    obtain hOld | hNew := List.mem_append.mp hr
    · exact hStage r hOld
    · rw [List.mem_singleton.mp hNew]
      exact Route.isPriority_of_ofNode hRoute
  · exact hStage

theorem hasPriorities_ofNode {node : Node} {stage : Stage} (h : Stage.ofNode node = .ok stage) :
    stage.HasPriorities := by
  simp only [Stage.ofNode, Except.bind_eq_ok_iff, Except.ok.injEq] at h
  obtain ⟨id, -, kind, -, stage, hFold, -, -, -, -, rfl⟩ := h
  exact Except.foldlM_preserves (fun _ _ => hasPriorities_addChild) (by simp [HasPriorities]) hFold

end Stage

namespace Definition

def HasPriorities (d : Definition) : Prop :=
  (∀ stage ∈ d.stages, stage.HasPriorities) ∧ ∀ t ∈ d.transitions, t.priority.IsPriority

/-- A stage that is read has a new id. -/
theorem addStage_eq_ok {stages stages' : List Stage} {node : Node}
    (h : addStage stages node = .ok stages') :
    ∃ stage, Stage.ofNode node = .ok stage ∧ (∀ other ∈ stages, other.id ≠ stage.id) ∧
      stages' = stages ++ [stage] := by
  obtain ⟨stage, hStage, h⟩ := Except.bind_eq_ok_iff.mp h
  split at h
  · cases h
  · rename_i hNew
    cases h
    exact ⟨stage, hStage, by simpa using hNew, rfl⟩

theorem hasPriorities_addStage {stages stages' : List Stage} {node : Node}
    (hStages : ∀ stage ∈ stages, stage.HasPriorities) (h : addStage stages node = .ok stages') :
    ∀ stage ∈ stages', stage.HasPriorities := by
  obtain ⟨stage, hStage, -, rfl⟩ := addStage_eq_ok h
  intro s hs
  obtain hOld | hNew := List.mem_append.mp hs
  · exact hStages s hOld
  · rw [List.mem_singleton.mp hNew]
    exact Stage.hasPriorities_ofNode hStage

theorem of_single? {name : String} {nodes : List Node} {node : Node}
    (h : Node.single? name nodes = .ok (some node)) : node ∈ nodes ∧ node.name = name := by
  have hMem : node ∈ nodes.filter (·.name == name) := by
    unfold Node.single? at h
    split at h
    · cases h
    · next only hFilter =>
      cases h
      exact hFilter ▸ List.mem_singleton_self _
    · cases h
  simpa using List.mem_filter.mp hMem

theorem rootOf_eq_ok_iff {nodes : List Node} {root : Node} :
    rootOf nodes = .ok root ↔ nodes = [root] ∧ root.name = "workflow" := by
  constructor
  · intro h
    unfold rootOf at h
    split at h
    · cases h
    · split at h
      · next hName =>
        cases h
        exact ⟨rfl, hName⟩
      · cases h
    · cases h
  · rintro ⟨rfl, hName⟩
    exact if_pos hName

theorem eq_singleton_of_rootOf {nodes : List Node} {root : Node} (h : rootOf nodes = .ok root) :
    nodes = [root] :=
  (rootOf_eq_ok_iff.mp h).1

/-- The version that a definition is given or has by default. -/
def VersionOf (nodes : List Node) (version : Value) : Prop :=
  version = .int 2 ∨ ∃ node ∈ nodes, node.integerArgument "" "workflow version" = .ok version

theorem parts_of_ofNodes {nodes : List Node} {d : Definition} (h : ofNodes nodes = .ok d) :
    ∃ root ∈ nodes, VersionOf root.children d.version ∧
      (root.children.filter (·.name == "stage")).foldlM addStage [] = .ok d.stages ∧
      d.start ∈ d.stageIds ∧
      (root.children.filter (·.name == "transition")).mapM Transition.ofNode = .ok d.transitions := by
  unfold ofNodes at h
  obtain ⟨root, hRoot, h⟩ := Except.bind_eq_ok_iff.mp h
  have hOnly : root ∈ nodes := eq_singleton_of_rootOf hRoot ▸ List.mem_singleton_self root
  obtain ⟨name, -, h⟩ := Except.bind_eq_ok_iff.mp h
  obtain ⟨_, -, h⟩ := Except.bind_eq_ok_iff.mp h
  obtain ⟨startNode?, -, h⟩ := Except.bind_eq_ok_iff.mp h
  split at h
  · simp only [Except.bind_eq_ok_iff] at h
    obtain ⟨start, -, versionNode, hVersion, goalNode, -, descriptionNode, -, stylesheetNode, -,
      modelsNode, -, stages, hStages, h⟩ := h
    split at h
    · obtain ⟨_, hRefused, -⟩ := Except.bind_eq_ok_iff.mp h
      cases hRefused
    · rename_i hStart
      have hDeclared : start ∈ stages.map (·.id) := by simpa using hStart
      obtain ⟨transitions, hTransitions, h⟩ := Except.bind_eq_ok_iff.mp h
      -- the version has a default, and each of its two cases goes on with the other directives
      split at h
      · simp only [Except.bind_eq_ok_iff, Except.ok.injEq] at h
        obtain ⟨version, hNumber, goal, -, description, -, models, -, stylesheet, -, rfl⟩ := h
        exact ⟨root, hOnly, Or.inr ⟨_, (of_single? hVersion).1, hNumber⟩, hStages, hDeclared,
          hTransitions⟩
      · simp only [Except.bind_eq_ok_iff, Except.ok.injEq] at h
        obtain ⟨version, rfl, goal, -, description, -, models, -, stylesheet, -, rfl⟩ := h
        exact ⟨root, hOnly, Or.inl rfl, hStages, hDeclared, hTransitions⟩
  · cases h

theorem hasPriorities_ofNodes {nodes : List Node} {d : Definition} (h : ofNodes nodes = .ok d) :
    d.HasPriorities := by
  obtain ⟨root, -, -, hStages, -, hTransitions⟩ := parts_of_ofNodes h
  constructor
  · exact Except.foldlM_preserves (fun _ _ => hasPriorities_addStage) (by simp) hStages
  · intro t ht
    obtain ⟨node, -, hNode⟩ := Except.exists_of_mem_of_mapM_eq_ok hTransitions t ht
    exact Transition.isPriority_of_ofNode hNode

theorem hasPriorities_parse {source : String} {d : Definition} (h : parse source = .ok d) :
    d.HasPriorities := by
  simp only [parse, Except.bind_eq_ok_iff, Except.mapError_eq_ok_iff] at h
  obtain ⟨tokens, -, nodes, -, hNodes⟩ := h
  exact hasPriorities_ofNodes hNodes

end Definition

end Workflow
