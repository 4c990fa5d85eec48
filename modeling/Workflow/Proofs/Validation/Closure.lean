import Mathlib.Logic.Function.Iterate
import Mathlib.Data.Set.Insert
import Mathlib.Order.Bounds.Defs
import Workflow.Proofs.Validation.Reachable

/-!
# The least closed set of stages

Turn after turn the search takes one name from its queue, and after finitely many turns the queue is
empty. What has been seen by then is the least set of declared ids that holds the start and, with
every id, the declared targets of the first stage of that id. Validation warns of every stage
outside this set, and of a set without an exit.
-/

namespace Workflow

/-- One turn of the search: the first name of the queue is seen if it is declared and new, and then
what it leads to has to wait at the end. -/
def visitTurn (names : List String) (step : String → List String) :
    List String × List String → List String × List String
  | (seen, []) => (seen, [])
  | (seen, name :: queue) =>
    if name ∈ names ∧ name ∉ seen then (name :: seen, queue ++ step name) else (seen, queue)

theorem exists_iterate_visitTurn (names : List String) (step : String → List String)
    (seen queue : List String) :
    ∃ turns, (visitTurn names step)^[turns] (seen, queue) = (visit names step seen queue, []) := by
  fun_induction visit names step seen queue with
  | case1 seen => exact ⟨0, rfl⟩
  | case2 seen name queue hNew ih =>
    obtain ⟨turns, hTurns⟩ := ih
    exact ⟨turns + 1, by rw [Function.iterate_succ_apply, visitTurn, if_pos hNew, hTurns]⟩
  | case3 seen name queue hOld ih =>
    obtain ⟨turns, hTurns⟩ := ih
    exact ⟨turns + 1, by rw [Function.iterate_succ_apply, visitTurn, if_neg hOld, hTurns]⟩

namespace Definition

variable {d : Definition} {stage : Stage} {target : String}

/-- A stage can be left for a target: by its choices, by its routes, or by transitions. -/
inductive Leaves (d : Definition) (stage : Stage) : String → Prop where
  | choice {choice : Choice} (kind : stage.kind = .human) (mem : choice ∈ stage.choices) :
    Leaves d stage choice.target
  | route {route : Route} (kind : stage.kind = .decision) (mem : route ∈ stage.routes) :
    Leaves d stage route.target
  | transition {t : Transition} (other : stage.kind ≠ .human ∧ stage.kind ≠ .decision)
    (mem : t ∈ d.transitions) (source : t.source = stage.id) : Leaves d stage t.target

theorem leaves_iff_mem_targets : d.Leaves stage target ↔ target ∈ d.targets stage := by
  unfold targets
  constructor
  · rintro (⟨hKind, hMem⟩ | ⟨hKind, hMem⟩ | ⟨⟨hHuman, hDecision⟩, hMem, hSource⟩)
    · rw [hKind]
      exact List.mem_map_of_mem hMem
    · rw [hKind]
      exact List.mem_map_of_mem hMem
    · split
      · next hKind => exact absurd hKind hHuman
      · next hKind => exact absurd hKind hDecision
      · exact List.mem_map_of_mem (List.mem_filter.mpr ⟨hMem, by rw [hSource, beq_self_eq_true]⟩)
  · intro h
    split at h
    · next hKind =>
      obtain ⟨choice, hMem, rfl⟩ := List.mem_map.mp h
      exact .choice hKind hMem
    · next hKind =>
      obtain ⟨route, hMem, rfl⟩ := List.mem_map.mp h
      exact .route hKind hMem
    · next hHuman hDecision =>
      obtain ⟨t, hMem, rfl⟩ := List.mem_map.mp h
      obtain ⟨hMem, hSource⟩ := List.mem_filter.mp hMem
      exact .transition ⟨hHuman, hDecision⟩ hMem (beq_iff_eq.mp hSource)

theorem mem_leadsTo_iff {id : String} :
    target ∈ d.leadsTo id ↔ ∃ stage, d.stage? id = some stage ∧ d.Leaves stage target := by
  unfold leadsTo
  split
  · next stage hStage => simp [hStage, leaves_iff_mem_targets]
  · next hNone => simp [hNone]

/-- A set of declared ids with the start, which no first stage of an id leaves for a declared
target. -/
structure IsClosed (d : Definition) (ids : Set String) : Prop where
  declared : ∀ id ∈ ids, id ∈ d.stageIds
  start : d.start ∈ ids
  closed : ∀ id ∈ ids, ∀ stage, d.stage? id = some stage →
    ∀ target, d.Leaves stage target → target ∈ d.stageIds → target ∈ ids

theorem isLeast_reachable (h : d.start ∈ d.stageIds) :
    IsLeast {ids | d.IsClosed ids} {id | id ∈ d.reachable} := by
  constructor
  · refine ⟨fun id => mem_stageIds_of_reachable, mem_reachable_iff.mpr ⟨h, .refl⟩, ?_⟩
    intro id hId stage hStage target hLeaves hTarget
    obtain ⟨-, hReach⟩ := mem_reachable_iff.mp hId
    exact mem_reachable_iff.mpr
      ⟨h, hReach.tail ⟨hTarget, mem_leadsTo_iff.mpr ⟨stage, hStage, hLeaves⟩⟩⟩
  · intro ids hIds id hId
    obtain ⟨-, hReach⟩ := mem_reachable_iff.mp hId
    induction hReach with
    | refl => exact hIds.start
    | tail hReach hLeads ih =>
      obtain ⟨hTarget, hStep⟩ := hLeads
      obtain ⟨stage, hStage, hLeaves⟩ := mem_leadsTo_iff.mp hStep
      exact hIds.closed _ (ih (mem_reachable_iff.mpr ⟨h, hReach⟩)) stage hStage _ hLeaves hTarget

theorem topic_eq_reachability {x : Diagnostic}
    (h : x.rule = "reachability" ∨ x.rule = "reachable_exit") : x.topic = .reachability := by
  cases x with
  | noReachableExit | unreachable => rfl
  | _ => simp [Diagnostic.rule, Diagnostic.ruleAndSeverity] at h

theorem filter_rule_validate {rule : String} (h : rule = "reachability" ∨ rule = "reachable_exit") :
    d.validate.filter (·.rule = rule) =
      (d.findings .reachability).filter (·.rule = rule) := by
  rw [← filter_validate, List.filter_filter]
  refine List.filter_congr fun x _ => ?_
  by_cases hRule : x.rule = rule
  · simp [hRule, topic_eq_reachability (hRule ▸ h)]
  · simp [hRule]

theorem findings_reachability (h : d.start ∈ d.stageIds) :
    d.findings .reachability =
      (if ∃ stage ∈ d.stages, stage.kind = .exit ∧ stage.id ∈ d.reachable then []
        else [.noReachableExit]) ++
      (d.stages.filter (·.id ∉ d.reachable)).map fun stage => .unreachable stage.id := by
  simp [findings, checkReachable, h]

/-- The search ends with the least closed set of ids, and the warnings about reachability are those
about the stages outside it. -/
theorem reachability_of_least_closed (h : d.start ∈ d.stageIds) :
    (∃ turns, (visitTurn d.stageIds d.leadsTo)^[turns] ([], [d.start]) = (d.reachable, [])) ∧
    IsLeast {ids | d.IsClosed ids} {id | id ∈ d.reachable} ∧
    d.validate.filter (·.rule = "reachability") =
      (d.stages.filter (·.id ∉ d.reachable)).map (fun stage => .unreachable stage.id) ∧
    d.validate.filter (·.rule = "reachable_exit") =
      if ∃ stage ∈ d.stages, stage.kind = .exit ∧ stage.id ∈ d.reachable then []
      else [.noReachableExit] := by
  have hExit : Diagnostic.noReachableExit.rule = "reachable_exit" := rfl
  have hStage (id : String) : (Diagnostic.unreachable id).rule = "reachability" := rfl
  refine ⟨exists_iterate_visitTurn _ _ _ _, isLeast_reachable h, ?_, ?_⟩
  · rw [filter_rule_validate (Or.inl rfl), findings_reachability h, List.filter_append]
    split <;> simp [List.filter_map, Function.comp_def, hExit, hStage]
  · rw [filter_rule_validate (Or.inr rfl), findings_reachability h, List.filter_append]
    split <;> simp [List.filter_map, Function.comp_def, hExit, hStage]

/-- A cycle, a repeated transition, an undeclared target and a stage with an earlier one's id. -/
theorem reachability_of_least_closed_at_cycle :
    ∃ d : Definition, d.start ∈ d.stageIds ∧ d.stageIds = ["a", "b", "c", "b"] ∧
      IsLeast {ids | d.IsClosed ids} {"a", "b"} ∧
      d.validate.filter (·.rule = "reachability") = [.unreachable "c"] ∧
      d.validate.filter (·.rule = "reachable_exit") = [.noReachableExit] := by
  obtain ⟨d, hd⟩ : ∃ d : Definition, d =
      { name := "w", start := "a", stages := [
          { id := "a", kind := .llm },
          { id := "b", kind := .decision, routes := [⟨"true", "x", .none⟩, ⟨"true", "a", .none⟩] },
          { id := "c", kind := .exit }, { id := "b", kind := .llm }],
        transitions := [⟨"a", "b", none, .none⟩, ⟨"a", "b", none, .none⟩,
          ⟨"b", "c", none, .none⟩] } := ⟨_, rfl⟩
  have hReachable : d.reachable = ["b", "a"] := by
    simp [hd, reachable, visit, leadsTo, stage?, targets, stageIds]
  have hStart : d.start ∈ d.stageIds := by
    rw [hd]
    decide
  have hIds : {id | id ∈ d.reachable} = ({"a", "b"} : Set String) := by
    ext id
    rw [Set.mem_ofPred_eq, hReachable, Set.mem_insert_iff, Set.mem_singleton_iff, or_comm]
    simp
  obtain ⟨-, hLeast, hStages, hExits⟩ := reachability_of_least_closed hStart
  rw [hReachable] at hStages hExits
  refine ⟨d, hStart, by rw [hd]; rfl, hIds ▸ hLeast, hStages.trans ?_, hExits.trans ?_⟩
  all_goals
    rw [hd]
    decide

end Definition

end Workflow
