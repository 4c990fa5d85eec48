import Mathlib.Logic.Relation
import Workflow.Proofs.Validation.Topic

/-!
# The search for reachable stages

`visit` gives the names that a queue leads to through declared names, whatever the order in which it
takes them. The reachable stages of a definition are those that its start leads to, and the two
warnings about reachability follow from them.
-/

namespace Workflow

/-- One declared name leads to another. -/
def Leads (names : List String) (step : String → List String) (source target : String) : Prop :=
  target ∈ names ∧ target ∈ step source

section Visit

variable {names : List String} {step : String → List String} {seen queue : List String}

theorem exists_of_mem_visit {name : String} (h : name ∈ visit names step seen queue) :
    name ∈ seen ∨
      ∃ first ∈ queue, first ∈ names ∧ Relation.ReflTransGen (Leads names step) first name := by
  fun_induction visit names step seen queue with
  | case1 => exact Or.inl h
  | case2 seen first queue hNew ih =>
    obtain hSeen | ⟨next, hNext, hDeclared, hReach⟩ := ih h
    · obtain rfl | hSeen := List.mem_cons.mp hSeen
      · exact Or.inr ⟨name, List.mem_cons_self, hNew.1, .refl⟩
      · exact Or.inl hSeen
    · obtain hQueue | hStep := List.mem_append.mp hNext
      · exact Or.inr ⟨next, List.mem_cons_of_mem _ hQueue, hDeclared, hReach⟩
      · exact Or.inr ⟨first, List.mem_cons_self, hNew.1, .head ⟨hDeclared, hStep⟩ hReach⟩
  | case3 seen first queue _ ih =>
    obtain hSeen | ⟨next, hNext, hRest⟩ := ih h
    · exact Or.inl hSeen
    · exact Or.inr ⟨next, List.mem_cons_of_mem _ hNext, hRest⟩

/-- What has been seen leads only to what has been seen or waits in the queue. -/
def IsClosedUpTo (names : List String) (step : String → List String) (seen queue : List String) :
    Prop :=
  ∀ source ∈ seen, ∀ target, Leads names step source target → target ∈ seen ∨ target ∈ queue

theorem IsClosedUpTo.visit_next {first : String}
    (h : IsClosedUpTo names step seen (first :: queue)) :
    IsClosedUpTo names step (first :: seen) (queue ++ step first) := by
  intro source hSource target hLeads
  simp only [List.mem_cons, List.mem_append]
  obtain rfl | hSeen := List.mem_cons.mp hSource
  · exact Or.inr (Or.inr hLeads.2)
  · obtain hTarget | hTarget := h source hSeen target hLeads
    · exact Or.inl (Or.inr hTarget)
    · obtain rfl | hQueue := List.mem_cons.mp hTarget
      · exact Or.inl (Or.inl rfl)
      · exact Or.inr (Or.inl hQueue)

theorem IsClosedUpTo.visit_skip {first : String} (h : IsClosedUpTo names step seen (first :: queue))
    (hOld : ¬ (first ∈ names ∧ first ∉ seen)) : IsClosedUpTo names step seen queue := by
  intro source hSource target hLeads
  obtain hSeen | hTarget := h source hSource target hLeads
  · exact Or.inl hSeen
  · obtain rfl | hQueue := List.mem_cons.mp hTarget
    · exact Or.inl (Decidable.byContradiction fun hNew => hOld ⟨hLeads.1, hNew⟩)
    · exact Or.inr hQueue

/-- The search keeps what was seen, takes in the declared names of the queue, and ends with names
that lead nowhere else. -/
theorem IsClosedUpTo.visit (h : IsClosedUpTo names step seen queue) :
    (∀ name ∈ seen, name ∈ Workflow.visit names step seen queue) ∧
    (∀ name ∈ queue, name ∈ names → name ∈ Workflow.visit names step seen queue) ∧
    IsClosedUpTo names step (Workflow.visit names step seen queue) [] := by
  fun_induction Workflow.visit names step seen queue with
  | case1 => exact ⟨fun _ => id, nofun, h⟩
  | case2 seen first queue hNew ih =>
    obtain ⟨hSeen, hQueue, hClosed⟩ := ih h.visit_next
    refine ⟨fun name hName => hSeen name (List.mem_cons_of_mem _ hName), ?_, hClosed⟩
    rw [List.forall_mem_cons]
    exact ⟨fun _ => hSeen first List.mem_cons_self, fun name hName =>
      hQueue name (List.mem_append_left _ hName)⟩
  | case3 seen first queue hOld ih =>
    obtain ⟨hSeen, hQueue, hClosed⟩ := ih (h.visit_skip hOld)
    refine ⟨hSeen, ?_, hClosed⟩
    rw [List.forall_mem_cons]
    refine ⟨fun hDeclared => hSeen first ?_, hQueue⟩
    exact Decidable.byContradiction fun hNew => hOld ⟨hDeclared, hNew⟩

theorem mem_visit_iff {start name : String} :
    name ∈ visit names step [] [start] ↔
      start ∈ names ∧ Relation.ReflTransGen (Leads names step) start name := by
  constructor
  · intro h
    obtain hNone | ⟨first, hFirst, hDeclared, hReach⟩ := exists_of_mem_visit h
    · cases hNone
    · rw [List.mem_singleton.mp hFirst] at hDeclared hReach
      exact ⟨hDeclared, hReach⟩
  · rintro ⟨hDeclared, hReach⟩
    have hStart : IsClosedUpTo names step [] [start] := nofun
    obtain ⟨-, hQueue, hClosed⟩ := hStart.visit
    induction hReach with
    | refl => exact hQueue start (List.mem_singleton_self _) hDeclared
    | tail _ hLeads ih =>
      obtain hMem | hNone := hClosed _ ih _ hLeads
      · exact hMem
      · cases hNone

end Visit

namespace Definition

variable {d : Definition}

theorem mem_reachable_iff {id : String} : id ∈ d.reachable ↔
    d.start ∈ d.stageIds ∧ Relation.ReflTransGen (Leads d.stageIds d.leadsTo) d.start id :=
  mem_visit_iff

theorem mem_stageIds_of_reachable {id : String} (h : id ∈ d.reachable) : id ∈ d.stageIds := by
  obtain ⟨hStart, hReach⟩ := mem_reachable_iff.mp h
  cases hReach with
  | refl => exact hStart
  | tail _ hLeads => exact hLeads.1

theorem mem_findings_reachability {x : Diagnostic} : x ∈ d.findings .reachability ↔
    d.start ∈ d.stageIds ∧
      (x = .noReachableExit ∧ (∀ stage ∈ d.stages, stage.kind = .exit → stage.id ∉ d.reachable) ∨
        ∃ stage ∈ d.stages, stage.id ∉ d.reachable ∧ x = .unreachable stage.id) := by
  by_cases hStart : d.start ∈ d.stageIds
  · have hFindings : d.findings .reachability =
        (if d.stages.any fun s => s.kind = .exit && d.reachable.contains s.id then []
          else [.noReachableExit]) ++
        (d.stages.filter fun s => !d.reachable.contains s.id).map fun s => .unreachable s.id :=
      if_pos (by simpa using hStart)
    rw [hFindings, List.mem_append, List.mem_map, and_iff_right hStart]
    refine or_congr ?_ (exists_congr fun stage => ?_)
    · rw [List.mem_ite_nil_left, List.mem_singleton]
      simp [and_comm]
    · rw [List.mem_filter, and_assoc, @eq_comm _ x]
      simp
  · simp [findings, checkReachable, hStart]

theorem unreachable_mem_validate_iff {id : String} : .unreachable id ∈ d.validate ↔
    d.start ∈ d.stageIds ∧ id ∈ d.stageIds ∧ id ∉ d.reachable := by
  rw [mem_validate_iff, Diagnostic.topic, mem_findings_reachability]
  refine and_congr_right fun _ => ?_
  constructor
  · rintro (⟨⟨⟩, -⟩ | ⟨stage, hStage, hOut, ⟨⟩⟩)
    exact ⟨List.mem_map_of_mem hStage, hOut⟩
  · rintro ⟨hDeclared, hOut⟩
    obtain ⟨stage, hStage, rfl⟩ := List.mem_map.mp hDeclared
    exact Or.inr ⟨stage, hStage, hOut, rfl⟩

theorem noReachableExit_mem_validate_iff : .noReachableExit ∈ d.validate ↔
    d.start ∈ d.stageIds ∧ ∀ stage ∈ d.stages, stage.kind = .exit → stage.id ∉ d.reachable := by
  rw [mem_validate_iff, Diagnostic.topic, mem_findings_reachability]
  refine and_congr_right fun _ => ?_
  constructor
  · rintro (⟨-, hNone⟩ | ⟨_, -, -, ⟨⟩⟩)
    exact hNone
  · exact fun hNone => Or.inl ⟨rfl, hNone⟩

end Definition

end Workflow
