import Mathlib.Data.List.Perm.Basic
import Workflow.Proofs.Definition.Linked
import Workflow.Proofs.Validation.Reachable

/-!
# The order of declarations

Validation looks stages up by their ids and searches from the start, so it depends on declarations as
sets. Where ids are distinct, another order of stages and transitions only gives the diagnostics
another order. Where an id is repeated the first stage stands for it, and the order matters.
-/

namespace Workflow

namespace Definition

/-- Two definitions that differ only in the order of their stages and of their transitions. -/
structure Reordered (d d' : Definition) : Prop where
  stages : d.stages.Perm d'.stages
  transitions : d.transitions.Perm d'.transitions
  rest : d' = { d with stages := d'.stages, transitions := d'.transitions }

namespace Reordered

variable {d d' : Definition} (h : d.Reordered d')

include h

theorem start_eq : d'.start = d.start := by rw [h.rest]

theorem version_eq : d'.version = d.version := by rw [h.rest]

theorem models_eq : d'.models = d.models := by rw [h.rest]

theorem stageIds : d.stageIds.Perm d'.stageIds := h.stages.map Stage.id

theorem contains_stageIds (id : String) : d'.stageIds.contains id = d.stageIds.contains id :=
  (h.stageIds.contains_eq).symm

theorem stage?_eq (hIds : d.stageIds.Nodup) (id : String) : d'.stage? id = d.stage? id := by
  have hIds' : d'.stageIds.Nodup := h.stageIds.nodup_iff.mp hIds
  ext stage
  rw [stage?_eq_some_iff hIds, stage?_eq_some_iff hIds', h.stages.mem_iff]

theorem mem_targets_iff (stage : Stage) (target : String) :
    target ∈ d'.targets stage ↔ target ∈ d.targets stage := by
  unfold targets
  split
  · rfl
  · rfl
  · exact ((h.transitions.filter _).map _).mem_iff.symm

theorem leads_eq (hIds : d.stageIds.Nodup) :
    Leads d'.stageIds d'.leadsTo = Leads d.stageIds d.leadsTo := by
  funext source target
  unfold Leads leadsTo
  rw [h.stage?_eq hIds, h.stageIds.mem_iff]
  cases d.stage? source with
  | none => rfl
  | some stage => simp only [h.mem_targets_iff]

/-- The search may meet the stages in another order, but it finds the same ones. -/
theorem mem_reachable_iff (hIds : d.stageIds.Nodup) (id : String) :
    id ∈ d'.reachable ↔ id ∈ d.reachable := by
  rw [Definition.mem_reachable_iff, Definition.mem_reachable_iff, h.leads_eq hIds, h.start_eq,
    h.stageIds.mem_iff]

theorem checkExpression_eq (site : Site) (text : String) :
    checkExpression d'.stageIds site text = checkExpression d.stageIds site text := by
  simp only [checkExpression, h.contains_stageIds]

theorem checkTransition_eq (hIds : d.stageIds.Nodup) (t : Transition) :
    d'.checkTransition t = d.checkTransition t := by
  simp only [checkTransition, h.contains_stageIds, h.stage?_eq hIds, h.checkExpression_eq]

theorem checkTargets_eq (stage : Stage) :
    stage.checkTargets d'.stageIds = stage.checkTargets d.stageIds := by
  simp only [Stage.checkTargets, h.contains_stageIds, h.checkExpression_eq]

theorem checkReachable_perm (hIds : d.stageIds.Nodup) :
    d.checkReachable.Perm d'.checkReachable := by
  have hSeen (id : String) : d'.reachable.contains id = d.reachable.contains id := by
    simp only [List.contains_eq_mem, h.mem_reachable_iff hIds]
  simp only [checkReachable, h.contains_stageIds, h.start_eq, hSeen, ← h.stages.any_eq]
  split
  · exact ((h.stages.filter _).map _).append_left _
  · exact .refl _

theorem findings_perm (hIds : d.stageIds.Nodup) (topic : Topic) :
    (d.findings topic).Perm (d'.findings topic) := by
  cases topic with
  | version =>
    rw [findings, findings, checkVersion, checkVersion, h.version_eq]
  | declarations =>
    have hNone : repeated [] d.stageIds = [] :=
      repeated_eq_nil_iff.mpr ⟨hIds, fun _ _ => List.not_mem_nil⟩
    have hNone' : repeated [] d'.stageIds = [] :=
      repeated_eq_nil_iff.mpr ⟨h.stageIds.nodup_iff.mp hIds, fun _ _ => List.not_mem_nil⟩
    simp only [findings, hNone, hNone', checkStart, h.contains_stageIds, h.start_eq,
      h.stages.isEmpty_eq]
    exact .refl _
  | stage =>
    rw [findings, findings, h.models_eq]
    exact h.stages.flatMap_right _
  | transition =>
    have hSame : d'.checkTransition = d.checkTransition := funext (h.checkTransition_eq hIds)
    rw [findings, findings, hSame]
    exact h.transitions.flatMap_right _
  | target =>
    simp only [findings, h.checkTargets_eq]
    exact h.stages.flatMap_right _
  | reachability => exact h.checkReachable_perm hIds

end Reordered

/-- Another order of the declarations gives the same diagnostics, each as often, in another order.
So one definition has errors if the other has. -/
theorem validate_perm_of_reordered {d d' : Definition} (h : d.Reordered d')
    (hIds : d.stageIds.Nodup) :
    d'.validate.Perm d.validate ∧
      ((∃ x ∈ d'.validate, x.isError = true) ↔ ∃ x ∈ d.validate, x.isError = true) := by
  have hPerm : d'.validate.Perm d.validate := by
    have hTopic (topic : Topic) := (h.findings_perm hIds topic).symm
    rw [validate_eq, validate_eq]
    exact (((((hTopic _).append (hTopic _)).append (hTopic _)).append (hTopic _)).append
      (hTopic _)).append (hTopic _)
  exact ⟨hPerm, exists_congr fun x => and_congr_left fun _ => hPerm.mem_iff⟩

theorem validate_perm_of_reordered_at_reversed :
    ∃ d d' : Definition, d.Reordered d' ∧ d.stageIds = ["a", "b", "c"] ∧
      d'.stageIds = ["c", "b", "a"] ∧ d.stageIds.Nodup ∧ d'.validate.Perm d.validate ∧
      ∃ x ∈ d'.validate, x.isError = true := by
  let stages : List Stage := [{ id := "a", kind := .tool }, { id := "b", kind := .llm },
    { id := "c", kind := .exit }]
  let transitions : List Transition := [{ source := "a", target := "b" },
    { source := "b", target := "a", condition := some "exists(\"z\")" },
    { source := "a", target := "b" }, { source := "b", target := "z" }]
  let d : Definition := { name := "w", start := "b", stages, transitions }
  have hReordered : d.Reordered { d with
      stages := stages.reverse, transitions := transitions.reverse } :=
    ⟨(List.reverse_perm _).symm, (List.reverse_perm _).symm, rfl⟩
  have hIds : d.stageIds.Nodup := by decide
  have hError : .emptyCommand "a" ∈ d.validate := d.mem_validate_iff.mpr (by decide)
  obtain ⟨hPerm, hErrors⟩ := validate_perm_of_reordered hReordered hIds
  exact ⟨d, _, hReordered, rfl, rfl, hIds, hPerm, hErrors.mpr ⟨_, hError, rfl⟩⟩

end Definition

end Workflow
