import Workflow.Proofs.Lowering

/-!
# Accepted definitions are linked

Without errors, stage ids are distinct, every name that is used for a stage is declared, and
transitions leave only stages that have no ways out of their own.
-/

namespace Workflow

/-- Where keys are distinct, an item is the only one with its key. -/
theorem filter_key_eq_singleton {α : Type} {key : α → String} {items : List α}
    (hNodup : (items.map key).Nodup) {item : α} (h : item ∈ items) :
    items.filter (key · == key item) = [item] := by
  induction items with
  | nil => cases h
  | cons first items ih =>
    rw [List.map_cons, List.nodup_cons] at hNodup
    obtain rfl | hMem := List.mem_cons.mp h
    · have hRest : items.filter (key · == key item) = [] := by
        rw [List.filter_eq_nil_iff]
        intro other hOther hEq
        have hKey : key other = key item := by simpa using hEq
        exact hNodup.1 (hKey ▸ List.mem_map_of_mem hOther)
      rw [List.filter_cons, if_pos (beq_self_eq_true _), hRest]
    · have hFirst : ¬ (key first == key item) = true := by
        intro hEq
        have hKey : key first = key item := by simpa using hEq
        exact hNodup.1 (hKey ▸ List.mem_map_of_mem hMem)
      rw [List.filter_cons, if_neg hFirst]
      exact ih hNodup.2 hMem

namespace Definition

theorem repeated_eq_nil_iff {seen ids : List String} :
    repeated seen ids = [] ↔ ids.Nodup ∧ ∀ id ∈ ids, id ∉ seen := by
  induction ids generalizing seen with
  | nil => simp [repeated]
  | cons id ids ih =>
    rw [repeated, List.nodup_cons, List.forall_mem_cons]
    by_cases h : id ∈ seen
    · simp [h]
    · rw [if_neg (by simpa using h), ih]
      simp only [List.mem_cons, not_or]
      constructor
      · rintro ⟨hNodup, hFresh⟩
        exact ⟨⟨fun hMem => (hFresh id hMem).1 rfl, hNodup⟩, h, fun other hOther =>
          (hFresh other hOther).2⟩
      · rintro ⟨⟨hMem, hNodup⟩, -, hFresh⟩
        exact ⟨hNodup, fun other hOther => ⟨fun hEq => hMem (hEq ▸ hOther), hFresh other hOther⟩⟩

structure IsLinked (d : Definition) : Prop where
  nodup : d.stageIds.Nodup
  start : d.start ∈ d.stageIds
  source : ∀ t ∈ d.transitions, t.source ∈ d.stageIds
  target : ∀ t ∈ d.transitions, t.target ∈ d.stageIds
  leaves : ∀ t ∈ d.transitions, ∀ stage ∈ d.stages, stage.id = t.source →
    stage.routesItself = false
  choice : ∀ stage ∈ d.stages, ∀ choice ∈ stage.choices, choice.target ∈ d.stageIds
  route : ∀ stage ∈ d.stages, ∀ route ∈ stage.routes, route.target ∈ d.stageIds

variable {d : Definition}

theorem isAccepted_of_validate_eq_nil (h : d.validate = []) : d.IsAccepted := by
  rw [IsAccepted, h]
  exact List.forall_mem_nil _

theorem id_mem_stageIds {stage : Stage} (h : stage ∈ d.stages) : stage.id ∈ d.stageIds :=
  List.mem_map_of_mem h

theorem stage?_eq_some (hNodup : d.stageIds.Nodup) {stage : Stage} (h : stage ∈ d.stages) :
    d.stage? stage.id = some stage := by
  rw [stage?, ← List.head?_filter, filter_key_eq_singleton hNodup h]
  rfl

theorem stage?_eq_some_iff (hNodup : d.stageIds.Nodup) {id : String} {stage : Stage} :
    d.stage? id = some stage ↔ stage ∈ d.stages ∧ stage.id = id := by
  constructor
  · intro h
    rw [stage?] at h
    exact ⟨List.mem_of_find?_eq_some h, by simpa using List.find?_some h⟩
  · rintro ⟨hMem, rfl⟩
    exact stage?_eq_some hNodup hMem

theorem eq_of_id_eq (hNodup : d.stageIds.Nodup) {stage other : Stage} (h : stage ∈ d.stages)
    (hOther : other ∈ d.stages) (hId : stage.id = other.id) : stage = other := by
  have hFirst := stage?_eq_some hNodup h
  rw [hId, stage?_eq_some hNodup hOther] at hFirst
  exact (Option.some.inj hFirst).symm

theorem IsAccepted.nodup (h : d.IsAccepted) : d.stageIds.Nodup := by
  have hNone : repeated [] d.stageIds = [] := by
    rw [List.eq_nil_iff_forall_not_mem]
    intro id hMem
    have hFound : Diagnostic.duplicateStage id ∈ d.validate := by
      simp only [validate, List.mem_append]
      exact Or.inl (Or.inl (Or.inl (Or.inl (Or.inl (Or.inr (List.mem_map_of_mem hMem))))))
    cases h _ hFound
  exact (repeated_eq_nil_iff.mp hNone).1

theorem IsAccepted.start_mem (h : d.IsAccepted) : d.start ∈ d.stageIds := by
  by_contra hMissing
  have hStart : Diagnostic.missingStart d.start ∈ d.checkStart := by
    simp [checkStart, hMissing]
  have hFound : Diagnostic.missingStart d.start ∈ d.validate := by
    simp only [validate, List.mem_append]
    exact Or.inl (Or.inl (Or.inl (Or.inl (Or.inr hStart))))
  cases h _ hFound

theorem IsAccepted.source_mem (h : d.IsAccepted) {t : Transition} (ht : t ∈ d.transitions) :
    t.source ∈ d.stageIds := by
  by_contra hMissing
  have hFound : Diagnostic.unknownSource t.source t.target ∈ d.checkTransition t := by
    simp [checkTransition, hMissing]
  cases h.transition t ht _ hFound

theorem IsAccepted.target_mem (h : d.IsAccepted) {t : Transition} (ht : t ∈ d.transitions) :
    t.target ∈ d.stageIds := by
  by_contra hMissing
  have hFound : Diagnostic.unknownTarget t.source t.target ∈ d.checkTransition t := by
    simp [checkTransition, hMissing]
  cases h.transition t ht _ hFound

theorem IsAccepted.routesItself_eq_false (h : d.IsAccepted) {t : Transition}
    (ht : t ∈ d.transitions) {stage : Stage} (hStage : stage ∈ d.stages)
    (hSource : stage.id = t.source) : stage.routesItself = false := by
  by_contra hNot
  have hOwn : stage.routesItself = true := by simpa using hNot
  have hFirst : d.stage? t.source = some stage := by
    rw [← hSource]
    exact stage?_eq_some h.nodup hStage
  have hFound : Diagnostic.ownRouting stage.id stage.kind t.target ∈ d.checkTransition t := by
    simp [checkTransition, hFirst, hOwn]
  cases h.transition t ht _ hFound

theorem IsAccepted.choice_target_mem (h : d.IsAccepted) {stage : Stage} (hStage : stage ∈ d.stages)
    {choice : Choice} (hChoice : choice ∈ stage.choices) : choice.target ∈ d.stageIds := by
  by_contra hMissing
  have hFound : Diagnostic.choiceTarget stage.id choice.key choice.target ∈
      stage.checkTargets d.stageIds := by
    simp only [Stage.checkTargets, List.mem_append]
    exact Or.inl (List.mem_map.mpr ⟨choice, by simp [hChoice, hMissing], rfl⟩)
  cases h.targets stage hStage _ hFound

theorem IsAccepted.route_target_mem (h : d.IsAccepted) {stage : Stage} (hStage : stage ∈ d.stages)
    {route : Route} (hRoute : route ∈ stage.routes) : route.target ∈ d.stageIds := by
  by_contra hMissing
  have hFound : Diagnostic.routeTarget stage.id route.target ∈
      stage.checkTargets d.stageIds := by
    simp only [Stage.checkTargets, List.mem_append, List.mem_flatMap]
    exact Or.inr ⟨route, hRoute, Or.inl (by simp [hMissing])⟩
  cases h.targets stage hStage _ hFound

theorem IsAccepted.isLinked (h : d.IsAccepted) : d.IsLinked where
  nodup := h.nodup
  start := h.start_mem
  source _ := h.source_mem
  target _ := h.target_mem
  leaves _ ht _ := h.routesItself_eq_false ht
  choice _ hStage _ := h.choice_target_mem hStage
  route _ hStage _ := h.route_target_mem hStage

end Definition

end Workflow
