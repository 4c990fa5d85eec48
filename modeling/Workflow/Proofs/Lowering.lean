import Workflow.Compile
import Workflow.Proofs.Definition.Reader
import Workflow.Proofs.Routing.Blanks

/-!
# Accepted definitions compile

Validation compiles every expression as it stands, and lowering compiles the trimmed text; priorities
are integers once a definition is read. So a definition without errors has a graph, and one with
errors is rejected with all of them.
-/

namespace Workflow

open Workflow.Text Workflow.Routing

theorem exists_orderWeight_eq_ok {priority : Value} (h : priority.IsPriority) (index total : Int) :
    ∃ weight, orderWeight priority index total = .ok weight := by
  obtain rfl | ⟨n, rfl⟩ := h
  · exact ⟨_, rfl⟩
  · by_cases hZero : n = 0
    · exact ⟨_, by rw [hZero]; rfl⟩
    · exact ⟨_, by simp [orderWeight, Value.orElse, Value.isGiven, hZero]; rfl⟩

/-- What lowering asks of a way out of a stage. -/
structure Exit.Lowers (exit : Exit) : Prop where
  priority : exit.priority.IsPriority
  condition : ∀ text ∈ exit.condition,
    allBlank text = true ∨ ∃ guard, Guard.compile text = .ok guard

theorem exists_edgeConditions_eq_ok {condition : Option String}
    (h : ∀ text ∈ condition, allBlank text = true ∨ ∃ guard, Guard.compile text = .ok guard) :
    ∃ conditions, edgeConditions condition = .ok conditions := by
  cases condition with
  | none => exact ⟨_, rfl⟩
  | some text =>
    obtain hBlank | ⟨guard, hGuard⟩ := h text rfl
    · have hTrim : trim text = "" := by
        rw [trim, trimChars_eq_nil_iff.mpr (List.all_eq_true.mp hBlank), String.ofList_nil]
      exact ⟨[""], by simp [edgeConditions, hTrim]⟩
    · exact ⟨_, edgeConditions_of_compile hGuard⟩

theorem Exit.Lowers.exists_edges_eq_ok {exit : Exit} (h : exit.Lowers) (source : String)
    (total index : Nat) : ∃ edges, exit.edges source total index = .ok edges := by
  obtain ⟨weight, hWeight⟩ := exists_orderWeight_eq_ok h.priority index total
  obtain ⟨conditions, hConditions⟩ := exists_edgeConditions_eq_ok h.condition
  exact ⟨_, by rw [Exit.edges, hWeight, hConditions]; rfl⟩

theorem exists_exitEdges_eq_ok {exits : List Exit} (h : ∀ exit ∈ exits, exit.Lowers)
    (source : String) : ∃ edges, exitEdges source exits = .ok edges := by
  have hEach : ∀ entry ∈ exits.zipIdx,
      ∃ edges, Exit.edges source exits.length entry.2 entry.1 = .ok edges := fun entry hEntry =>
    (h entry.1 (List.fst_mem_of_mem_zipIdx hEntry)).exists_edges_eq_ok source _ _
  obtain ⟨edges, hEdges⟩ := Except.exists_mapM_eq_ok hEach
  exact ⟨edges.flatten, by rw [exitEdges, hEdges]; rfl⟩

theorem exists_guard_of_checkExpression {known : List String} {site : Site} {text : String}
    (h : ∀ x ∈ checkExpression known site text, x.isError = false) :
    ∃ guard, Guard.compile text = .ok guard := by
  cases hGuard : Guard.compile text with
  | ok guard => exact ⟨guard, rfl⟩
  | error e =>
    have hError := h (.invalidExpression site text e.message) (by simp [checkExpression, hGuard])
    cases hError

theorem Diagnostic.severity_eq_warning_iff {x : Diagnostic} :
    x.severity = .warning ↔ x.isError = false := by
  cases h : x.severity <;> simp [Diagnostic.isError, h]

namespace Definition

/-- Validation finds no error. -/
def IsAccepted (d : Definition) : Prop :=
  ∀ x ∈ d.validate, x.isError = false

theorem accept_eq_ok {d : Definition} (h : d.IsAccepted) : d.accept = .ok d.validate := by
  have hNone : d.validate.filter Diagnostic.isError = [] := by simpa [IsAccepted] using h
  simp [accept, hNone]

theorem accept_eq_error {d : Definition} (h : ¬ d.IsAccepted) :
    d.accept = .error (d.validate.filter Diagnostic.isError) := by
  have hSome : d.validate.filter Diagnostic.isError ≠ [] := by simpa [IsAccepted] using h
  simp [accept, hSome]

variable {d : Definition}

theorem IsAccepted.transition (h : d.IsAccepted) :
    ∀ t ∈ d.transitions, ∀ x ∈ d.checkTransition t, x.isError = false := by
  intro t ht x hx
  apply h
  simp only [validate, List.mem_append, List.mem_flatMap]
  exact Or.inl (Or.inl (Or.inr ⟨t, ht, hx⟩))

theorem IsAccepted.targets (h : d.IsAccepted) :
    ∀ stage ∈ d.stages, ∀ x ∈ stage.checkTargets d.stageIds, x.isError = false := by
  intro stage hStage x hx
  apply h
  simp only [validate, List.mem_append, List.mem_flatMap]
  exact Or.inl (Or.inr ⟨stage, hStage, hx⟩)

theorem IsAccepted.check (h : d.IsAccepted) :
    ∀ stage ∈ d.stages, ∀ x ∈ stage.check d.models, x.isError = false := by
  intro stage hStage x hx
  apply h
  simp only [validate, List.mem_append, List.mem_flatMap]
  exact Or.inl (Or.inl (Or.inl (Or.inr ⟨stage, hStage, hx⟩)))

theorem IsAccepted.lowers_transition (h : d.IsAccepted) (hPriorities : d.HasPriorities) :
    ∀ t ∈ d.transitions, t.exit.Lowers := by
  intro t ht
  refine ⟨hPriorities.2 t ht, fun text hText => ?_⟩
  have hCondition : t.condition = some text := hText
  cases hBlank : allBlank text with
  | true => exact Or.inl rfl
  | false =>
    have hClean : ∀ x ∈ checkExpression d.stageIds (.transition t.source t.target) text,
        x.isError = false := by
      intro x hx
      apply h.transition t ht
      simp only [checkTransition, hCondition, hBlank, List.mem_append]
      exact Or.inr hx
    exact Or.inr (exists_guard_of_checkExpression hClean)

theorem IsAccepted.lowers_route (h : d.IsAccepted) (hPriorities : d.HasPriorities) :
    ∀ stage ∈ d.stages, ∀ route ∈ stage.routes, route.exit.Lowers := by
  intro stage hStage route hRoute
  refine ⟨hPriorities.1 stage hStage route hRoute, fun text hText => Or.inr ?_⟩
  obtain rfl : route.condition = text := Option.some.inj hText
  have hClean : ∀ x ∈ checkExpression d.stageIds (.route stage.id route.target) route.condition,
      x.isError = false := by
    intro x hx
    apply h.targets stage hStage
    simp only [Stage.checkTargets, List.mem_append, List.mem_flatMap]
    exact Or.inr ⟨route, hRoute, Or.inr hx⟩
  exact exists_guard_of_checkExpression hClean

/-- Accepted retry policies have a positive number of attempts. -/
theorem IsAccepted.attempts (h : d.IsAccepted) :
    ∀ stage ∈ d.stages, ∀ retry ∈ stage.retry, ∃ n : Int, retry.maxAttempts = .int n ∧ 1 ≤ n := by
  intro stage hStage retry hMem
  have hRetry : stage.retry = some retry := hMem
  have hClean : ∀ x ∈ stage.checkAttempts, x.isError = false := by
    intro x hx
    apply h.check stage hStage
    simp only [Stage.check, List.mem_append]
    exact Or.inl (Or.inr hx)
  cases hAttempts : retry.maxAttempts with
  | int n =>
    refine ⟨n, rfl, ?_⟩
    by_contra hFew
    have hFound : Diagnostic.invalidAttempts stage.id (.int n) ∈ stage.checkAttempts := by
      simp only [Stage.checkAttempts, hRetry, hAttempts]
      rw [if_pos (by omega)]
      exact List.mem_singleton_self _
    cases hClean _ hFound
  | none | bool _ | float _ | str _ | status _ =>
    have hFound : Diagnostic.invalidAttempts stage.id retry.maxAttempts ∈ stage.checkAttempts := by
      simp only [Stage.checkAttempts, hRetry, hAttempts]
      exact List.mem_singleton_self _
    cases hClean _ hFound

theorem IsAccepted.exists_transitionEdges_eq_ok (h : d.IsAccepted)
    (hPriorities : d.HasPriorities) : ∃ edges, d.transitionEdges = .ok edges := by
  have hEach : ∀ source ∈ distinct (d.transitions.map (·.source)), ∃ edges,
      exitEdges source ((d.transitions.filter (·.source == source)).map Transition.exit) =
        .ok edges := by
    intro source _
    apply exists_exitEdges_eq_ok
    intro exit hExit
    obtain ⟨t, ht, rfl⟩ := List.mem_map.mp hExit
    exact h.lowers_transition hPriorities t (List.mem_filter.mp ht).1
  obtain ⟨edges, hEdges⟩ := Except.exists_mapM_eq_ok hEach
  exact ⟨edges.flatten, by rw [transitionEdges, hEdges]; rfl⟩

theorem IsAccepted.exists_stageEdges_eq_ok (h : d.IsAccepted) (hPriorities : d.HasPriorities) :
    ∀ stage ∈ d.stages, ∃ edges, stageEdges stage = .ok edges := by
  intro stage hStage
  have hRoutes : ∀ exit ∈ stage.routes.map Route.exit, exit.Lowers := by
    intro exit hExit
    obtain ⟨route, hRoute, rfl⟩ := List.mem_map.mp hExit
    exact h.lowers_route hPriorities stage hStage route hRoute
  unfold stageEdges
  split
  · exact exists_exitEdges_eq_ok hRoutes stage.id
  · exact ⟨_, rfl⟩
  · exact ⟨_, rfl⟩

theorem IsAccepted.exists_toGraph_eq_ok (h : d.IsAccepted) (hPriorities : d.HasPriorities) :
    ∃ graph, d.toGraph = .ok graph := by
  obtain ⟨transitions, hTransitions⟩ := h.exists_transitionEdges_eq_ok hPriorities
  obtain ⟨own, hOwn⟩ := Except.exists_mapM_eq_ok (h.exists_stageEdges_eq_ok hPriorities)
  exact ⟨_, by rw [toGraph, accept_eq_ok h, edges, hTransitions, hOwn]; rfl⟩

theorem IsAccepted.exists_compile_eq_ok (h : d.IsAccepted) (hPriorities : d.HasPriorities) :
    ∃ graph, d.compile = .ok ⟨d, graph, d.validate⟩ := by
  obtain ⟨graph, hGraph⟩ := h.exists_toGraph_eq_ok hPriorities
  exact ⟨graph.styled, by rw [compile, accept_eq_ok h, hGraph]; rfl⟩

theorem compile_eq_error (h : ¬ d.IsAccepted) :
    d.compile = .error (.rejected (d.validate.filter Diagnostic.isError)) := by
  rw [compile, accept_eq_error h]
  rfl

end Definition

theorem compile_eq_of_parse {source : String} {d : Definition}
    (h : Definition.parse source = .ok d) : compile source = d.compile.mapError .unlowered := by
  rw [compile, h]
  rfl

/-- A source that is read compiles exactly if validation finds no error, and validation alone says
what comes with the result or why there is none. -/
theorem compile_eq_ok_iff_no_error {source : String} {d : Definition}
    (h : Definition.parse source = .ok d) :
    ((∃ c, compile source = .ok c) ↔ ∀ x ∈ d.validate, x.isError = false) ∧
    (∀ c, compile source = .ok c →
      c.definition = d ∧ c.warnings = d.validate ∧ ∀ x ∈ c.warnings, x.severity = .warning) ∧
    (∀ e, compile source = .error e →
      e = .unlowered (.rejected (d.validate.filter Diagnostic.isError))) ∧
    ((∀ x ∈ d.validate, x.isError = false) →
      ∀ stage ∈ d.stages, ∀ retry ∈ stage.retry, ∃ n : Int, retry.maxAttempts = .int n ∧ 1 ≤ n) ∧
    ∀ text guard, Guard.compile text = .ok guard →
      ∃ conditions, edgeConditions (some text) = .ok conditions := by
  have hConditions : ∀ text guard, Guard.compile text = .ok guard →
      ∃ conditions, edgeConditions (some text) = .ok conditions := fun _ _ hGuard =>
    ⟨_, edgeConditions_of_compile hGuard⟩
  rw [compile_eq_of_parse h]
  by_cases hAccepted : d.IsAccepted
  · obtain ⟨graph, hCompile⟩ := hAccepted.exists_compile_eq_ok (Definition.hasPriorities_parse h)
    rw [hCompile]
    refine ⟨⟨fun _ => hAccepted, fun _ => ⟨_, rfl⟩⟩, fun c hc => ?_, fun e he => ?_,
      Definition.IsAccepted.attempts, hConditions⟩
    · cases hc
      exact ⟨rfl, rfl, fun x hx => Diagnostic.severity_eq_warning_iff.mpr (hAccepted x hx)⟩
    · cases he
  · rw [Definition.compile_eq_error hAccepted]
    refine ⟨⟨fun ⟨_, hc⟩ => ?_, fun hAll => absurd hAll hAccepted⟩, fun c hc => ?_, fun e he => ?_,
      Definition.IsAccepted.attempts, hConditions⟩
    · cases hc
    · cases hc
    · cases he
      rfl

theorem compile_eq_ok_iff_no_error_at_guarded_route :
    ∃ source d, Definition.parse source = .ok d ∧ d.validate = [.noCatchAll "a"] ∧
      ∃ c, compile source = .ok c ∧ c.definition = d ∧ c.warnings = [.noCatchAll "a"] := by
  obtain ⟨d, hd⟩ : ∃ d : Definition, d =
      { name := "w", start := "a", stages := [
        { id := "a", kind := .decision, line := 3, retry := some ⟨.int 2, none, none, none⟩,
          routes := [⟨" outcome(\"a\") == \"ok\" ", "z", .int 2⟩] },
        { id := "z", kind := .exit, line := 7 }] } := ⟨_, rfl⟩
  have hParse : Definition.parse ("workflow \"w\" \x7b\n start \"a\"\n" ++
      " stage \"a\" kind=\"decision\" \x7b\n  retry max_attempts=2\n" ++
      "  route when=\" outcome(\\\"a\\\") == \\\"ok\\\" \" to=\"z\" priority=2\n \x7d\n" ++
      " stage \"z\" kind=\"exit\"\n\x7d") = .ok d := by
    rw [hd]
    decide +kernel
  have hReachable : d.reachable = ["z", "a"] := by
    simp [hd, Definition.reachable, visit, Definition.leadsTo, Definition.stage?,
      Definition.targets, Definition.stageIds]
  have hValidate : d.validate = [.noCatchAll "a"] := by
    rw [Definition.validate, Definition.checkReachable, hReachable, hd]
    decide +kernel
  obtain ⟨hCompiles, hResult, -⟩ := compile_eq_ok_iff_no_error hParse
  obtain ⟨c, hc⟩ := hCompiles.mpr (by rw [hValidate]; decide)
  obtain ⟨hDefinition, hWarnings, -⟩ := hResult c hc
  exact ⟨_, d, hParse, hValidate, c, hc, hDefinition, hWarnings.trans hValidate⟩

end Workflow
