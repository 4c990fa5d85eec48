import Workflow.Proofs.Definition.Linked
import Workflow.Proofs.Definition.Regular
import Workflow.Proofs.Validation.Topic

/-!
# What validation need not find

A definition that was read declares its stages once and starts at one of them, and its stages have
what their kinds ask for. Validation checks the declarations again, and finds fault with them only
in definitions that no source gives.
-/

namespace Workflow

theorem Diagnostic.topic_eq_declarations_iff {x : Diagnostic} :
    x.topic = .declarations ↔ x.rule ∈ ["empty_workflow", "duplicate_stage", "start_exists"] := by
  cases x with
  | invalidExpression site _ _ | unknownReference site _ =>
    cases site <;> simp [topic, Site.topic, rule, ruleAndSeverity]
  | _ => simp [topic, rule, ruleAndSeverity]

namespace Definition

variable {d : Definition}

theorem findings_declarations_eq_nil_iff :
    d.findings .declarations = [] ↔ d.stageIds.Nodup ∧ d.start ∈ d.stageIds := by
  have hEmpty : d.start ∈ d.stageIds → d.stages ≠ [] := by
    rintro hStart hNone
    simp [stageIds, hNone] at hStart
  simp only [findings, List.append_eq_nil_iff, List.map_eq_nil_iff, repeated_eq_nil_iff, checkStart]
  constructor
  · rintro ⟨⟨-, hNodup, -⟩, hStart⟩
    refine ⟨hNodup, ?_⟩
    by_contra hMissing
    simp [hMissing] at hStart
  · rintro ⟨hNodup, hStart⟩
    refine ⟨⟨by simp [hEmpty hStart], hNodup, fun _ _ => List.not_mem_nil⟩, ?_⟩
    simp [hStart]

/-- Validation has nothing to say about the declarations exactly if every stage is declared once
and the start is one of them. -/
theorem validate_without_declarations_iff :
    (∀ x ∈ d.validate, x.rule ∉ ["empty_workflow", "duplicate_stage", "start_exists"]) ↔
      d.stageIds.Nodup ∧ d.start ∈ d.stageIds := by
  rw [← findings_declarations_eq_nil_iff, ← filter_validate, List.filter_eq_nil_iff]
  simp only [← Diagnostic.topic_eq_declarations_iff, decide_eq_true_iff]

/-- What reading establishes of every definition. -/
theorem invariants_parse {source : String} (h : parse source = .ok d) :
    d.stageIds.Nodup ∧ d.start ∈ d.stageIds ∧
    (∀ stage ∈ d.stages,
      (stage.choices ≠ [] → stage.kind = .human) ∧ (stage.routes ≠ [] → stage.kind = .decision) ∧
      "kind" ∉ stage.attrs.keys ∧
      (stage.kind = .tool → ∃ text, stage.attrs.attr "command" = .str text ∧ text ≠ "") ∧
      (stage.kind = .human → ∃ text, stage.attrs.attr "prompt" = .str text ∧ text ≠ "") ∧
      ∀ retry ∈ stage.retry,
        ((∃ i, retry.maxAttempts = .int i) ∨ ∃ x, retry.maxAttempts = .float x) ∧
        ∀ word ∈ retry.backoff, word ∈ ["none", "fixed", "exponential"]) ∧
    ∀ x ∈ d.validate, x.rule ∉ ["empty_workflow", "duplicate_stage", "start_exists"] := by
  have hRegular := isRegular_parse h
  refine ⟨hRegular.nodup, hRegular.start, fun stage hStage => ?_,
    validate_without_declarations_iff.mpr ⟨hRegular.nodup, hRegular.start⟩⟩
  have hParts := hRegular.stages stage hStage
  refine ⟨hParts.choices, hParts.routes, hParts.kind, hParts.command, hParts.prompt,
    fun retry hRetry => ⟨(hParts.retry retry hRetry).attempts, fun word hWord => ?_⟩⟩
  have hKnown := (hParts.retry retry hRetry).backoff word hWord
  simp only [Retry.backoffs, List.mem_cons, List.not_mem_nil, or_false] at hKnown ⊢
  tauto

/-- The prompt is a child, the command is written twice, and the attempts are left to validation. -/
theorem invariants_parse_at_repeated_command :
    ∃ source d, Definition.parse source = .ok d ∧ d.stageIds = ["a", "b", "c"] ∧
      (∃ stage ∈ d.stages, stage.choices.length = 2 ∧ stage.kind = .human ∧
        ∃ text, stage.attrs.attr "prompt" = .str text ∧ text ≠ "") ∧
      (∃ stage ∈ d.stages, stage.kind = .tool ∧ "kind" ∉ stage.attrs.keys ∧
        ∃ text, stage.attrs.attr "command" = .str text ∧ text ≠ "") ∧
      d.stages.any (fun stage => !stage.checkAttempts.isEmpty) = true ∧
      ∀ x ∈ d.validate, x.rule ∉ ["empty_workflow", "duplicate_stage", "start_exists"] := by
  obtain ⟨source, hSource⟩ : ∃ source : String, source =
      "workflow w\x7bstart a;stage a kind=human\x7bprompt p;option y to=b;option n to=c\x7d;" ++
      "stage b kind=tool command=\"\" command=make\x7bretry max_attempts=0\x7d;" ++
      "stage c kind=exit\x7d" := ⟨_, rfl⟩
  have hRead : (Definition.parse source).map (fun d => (d.stageIds,
      d.stages.map fun stage => (stage.kind, stage.choices.length, stage.checkAttempts.isEmpty))) =
        .ok (["a", "b", "c"], [(.human, 2, true), (.tool, 0, false),
          (.exit, 0, true)]) := by
    rw [hSource]
    decide +kernel
  obtain ⟨d, hParse, hShape⟩ := Except.map_eq_ok_iff.mp hRead
  obtain ⟨hIds, hStages⟩ := Prod.mk.inj hShape
  obtain ⟨-, -, hEach, hValidate⟩ := invariants_parse hParse
  obtain ⟨first, _, hList, hFirst, hRest⟩ := List.map_eq_cons_iff.mp hStages
  obtain ⟨second, _, rfl, hSecond, -⟩ := List.map_eq_cons_iff.mp hRest
  have hFirstMem : first ∈ d.stages := hList ▸ List.mem_cons_self
  have hSecondMem : second ∈ d.stages := hList ▸ List.mem_cons_of_mem _ List.mem_cons_self
  simp only [Prod.mk.injEq] at hFirst hSecond
  obtain ⟨-, -, -, -, hPrompt, -⟩ := hEach first hFirstMem
  obtain ⟨-, -, hKind, hCommand, -⟩ := hEach second hSecondMem
  refine ⟨source, d, hParse, hIds, ⟨first, hFirstMem, hFirst.2.1, hFirst.1, hPrompt hFirst.1⟩,
    ⟨second, hSecondMem, hSecond.1, hKind, hCommand hSecond.1⟩, ?_, hValidate⟩
  exact List.any_eq_true.mpr ⟨second, hSecondMem, by rw [hSecond.2.2]; rfl⟩

end Definition

end Workflow
