import Workflow.Proofs.Definition.Reader
import Workflow.Proofs.Source.Scanned

/-!
# Definitions that were read

The values of a definition that was read come from a source. Options belong to human stages and
routes to decision stages, labels stand in for missing ones, tools have a command and humans a
prompt, and stage ids are distinct.
-/

namespace Workflow

open Workflow.Source

/-- A priority that a source gives or leaves out. -/
def Value.IsScannedPriority (v : Value) : Prop :=
  v = .none ∨ ∃ i, v = .int i ∧ v.IsScanned

theorem Value.IsScannedPriority.isPriority {v : Value} (h : v.IsScannedPriority) : v.IsPriority :=
  h.imp_right fun ⟨i, hInt, _⟩ => ⟨i, hInt⟩

namespace Source.Node

variable {node : Node} {stage key what : String} {v : Value}

theorem IsScanned.get? (h : node.IsScanned) (hGet : node.props.get? key = some v) : v.IsScanned :=
  (h.props _ (Table.get?_eq_some_iff.mp hGet)).2

theorem IsScanned.integerProperty (h : node.IsScanned)
    (hRead : node.integerProperty stage key = .ok v) : v.IsScannedPriority := by
  unfold Node.integerProperty at hRead
  split at hRead
  · cases hRead
    exact Or.inl rfl
  · rename_i i hGet
    cases hRead
    exact Or.inr ⟨i, rfl, h.get? hGet⟩
  · cases hRead

theorem IsScanned.integerArgument (h : node.IsScanned)
    (hRead : node.integerArgument stage what = .ok v) : ∃ i, v = .int i ∧ v.IsScanned := by
  unfold Node.integerArgument at hRead
  split at hRead
  · rename_i i hHead
    cases hRead
    exact ⟨i, rfl, h.args _ (List.mem_of_mem_head? hHead)⟩
  · cases hRead

end Source.Node

section Parts

variable {node : Node} {id : String}

theorem Choice.label_of_ofNode {choice : Choice} (h : Choice.ofNode id node = .ok choice) :
    choice.label = "" → choice.key = "" := by
  simp only [Choice.ofNode, Except.bind_eq_ok_iff, Except.ok.injEq] at h
  obtain ⟨key, -, label, -, target, -, rfl⟩ := h
  intro hLabel
  by_cases hEmpty : label.getD "" = ""
  · rwa [if_pos hEmpty] at hLabel
  · rw [if_neg hEmpty] at hLabel
    exact absurd hLabel hEmpty

theorem Route.isScannedPriority_of_ofNode {route : Route} (hNode : node.IsScanned)
    (h : Route.ofNode id node = .ok route) : route.priority.IsScannedPriority := by
  simp only [Route.ofNode, Except.bind_eq_ok_iff, Except.ok.injEq] at h
  obtain ⟨condition, -, target, -, priority, hPriority, rfl⟩ := h
  exact hNode.integerProperty hPriority

theorem Transition.isScannedPriority_of_ofNode {t : Transition} (hNode : node.IsScanned)
    (h : Transition.ofNode node = .ok t) : t.priority.IsScannedPriority := by
  simp only [Transition.ofNode, Except.bind_eq_ok_iff, Except.ok.injEq] at h
  obtain ⟨source, -, target, -, condition, -, priority, hPriority, rfl⟩ := h
  exact hNode.integerProperty hPriority

structure Retry.IsRegular (retry : Retry) : Prop where
  attempts : (∃ i, retry.maxAttempts = .int i) ∨ ∃ x, retry.maxAttempts = .float x
  scanned : retry.maxAttempts.IsScanned
  backoff : ∀ word ∈ retry.backoff, word ∈ Retry.backoffs

theorem Retry.attempts_of_attemptsOf {v : Value} (hNode : node.IsScanned)
    (h : attemptsOf id node = .ok v) :
    ((∃ i, v = .int i) ∨ ∃ x, v = .float x) ∧ v.IsScanned := by
  unfold attemptsOf at h
  split at h
  · cases h
  · rename_i i hGet
    cases h
    exact ⟨Or.inl ⟨i, rfl⟩, hNode.get? hGet⟩
  · rename_i x hGet
    cases h
    exact ⟨Or.inr ⟨x, rfl⟩, hNode.get? hGet⟩
  · cases h

theorem Retry.isRegular_of_ofNode {retry : Retry} (hNode : node.IsScanned)
    (h : Retry.ofNode id node = .ok retry) : retry.IsRegular := by
  unfold Retry.ofNode at h
  obtain ⟨attempts, hAttempts, h⟩ := Except.bind_eq_ok_iff.mp h
  obtain ⟨backoff, -, h⟩ := Except.bind_eq_ok_iff.mp h
  obtain ⟨hNumber, hScanned⟩ := attempts_of_attemptsOf hNode hAttempts
  split at h
  · rename_i word
    split at h
    · obtain ⟨_, hRefused, -⟩ := Except.bind_eq_ok_iff.mp h
      cases hRefused
    · rename_i hKnown
      simp only [Except.bind_eq_ok_iff, Except.ok.injEq] at h
      obtain ⟨delay, -, maxDelay, -, rfl⟩ := h
      have hMem : word ∈ Retry.backoffs := by simpa using hKnown
      exact ⟨hNumber, hScanned, fun _ hWord => Option.some.inj hWord ▸ hMem⟩
  · simp only [Except.bind_eq_ok_iff, Except.ok.injEq] at h
    obtain ⟨_, -, delay, -, maxDelay, -, rfl⟩ := h
    exact ⟨hNumber, hScanned, nofun⟩

end Parts

namespace Stage

/-- What holds of a stage while its children are read. -/
structure HasRegularParts (stage : Stage) : Prop where
  attrs : ∀ e ∈ stage.attrs.entries, Token.IsWord e.1 ∧ e.2.IsScanned
  kind : "kind" ∉ stage.attrs.keys
  choices : stage.choices ≠ [] → stage.kind = .human
  labels : ∀ choice ∈ stage.choices, choice.label = "" → choice.key = ""
  routes : stage.routes ≠ [] → stage.kind = .decision
  priorities : ∀ route ∈ stage.routes, route.priority.IsScannedPriority
  retry : ∀ retry ∈ stage.retry, retry.IsRegular

structure IsRegular (stage : Stage) : Prop extends stage.HasRegularParts where
  command : stage.kind = .tool → ∃ text, stage.attrs.attr "command" = .str text ∧ text ≠ ""
  prompt : stage.kind = .human → ∃ text, stage.attrs.attr "prompt" = .str text ∧ text ≠ ""

variable {stage stage' : Stage} {node : Node}

theorem checkCommand_eq_ok_iff : stage.checkCommand node = .ok () ↔
    (stage.kind = .tool → ∃ text, stage.attrs.attr "command" = .str text ∧ text ≠ "") := by
  unfold checkCommand
  split
  · split <;> simp_all [Node.refuse]
  · simp_all [Node.refuse]
  · simp_all

theorem checkPrompt_eq_ok_iff : stage.checkPrompt node = .ok () ↔
    (stage.kind = .human → ∃ text, stage.attrs.attr "prompt" = .str text ∧ text ≠ "") := by
  unfold checkPrompt
  split
  · split <;> simp_all [Node.refuse]
  · simp_all [Node.refuse]
  · simp_all

theorem hasRegularParts_addChild (hNode : node.IsScanned) (hStage : stage.HasRegularParts)
    (h : stage.addChild node = .ok stage') : stage'.HasRegularParts := by
  obtain ⟨prompt, rfl⟩ | ⟨choice, hKind, hChoice, rfl⟩ | ⟨route, hKind, hRoute, rfl⟩ |
    ⟨retry, hRetry, rfl⟩ := addChild_cases h
  · refine { hStage with attrs := ?_, kind := ?_ }
    · rintro ⟨key, v⟩ he
      have hGet := Table.get?_eq_some_iff.mpr he
      rw [Table.get?_insert] at hGet
      split at hGet
      · rename_i hKey
        cases hKey
        cases hGet
        have hWord : Token.IsWord "prompt" := by decide
        exact ⟨hWord, Or.inl trivial⟩
      · exact hStage.attrs (key, v) (Table.get?_eq_some_iff.mp hGet)
    · rw [Table.mem_keys_insert, not_or]
      exact ⟨hStage.kind, by decide⟩
  · refine { hStage with choices := fun _ => hKind, labels := ?_ }
    exact List.forall_mem_append.mpr
      ⟨hStage.labels, List.forall_mem_singleton.mpr (Choice.label_of_ofNode hChoice)⟩
  · refine { hStage with routes := fun _ => hKind, priorities := ?_ }
    exact List.forall_mem_append.mpr ⟨hStage.priorities,
      List.forall_mem_singleton.mpr (Route.isScannedPriority_of_ofNode hNode hRoute)⟩
  · refine { hStage with retry := ?_ }
    rintro _ ⟨⟩
    exact Retry.isRegular_of_ofNode hNode hRetry

theorem isRegular_ofNode (hNode : node.IsScanned) (h : Stage.ofNode node = .ok stage) :
    stage.IsRegular := by
  simp only [Stage.ofNode, Except.bind_eq_ok_iff, Except.ok.injEq] at h
  obtain ⟨id, -, kind, -, stage, hFold, ⟨⟩, hCommand, ⟨⟩, hPrompt, rfl⟩ := h
  have hBare : HasRegularParts
      { id := id, kind := kind, attrs := node.props.erase "kind", line := node.place.line } := by
    refine ⟨fun e he => ?_, ?_, by simp, by simp, by simp, by simp, by simp⟩
    · exact hNode.props e (List.mem_of_mem_filter he)
    · simp [Table.keys, Table.erase]
  have hParts : stage.HasRegularParts :=
    Except.foldlM_preserves (p := HasRegularParts) (fun child hChild hStage hAdd =>
      hasRegularParts_addChild (hNode.children child hChild) hStage hAdd) hBare hFold
  exact { hParts with
    command := checkCommand_eq_ok_iff.mp hCommand
    prompt := checkPrompt_eq_ok_iff.mp hPrompt }

end Stage

namespace Definition

structure IsRegular (d : Definition) : Prop where
  version : ∃ i, d.version = .int i ∧ d.version.IsScanned
  stages : ∀ stage ∈ d.stages, stage.IsRegular
  nodup : d.stageIds.Nodup
  start : d.start ∈ d.stageIds
  priorities : ∀ t ∈ d.transitions, t.priority.IsScannedPriority

structure AreRegular (stages : List Stage) : Prop where
  each : ∀ stage ∈ stages, stage.IsRegular
  nodup : (stages.map (·.id)).Nodup

variable {stages stages' : List Stage} {node : Node} {nodes : List Node} {d : Definition}

theorem areRegular_addStage (hNode : node.IsScanned) (hStages : AreRegular stages)
    (h : addStage stages node = .ok stages') : AreRegular stages' := by
  obtain ⟨stage, hStage, hNew, rfl⟩ := addStage_eq_ok h
  refine ⟨?_, ?_⟩
  · exact List.forall_mem_append.mpr ⟨hStages.each,
      List.forall_mem_singleton.mpr (Stage.isRegular_ofNode hNode hStage)⟩
  · rw [List.map_append, List.nodup_append]
    refine ⟨hStages.nodup, by simp, ?_⟩
    intro id hId other hOther hEq
    obtain ⟨first, hFirst, rfl⟩ := List.mem_map.mp hId
    exact hNew first hFirst (hEq.trans (List.mem_singleton.mp hOther))

theorem isRegular_ofNodes (hNodes : ∀ node ∈ nodes, node.IsScanned) (h : ofNodes nodes = .ok d) :
    d.IsRegular := by
  obtain ⟨root, hRoot, hVersion, hStages, hStart, hTransitions⟩ := parts_of_ofNodes h
  have hChildren := (hNodes root hRoot).children
  have hNone : AreRegular [] := ⟨by simp, by simp⟩
  have hRegular : AreRegular d.stages := by
    refine Except.foldlM_preserves (p := AreRegular) (fun child hChild => ?_) hNone hStages
    exact areRegular_addStage (hChildren child (List.mem_of_mem_filter hChild))
  refine ⟨?_, hRegular.each, hRegular.nodup, hStart, fun t ht => ?_⟩
  · obtain hDefault | ⟨child, hChild, hRead⟩ := hVersion
    · rw [hDefault]
      have hShort : (Nat.toDigits 10 2).length ≤ 4300 := by decide
      exact ⟨2, rfl, Or.inl hShort⟩
    · exact (hChildren child hChild).integerArgument hRead
  · obtain ⟨child, hChild, hRead⟩ := Except.exists_of_mem_of_mapM_eq_ok hTransitions t ht
    exact Transition.isScannedPriority_of_ofNode (hChildren child (List.mem_of_mem_filter hChild)) hRead

theorem isRegular_parse {source : String} (h : parse source = .ok d) : d.IsRegular := by
  simp only [parse, Except.bind_eq_ok_iff, Except.mapError_eq_ok_iff] at h
  obtain ⟨tokens, hScan, nodes, hRead, h⟩ := h
  exact isRegular_ofNodes (isScanned_of_source hScan hRead) h

end Definition

end Workflow
