import Workflow.Prompt
import Workflow.Proofs.Definition.Regular
import Workflow.Proofs.Style.Nodes
import Workflow.Proofs.Text.Cut
import Workflow.Proofs.Validation.Topic

/-!
# The prompts of compiled graphs

The prompt of a stage is the first that is given of its prompt, its label and its id. It is used if
it is a text, with the goal in the place of every mark. A stage that is said to have no prompt uses
its label only if it has none; a blank prompt is used as it is, and one that is no text not at all.
-/

namespace Workflow

open Workflow.Text

namespace Value

variable {v w u : Value}

theorem orElse_assoc : (v.orElse w).orElse u = v.orElse (w.orElse u) := by
  by_cases h : v.isGiven <;> simp [orElse, h]

theorem IsScanned.orElse (hw : w.IsScanned) (hv : v.isGiven = true → v.IsScanned) :
    (v.orElse w).IsScanned := by
  unfold Value.orElse
  split
  · next hGiven => exact hv hGiven
  · exact hw

end Value

namespace Stage

/-- The value that the prompt of a stage is taken from. -/
def promptValue (stage : Stage) : Value :=
  ((stage.attrs.attr "prompt").orElse (stage.attrs.attr "label")).orElse (.str stage.id)

theorem missingPrompt_mem_check_iff {stage : Stage} {models : Option Models} {id : String} :
    .missingPrompt id ∈ stage.check models ↔ id = stage.id ∧ stage.kind = .llm ∧
      hasText stage.prompt? = false ∧ hasText stage.promptFile? = false := by
  have hProfile : .missingPrompt id ∉ stage.checkProfile models := by
    unfold checkProfile
    cases stage.modelProfile? with
    | none => exact List.not_mem_nil
    | some profile =>
      dsimp only
      split <;> simp
  have hAttempts : .missingPrompt id ∉ stage.checkAttempts := by
    unfold checkAttempts
    split
    · exact List.not_mem_nil
    · split
      · split <;> simp
      · simp
  rw [check, List.mem_append, List.mem_append, or_iff_right (not_or_intro hProfile hAttempts),
    checkKind]
  cases stage.kind with
  | llm =>
    rw [checkPrompts]
    cases hasText stage.prompt? <;> cases hasText stage.promptFile? <;> simp
  | tool | human | decision => simp
  | exit => simp

end Stage

namespace Definition

variable {d : Definition} {stage : Stage}

theorem missingPrompt_mem_validate_iff (hNodup : d.stageIds.Nodup) (hStage : stage ∈ d.stages) :
    .missingPrompt stage.id ∈ d.validate ↔ stage.kind = .llm ∧
      Stage.hasText stage.prompt? = false ∧ Stage.hasText stage.promptFile? = false := by
  have hFound : .missingPrompt stage.id ∈ d.validate ↔
      ∃ other ∈ d.stages, .missingPrompt stage.id ∈ other.check d.models :=
    (mem_validate_iff (d := d)).trans List.mem_flatMap
  rw [hFound]
  constructor
  · rintro ⟨other, hOther, hCheck⟩
    obtain ⟨hId, hMissing⟩ := Stage.missingPrompt_mem_check_iff.mp hCheck
    obtain rfl := eq_of_id_eq hNodup hStage hOther hId
    exact hMissing
  · exact fun h => ⟨stage, hStage, Stage.missingPrompt_mem_check_iff.mpr ⟨rfl, h⟩⟩

end Definition

namespace Definition

theorem notMem_givenText {key name : String} (h : key ≠ name) (text : Option String) :
    key ∉ (givenText name text).map Prod.fst := by
  unfold givenText
  split <;> simp [h]

/-- The goal of a graph is a text, empty where the definition has none. -/
theorem attr_goal_graphAttrs (d : Definition) :
    (d.graphAttrs.attr "goal").orElse (.str "") = .str (d.goal.getD "") := by
  have hLast : d.graphAttrs =
      (Table.ofList (("label", .str d.name) :: givenText "goal" d.goal)).insertAll
        (givenText "description" d.description ++
          givenText "model_stylesheet" (some (Models.stylesheet d.models d.stylesheet))) := by
    simp [graphAttrs, Table.ofList, Table.insertAll, List.foldl_append]
  have hOther : "goal" ∉ (givenText "description" d.description ++ givenText "model_stylesheet"
      (some (Models.stylesheet d.models d.stylesheet))).map Prod.fst := by
    rw [List.map_append, List.mem_append, not_or]
    exact ⟨notMem_givenText (by decide) _, notMem_givenText (by decide) _⟩
  rw [hLast, Table.attr, Table.get?_insertAll_of_notMem hOther]
  unfold givenText
  split
  · next hNone => rw [hNone]; rfl
  · next hEmpty => rw [hEmpty]; rfl
  · next text hNonempty hText =>
    have hGiven : text ≠ "" := hNonempty
    rw [hText]
    simp [Table.ofList, Value.orElse, Value.isGiven, hGiven]

end Definition

namespace Graph

/-- A text with the goal in the place of every mark. Another value is no prompt. -/
def filledIn (goal : String) : Value → Except PromptError String
  | .str text => .ok (goal.intercalate (pieces goalMark text))
  | _ => .error .promptNotText

variable {goal text : String} {g : Graph} {node : Node} {v : Value}

theorem filledIn_of_not_occurs (h : ¬ Occurs goalMark text) :
    filledIn goal (.str text) = .ok text := by
  rw [filledIn, pieces, piecesFrom_of_not_infix (by decide) h, List.map_singleton,
    String.intercalate_singleton, String.ofList_toList]

theorem filledIn_of_allBlank (h : allBlank text = true) : filledIn goal (.str text) = .ok text := by
  refine filledIn_of_not_occurs fun hOccurs => ?_
  have hMark : '$' ∈ text.toList := hOccurs.subset (by decide)
  have hBlank := List.all_eq_true.mp h '$' hMark
  cases hBlank

/-- The values that a source can give are no statuses. -/
theorem promptOf_eq (hGoal : g.goal = .str goal) (hSource : promptSource node = v)
    (hScanned : v.IsScanned) : g.promptOf node = filledIn goal v := by
  rw [promptOf, hSource, hGoal]
  cases v with
  | str text => exact congrArg Except.ok (replace_eq_intercalate _ _ _)
  | bool | int | float => rfl
  | none | status =>
    obtain hWritable | ⟨x, hx⟩ := hScanned
    · cases hWritable
    · cases hx

end Graph

section Compile

variable {source : String} {c : Compiled} {stage : Stage} {node : Graph.Node}

theorem Stage.isScanned_attr (h : stage.IsRegular) {name : String}
    (hGiven : (stage.attrs.attr name).isGiven = true) : (stage.attrs.attr name).IsScanned := by
  cases hGet : stage.attrs.get? name with
  | none =>
    rw [Table.attr, hGet] at hGiven
    cases hGiven
  | some v =>
    rw [Table.attr, hGet]
    exact (h.attrs _ (Table.get?_eq_some_iff.mp hGet)).2

theorem Stage.isScanned_promptValue (h : stage.IsRegular) : stage.promptValue.IsScanned := by
  have hId : (Value.str stage.id).IsScanned := Or.inl trivial
  rw [promptValue, Value.orElse_assoc]
  exact (hId.orElse (isScanned_attr h)).orElse (isScanned_attr h)

theorem Stage.label_of_isStyled (hId : node.id = stage.id) (hNode : node.IsStyled stage.nodeAttrs) :
    node.label = (stage.attrs.attr "label").orElse (.str stage.id) := by
  rw [Graph.Node.label, Table.attr, hNode _ (by decide), stage.get?_label_nodeAttrs, hId,
    Table.attr]
  cases stage.attrs.get? "label" with
  | some v => rfl
  | none =>
    simp [Value.orElse, Value.isGiven]

theorem Stage.promptSource_of_isStyled (hId : node.id = stage.id)
    (hNode : node.IsStyled stage.nodeAttrs) : Graph.promptSource node = stage.promptValue := by
  have hPrompt : ∀ v : Value, node.prompt.orElse v = (stage.attrs.attr "prompt").orElse v := by
    intro v
    rw [Graph.Node.prompt, Graph.Node.attrOr, hNode _ (by decide),
      get?_nodeAttrs_of_kept (by decide) (by decide), Table.attr]
    cases stage.attrs.get? "prompt" <;> rfl
  have hLabel := label_of_isStyled hId hNode
  rw [Graph.Node.label] at hLabel
  rw [Graph.promptSource, Value.orElse_assoc, hLabel, hPrompt, promptValue, Value.orElse_assoc]

theorem goal_of_compile (h : compile source = .ok c) :
    c.graph.goal = .str (c.definition.goal.getD "") := by
  obtain ⟨g, hGraph, hStyled⟩ := exists_toGraph_of_compile h
  rw [Graph.goal, hStyled, Graph.attrs_styled, Definition.attrs_of_toGraph hGraph,
    Definition.attr_goal_graphAttrs]

theorem promptOf_of_isStyled (h : compile source = .ok c) (hStage : stage ∈ c.definition.stages)
    (hId : node.id = stage.id) (hNode : node.IsStyled stage.nodeAttrs) :
    c.graph.promptOf node = Graph.filledIn (c.definition.goal.getD "") stage.promptValue := by
  obtain ⟨hParse, -⟩ := parse_and_warnings_of_compile h
  have hRegular := (Definition.isRegular_parse hParse).stages stage hStage
  exact Graph.promptOf_eq (goal_of_compile h) (Stage.promptSource_of_isStyled hId hNode)
    (Stage.isScanned_promptValue hRegular)

theorem promptOf_of_isStart (h : compile source = .ok c)
    (hNode : node.IsStyled Definition.startAttrs) : c.graph.promptOf node = .ok "Start" := by
  have hStart : Graph.promptSource node = .str "Start" := by
    rw [Graph.promptSource, Graph.Node.prompt, Graph.Node.attrOr, Table.attr, hNode _ (by decide),
      hNode _ (by decide)]
    rfl
  rw [Graph.promptOf_eq (goal_of_compile h) hStart (Or.inl trivial)]
  exact Graph.filledIn_of_not_occurs (by decide)

/-- What a stage that is said to have no prompt prompts with, by what it has in its place. -/
theorem promptOf_of_missingPrompt (h : compile source = .ok c)
    (hStage : stage ∈ c.definition.stages) (hId : node.id = stage.id)
    (hNode : node.IsStyled stage.nodeAttrs)
    (hMissing : Stage.hasText stage.prompt? = false) :
    ((stage.attrs.attr "prompt").isGiven = false ∧
      c.graph.promptOf node = Graph.filledIn (c.definition.goal.getD "") node.label) ∨
    (∃ text, stage.attrs.attr "prompt" = .str text ∧ text ≠ "" ∧ allBlank text = true ∧
      c.graph.promptOf node = .ok text) ∨
    ((stage.attrs.attr "prompt").isGiven = true ∧ (stage.attrs.attr "prompt").string? = none ∧
      c.graph.promptOf node = .error .promptNotText) := by
  have hPrompt := promptOf_of_isStyled h hStage hId hNode
  rw [Stage.promptValue, Value.orElse_assoc, ← Stage.label_of_isStyled hId hNode] at hPrompt
  rw [Stage.prompt?, Stage.textAttr?] at hMissing
  cases hGiven : (stage.attrs.attr "prompt").isGiven with
  | false =>
    rw [Value.orElse, hGiven] at hPrompt
    exact Or.inl ⟨rfl, hPrompt⟩
  | true =>
    obtain ⟨hParse, -⟩ := parse_and_warnings_of_compile h
    have hRegular := (Definition.isRegular_parse hParse).stages stage hStage
    have hScanned := Stage.isScanned_attr hRegular hGiven
    rw [Value.orElse, if_pos hGiven] at hPrompt
    refine Or.inr ?_
    -- a prompt is missing if it is blank or no text, and used as soon as it is given
    cases hValue : stage.attrs.attr "prompt" with
    | str text =>
      rw [hValue] at hPrompt hMissing hGiven
      have hBlank : allBlank text = true := by simpa [Value.string?, Stage.hasText] using hMissing
      refine Or.inl ⟨text, rfl, by simpa [Value.isGiven] using hGiven, hBlank, ?_⟩
      rw [hPrompt, Graph.filledIn_of_allBlank hBlank]
    | bool | int | float =>
      rw [hValue] at hPrompt
      exact Or.inr ⟨rfl, rfl, hPrompt⟩
    | none | status =>
      rw [hValue] at hScanned
      obtain hWritable | ⟨x, hx⟩ := hScanned
      · cases hWritable
      · cases hx

/-- The prompt of a stage is the first that is given of its prompt, label and id, if that is a text.
If it is said to have no prompt, it is its label, unless a blank or another value is in its
place. -/
theorem promptOf_compile (h : compile source = .ok c) :
    (∀ node ∈ c.graph.nodeList,
      (node.id = Graph.startId ∧ c.graph.promptOf node = .ok "Start") ∨
      ∃ stage ∈ c.definition.stages, node.id = stage.id ∧
        c.graph.promptOf node = Graph.filledIn (c.definition.goal.getD "") stage.promptValue) ∧
    ∀ stage ∈ c.definition.stages, ∃ node ∈ c.graph.nodeList, node.id = stage.id ∧
      c.graph.promptOf node = Graph.filledIn (c.definition.goal.getD "") stage.promptValue ∧
      (.missingPrompt stage.id ∈ c.warnings → stage.kind = .llm ∧
        (((stage.attrs.attr "prompt").isGiven = false ∧
          c.graph.promptOf node = Graph.filledIn (c.definition.goal.getD "") node.label) ∨
        (∃ text, stage.attrs.attr "prompt" = .str text ∧ text ≠ "" ∧ allBlank text = true ∧
          c.graph.promptOf node = .ok text) ∨
        ((stage.attrs.attr "prompt").isGiven = true ∧ (stage.attrs.attr "prompt").string? = none ∧
          c.graph.promptOf node = .error .promptNotText))) := by
  constructor
  · intro node hNode
    obtain ⟨hId, hStart⟩ | ⟨stage, hStage, hId, hStyled⟩ := start_or_exists_stage_of_node h hNode
    · exact Or.inl ⟨hId, promptOf_of_isStart h hStart⟩
    · exact Or.inr ⟨stage, hStage, hId, promptOf_of_isStyled h hStage hId hStyled⟩
  · intro stage hStage
    obtain ⟨node, hNode, hId, hStyled⟩ := exists_node_of_stage h hStage
    refine ⟨node, hNode, hId, promptOf_of_isStyled h hStage hId hStyled, fun hWarned => ?_⟩
    obtain ⟨hParse, hWarnings⟩ := parse_and_warnings_of_compile h
    have hNodup := (Definition.isRegular_parse hParse).nodup
    rw [hWarnings, Definition.missingPrompt_mem_validate_iff hNodup hStage] at hWarned
    exact ⟨hWarned.1, promptOf_of_missingPrompt h hStage hId hStyled hWarned.2.1⟩

/-- Three stages that have no prompt text: one has only a label, one a blank and one a number. -/
theorem exists_compile_of_unprompted :
    ∃ source c, compile source = .ok c ∧ c.definition.goal = some "ship" ∧
      c.definition.stages = [
        { id := "a", kind := .llm, line := 1,
          attrs := Table.ofList [("label", .str "Do: $goal, $goal")] },
        { id := "b", kind := .llm, line := 1, attrs := Table.ofList [("prompt", .str " ")] },
        { id := "d", kind := .llm, line := 1, attrs := Table.ofList [("prompt", .int 5)] },
        { id := "z", kind := .exit, line := 1 }] ∧
      c.warnings = [.missingPrompt "a", .missingPrompt "b", .missingPrompt "d"] := by
  obtain ⟨w, hw⟩ : ∃ w : Definition, w =
      { name := "w", start := "a", goal := some "ship"
        stages := [
          { id := "a", kind := .llm, line := 1,
            attrs := Table.ofList [("label", .str "Do: $goal, $goal")] },
          { id := "b", kind := .llm, line := 1, attrs := Table.ofList [("prompt", .str " ")] },
          { id := "d", kind := .llm, line := 1, attrs := Table.ofList [("prompt", .int 5)] },
          { id := "z", kind := .exit, line := 1 }]
        transitions := [⟨"a", "b", none, .none⟩, ⟨"b", "d", none, .none⟩,
          ⟨"d", "z", none, .none⟩] } := ⟨_, rfl⟩
  have hReachable : w.reachable = ["z", "d", "b", "a"] := by
    simp [hw, Definition.reachable, visit, Definition.leadsTo, Definition.stage?,
      Definition.targets, Definition.stageIds]
  have hValidate : w.validate = [.missingPrompt "a", .missingPrompt "b", .missingPrompt "d"] := by
    rw [Definition.validate, Definition.checkReachable, hReachable, hw]
    decide +kernel
  have hAccepted : w.IsAccepted := by
    rw [Definition.IsAccepted, hValidate]
    decide
  have hParse : Definition.parse ("workflow w\x7bgoal ship;start a;" ++
      "stage a kind=llm label=\"Do: $goal, $goal\";stage b kind=llm prompt=\" \";" ++
      "stage d kind=llm prompt=5;stage z kind=exit;transition from=a to=b;" ++
      "transition from=b to=d;transition from=d to=z\x7d") = .ok w := by
    rw [hw]
    decide +kernel
  obtain ⟨c, hc, hDefinition⟩ := exists_compile_of_parse hParse hAccepted
  obtain ⟨-, hWarnings⟩ := parse_and_warnings_of_compile hc
  refine ⟨_, c, hc, ?_, ?_, ?_⟩
  · rw [hDefinition, hw]
  · rw [hDefinition, hw]
  · rw [hWarnings, hDefinition, hValidate]

theorem promptOf_compile_at_unprompted :
    ∃ source c, compile source = .ok c ∧
      c.warnings = [.missingPrompt "a", .missingPrompt "b", .missingPrompt "d"] ∧
      (∃ node ∈ c.graph.nodeList, node.id = "a" ∧
        c.graph.promptOf node = .ok "Do: ship, ship") ∧
      (∃ node ∈ c.graph.nodeList, node.id = "b" ∧ c.graph.promptOf node = .ok " ") ∧
      ∃ node ∈ c.graph.nodeList, node.id = "d" ∧
        c.graph.promptOf node = .error .promptNotText := by
  obtain ⟨source, c, hc, hGoal, hStages, hWarnings⟩ := exists_compile_of_unprompted
  obtain ⟨-, hEach⟩ := promptOf_compile hc
  rw [hGoal, hStages] at hEach
  obtain ⟨first, hFirst, hFirstId, hFirstPrompt, -⟩ := hEach _ (.head _)
  obtain ⟨second, hSecond, hSecondId, hSecondPrompt, -⟩ := hEach _ (.tail _ (.head _))
  obtain ⟨third, hThird, hThirdId, hThirdPrompt, -⟩ := hEach _ (.tail _ (.tail _ (.head _)))
  refine ⟨source, c, hc, hWarnings, ⟨first, hFirst, hFirstId, ?_⟩,
    ⟨second, hSecond, hSecondId, ?_⟩, third, hThird, hThirdId, ?_⟩
  · rw [hFirstPrompt]
    decide +kernel
  · rw [hSecondPrompt]
    decide +kernel
  · rw [hThirdPrompt]
    decide +kernel

/-- A compiled graph can have a node without a prompt, and a stage whose prompt is not its label
though it is said to be. -/
theorem exists_prompt_unlike_label :
    ∃ source c, compile source = .ok c ∧
      (∃ node ∈ c.graph.nodeList, .missingPrompt node.id ∈ c.warnings ∧
        ∀ text, c.graph.promptOf node ≠ .ok text) ∧
      ∃ node ∈ c.graph.nodeList, .missingPrompt node.id ∈ c.warnings ∧
        node.label = .str "b" ∧ c.graph.promptOf node = .ok " " := by
  obtain ⟨source, c, hc, hGoal, hStages, hWarnings⟩ := exists_compile_of_unprompted
  have hBlank := hStages ▸ List.Mem.tail _ (.head _)
  have hNumber := hStages ▸ List.Mem.tail _ (.tail _ (.head _))
  obtain ⟨second, hSecond, hSecondId, hSecondStyled⟩ := exists_node_of_stage hc hBlank
  obtain ⟨third, hThird, hThirdId, hThirdStyled⟩ := exists_node_of_stage hc hNumber
  refine ⟨source, c, hc, ⟨third, hThird, ?_, fun text hText => ?_⟩, second, hSecond, ?_, ?_, ?_⟩
  · rw [hThirdId, hWarnings]
    decide
  · rw [promptOf_of_isStyled hc hNumber hThirdId hThirdStyled] at hText
    cases hText
  · rw [hSecondId, hWarnings]
    decide
  · rw [Stage.label_of_isStyled hSecondId hSecondStyled]
    decide
  · rw [promptOf_of_isStyled hc hBlank hSecondId hSecondStyled, hGoal]
    decide +kernel

end Compile

end Workflow
