import Workflow.Question
import Workflow.Proofs.Compile
import Workflow.Proofs.Lowering.Edges
import Workflow.Proofs.Question.Key

/-!
# Answers and choices

The question of a human stage offers its choices in order, and an answer with the key of a choice
leads along the edge of that choice alone, exactly if all keys can be answered: they are readable,
are no words for a missing answer, and no key is replaced by a shortcut for its label.
-/

namespace Workflow

open Workflow.Text

theorem upperChar_ne_nil (c : Char) : upperChar c ≠ [] := by
  have hExpansions : ∀ entry ∈ caseExpansions, entry.2 ≠ [] := by decide
  unfold upperChar
  split
  · simp
  · split
    · rename_i codes hCodes
      obtain ⟨before, after, hMem, -⟩ := List.lookup_eq_some_iff.mp hCodes
      have hSome := hExpansions (c.toNat, codes) (by rw [hMem]; simp)
      simpa using hSome
    · split <;> simp

theorem acceleratorKey_eq_empty_iff {label : String} : acceleratorKey label = "" ↔ label = "" := by
  constructor
  · intro h
    by_contra hLabel
    obtain ⟨c, cs, hChars⟩ : ∃ c cs, label.toList = c :: cs :=
      List.exists_cons_of_ne_nil (by simpa using hLabel)
    have hPlain : String.ofList ((label.toList.take 1).flatMap upperChar) ≠ "" := by
      simp [hChars, upperChar_ne_nil]
    have hEither : ∀ (marked : Bool) (k : Char), (if marked then String.singleton k
        else String.ofList ((label.toList.take 1).flatMap upperChar)) ≠ "" := by
      intro marked k
      cases marked
      · exact hPlain
      · simp
    unfold acceleratorKey at h
    split at h
    · exact hEither _ _ h
    · exact hEither _ _ h
    · exact hEither _ _ h
    · exact hPlain h
  · rintro rfl
    rfl

namespace Choice

/-- The label under which a choice is offered. -/
def shownLabel (choice : Choice) : String :=
  if choice.label = "" then choice.target else choice.label

/-- The key under which a choice is offered. -/
def shownKey (choice : Choice) : String :=
  let key := (Question.keyOf? ("preferred_label=" ++ choice.key)).getD ""
  if key = "" then acceleratorKey choice.shownLabel else key

structure IsAnswerable (choice : Choice) : Prop where
  readable : IsReadableKey choice.key
  not_timeout : choice.key ≠ Answer.timeout
  not_skipped : choice.key ≠ Answer.skipped
  unlabelled : choice.key = "" → choice.label = "" ∧ choice.target = ""

theorem isAnswerable_iff {choice : Choice} : choice.IsAnswerable ↔
    IsReadableKey choice.key ∧ choice.key ≠ Answer.timeout ∧ choice.key ≠ Answer.skipped ∧
      (choice.key = "" → choice.label = "" ∧ choice.target = "") :=
  ⟨fun ⟨h₁, h₂, h₃, h₄⟩ => ⟨h₁, h₂, h₃, h₄⟩, fun ⟨h₁, h₂, h₃, h₄⟩ => ⟨h₁, h₂, h₃, h₄⟩⟩

instance (choice : Choice) : Decidable choice.IsAnswerable :=
  decidable_of_iff' _ isAnswerable_iff

end Choice

namespace Definition

theorem condition_choiceEdge (stage : Stage) (choice : Choice) :
    (choiceEdge stage choice).condition = .str ("preferred_label=" ++ choice.key) := by
  have hAttr : (choiceEdge stage choice).attrs.attr "condition" =
      .str ("preferred_label=" ++ choice.key) := by
    simp [choiceEdge, Table.ofList, Table.attr]
  exact Graph.Edge.condition_eq hAttr

theorem label_choiceEdge (stage : Stage) (choice : Choice) :
    (choiceEdge stage choice).label = .str choice.label := by
  have hAttr : (choiceEdge stage choice).attrs.attr "label" = .str choice.label := by
    simp [choiceEdge, Table.ofList, Table.attr]
  rw [Graph.Edge.label, hAttr, Value.orElse]
  by_cases h : choice.label = "" <;> simp [Value.isGiven, h]

end Definition

namespace Question

theorem optionOf_choiceEdge (stage : Stage) (choice : Choice) :
    optionOf (Definition.choiceEdge stage choice) =
      .ok ⟨choice.shownKey, .str choice.shownLabel⟩ := by
  have hLabel : (Value.str choice.label).orElse (.str choice.target) = .str choice.shownLabel := by
    by_cases h : choice.label = "" <;> simp [Value.orElse, Value.isGiven, Choice.shownLabel, h]
  have hTarget : (Definition.choiceEdge stage choice).target = choice.target := rfl
  simp only [optionOf, Definition.label_choiceEdge, Definition.condition_choiceEdge, hTarget, hLabel,
    Value.string?]
  split
  · rename_i hKey
    simp [Choice.shownKey, hKey]
  · rename_i hKey
    simp [Choice.shownKey, hKey]
  · rename_i key hSome hKey
    have hKeep : key ≠ "" := hSome
    simp [Choice.shownKey, hKey, hKeep]

/-- The options of a question for choices. -/
def shown (choices : List Choice) : List QuestionOption :=
  choices.map fun choice => ⟨choice.shownKey, .str choice.shownLabel⟩

theorem map_key_shown (choices : List Choice) :
    (shown choices).map (·.key) = choices.map Choice.shownKey := by
  simp only [shown, List.map_map, Function.comp_def]

theorem exists_ofNode_eq_ok {g : Graph} {node : Graph.Node} {stage : Stage}
    (hEdges : g.edgesFrom node.id = stage.choices.map (Definition.choiceEdge stage))
    (hSome : stage.choices ≠ []) :
    ∃ q, ofNode g node = .ok q ∧ q.options = shown stage.choices := by
  have hOptions : (stage.choices.map (Definition.choiceEdge stage)).mapM optionOf =
      .ok (shown stage.choices) := by
    rw [Except.mapM_eq_ok_iff_forall₂, shown, List.forall₂_map_left_iff, List.forall₂_map_right_iff,
      List.forall₂_same]
    intro choice _
    exact optionOf_choiceEdge stage choice
  have hFull : (stage.choices.map (Definition.choiceEdge stage)).isEmpty = false := by
    simpa using hSome
  simp only [ofNode, hEdges, hFull, hOptions]
  exact ⟨_, rfl, rfl⟩

theorem preferredLabel_outcome {q : Question} {key : String} (hTimeout : key ≠ Answer.timeout)
    (hSkipped : key ≠ Answer.skipped) (hMem : key ∈ q.options.map (·.key)) :
    (q.outcome { value := key }).preferredLabel.getD "" = key := by
  cases hFound : q.options.find? (·.key == key) with
  | none =>
    obtain ⟨option, hOption, hKey⟩ := List.mem_map.mp hMem
    have hNone := List.find?_eq_none.mp hFound option hOption
    simp [hKey] at hNone
  | some option =>
    have hKey : option.key = key := by simpa using List.find?_some hFound
    simp [outcome, hTimeout, hSkipped, hFound, chosen, hKey]

theorem keyOf?_of_readable {key : String} (h : IsReadableKey key) :
    keyOf? ("preferred_label=" ++ key) = some key := by
  rw [keyOf?, clauses_key_iff.mpr h]
  rfl

end Question

namespace Choice

theorem shownLabel_eq_empty_iff {choice : Choice} :
    choice.shownLabel = "" ↔ choice.label = "" ∧ choice.target = "" := by
  unfold shownLabel
  split <;> simp_all

/-- A readable key is shown unless it is empty and there is a label to take a shortcut from. -/
theorem shownKey_eq_key_iff {choice : Choice} (h : IsReadableKey choice.key) :
    choice.shownKey = choice.key ↔
      (choice.key = "" → choice.label = "" ∧ choice.target = "") := by
  rw [← shownLabel_eq_empty_iff, shownKey, Question.keyOf?_of_readable h]
  by_cases hKey : choice.key = ""
  · simp [hKey, acceleratorKey_eq_empty_iff]
  · simp [hKey]

end Choice

/-- The edges out of a node whose conditions hold after an outcome. -/
def Graph.openEdges (g : Graph) (id : String) (outcome : Outcome) (context : Context) :
    List Graph.Edge :=
  (g.edgesFrom id).filter fun edge =>
    context.satisfies outcome (edge.condition.string?.getD "")

theorem satisfies_choiceEdge {choice : Choice} (h : IsReadableKey choice.key) (stage : Stage)
    {outcome : Outcome} {key : String} (hLabel : outcome.preferredLabel.getD "" = key)
    (context : Context) :
    context.satisfies outcome ((Definition.choiceEdge stage choice).condition.string?.getD "") =
      (choice.key == key) := by
  rw [Definition.condition_choiceEdge, Value.string?, Option.getD_some, Context.satisfies,
    Condition.holds, clauses_key_iff.mpr h, List.all_cons, List.all_nil, Bool.and_true,
    holds_keyClause hLabel, BEq.comm]

section Stages

variable {g : Graph} {stage : Stage} {outcome : Outcome}

/-- Where all keys are readable, the open edges are those of the choices with the preferred key. -/
theorem openEdges_of_readable
    (hEdges : g.edgesFrom stage.id = stage.choices.map (Definition.choiceEdge stage))
    (hReadable : ∀ choice ∈ stage.choices, IsReadableKey choice.key) {key : String}
    (hLabel : outcome.preferredLabel.getD "" = key) (context : Context) :
    g.openEdges stage.id outcome context =
      (stage.choices.filter (·.key == key)).map (Definition.choiceEdge stage) := by
  have hKept : stage.choices.filter ((fun edge : Graph.Edge => context.satisfies outcome
      (edge.condition.string?.getD "")) ∘ Definition.choiceEdge stage) =
        stage.choices.filter (·.key == key) := by
    apply List.filter_congr
    intro choice hChoice
    rw [Function.comp_apply]
    exact satisfies_choiceEdge (hReadable choice hChoice) stage hLabel context
  rw [Graph.openEdges, hEdges, List.filter_map, hKept]

variable {q : Question}

/-- If every answer opens the edge of its choice, every key can be answered. -/
theorem isAnswerable_of_openEdges (hOptions : q.options = Question.shown stage.choices)
    (hShown : q.options.map (·.key) = stage.choices.map (·.key)) {choice : Choice}
    (hChoice : choice ∈ stage.choices)
    (hOpen : ∀ context, Definition.choiceEdge stage choice ∈
      g.openEdges stage.id (q.outcome { value := choice.key }) context) :
    choice.IsAnswerable := by
  have hHolds : ∀ context : Context, context.satisfies (q.outcome { value := choice.key })
      ("preferred_label=" ++ choice.key) = true := by
    intro context
    have hMem := (List.mem_filter.mp (hOpen context)).2
    rwa [Definition.condition_choiceEdge] at hMem
  have hReserved : ∀ {word : String}, IsReadableKey word → word ≠ "" →
      (q.outcome { value := word }).preferredLabel = none → choice.key ≠ word := by
    rintro word hReadable hSome hNone rfl
    have hFirst := hHolds {}
    rw [Context.satisfies, Condition.holds, clauses_key_iff.mpr hReadable, List.all_cons,
      holds_keyClause (congrArg (·.getD "") hNone), List.all_nil, Bool.and_true, beq_iff_eq] at hFirst
    exact hSome hFirst.symm
  have hTimeout : choice.key ≠ Answer.timeout := by
    refine hReserved (by decide +kernel) (by decide) ?_
    rw [Question.outcome, if_pos rfl]
    rfl
  have hSkipped : choice.key ≠ Answer.skipped := by
    refine hReserved (by decide +kernel) (by decide) ?_
    rw [Question.outcome, if_neg (by decide), if_pos rfl]
    rfl
  have hMem : choice.key ∈ q.options.map (·.key) := by
    rw [hShown]
    exact List.mem_map_of_mem hChoice
  have hLabel := Question.preferredLabel_outcome hTimeout hSkipped hMem
  have hReadable : IsReadableKey choice.key := by
    rw [← forall_satisfies_iff hLabel]
    exact hHolds
  refine ⟨hReadable, hTimeout, hSkipped, (Choice.shownKey_eq_key_iff hReadable).mp ?_⟩
  rw [hOptions, Question.map_key_shown] at hShown
  exact List.map_inj_left.mp hShown choice hChoice

theorem openEdges_of_isAnswerable
    (hEdges : g.edgesFrom stage.id = stage.choices.map (Definition.choiceEdge stage))
    (hShown : q.options.map (·.key) = stage.choices.map (·.key))
    (hKeys : (stage.choices.map (·.key)).Nodup)
    (hAll : ∀ choice ∈ stage.choices, choice.IsAnswerable) {choice : Choice}
    (hChoice : choice ∈ stage.choices) (context : Context) :
    g.openEdges stage.id (q.outcome { value := choice.key }) context =
      [Definition.choiceEdge stage choice] := by
  have hAnswerable := hAll choice hChoice
  have hMem : choice.key ∈ q.options.map (·.key) := by
    rw [hShown]
    exact List.mem_map_of_mem hChoice
  have hLabel := Question.preferredLabel_outcome hAnswerable.not_timeout hAnswerable.not_skipped hMem
  rw [openEdges_of_readable hEdges (fun other hOther => (hAll other hOther).readable)
    hLabel context, filter_key_eq_singleton hKeys hChoice]
  rfl

theorem map_shownKey_of_isAnswerable {choices : List Choice}
    (hAll : ∀ choice ∈ choices, choice.IsAnswerable) :
    choices.map Choice.shownKey = choices.map (·.key) := by
  apply List.map_congr_left
  intro choice hChoice
  have hAnswerable := hAll choice hChoice
  exact (Choice.shownKey_eq_key_iff hAnswerable.readable).mpr hAnswerable.unlabelled

end Stages

/-- What a compiled human stage asks, and which edges leave it. -/
theorem exists_question_of_compile {source : String} {c : Compiled} (h : compile source = .ok c)
    {stage : Stage} (hStage : stage ∈ c.definition.stages) (hHuman : stage.kind = .human)
    (hId : stage.id ≠ Graph.startId) (hSome : stage.choices ≠ []) :
    c.graph.edgesFrom stage.id = stage.choices.map (Definition.choiceEdge stage) ∧
    ∃ node q, c.graph.node? stage.id = some node ∧ Question.ofNode c.graph node = .ok q ∧
      q.options = Question.shown stage.choices := by
  obtain ⟨g, hGraph, hStyled⟩ := exists_toGraph_of_compile h
  have hLinked := (Definition.isAccepted_of_toGraph hGraph).isLinked
  have hEdges : c.graph.edgesFrom stage.id =
      stage.choices.map (Definition.choiceEdge stage) := by
    obtain ⟨between, own, hParts⟩ := Definition.exists_edgeParts hGraph
    have hLeaving := hParts.leavingEdges hLinked hStage hId
    rw [Definition.LeavingEdges, hHuman] at hLeaving
    rw [Graph.edgesFrom, hStyled, Graph.edges_styled]
    exact hLeaving
  have hMem : stage.id ∈ c.graph.ids := by
    rw [hStyled, Graph.ids_styled, Graph.ids, Definition.nodes_of_toGraph hGraph,
      Definition.mem_keys_nodes]
    exact Or.inr (Definition.id_mem_stageIds hStage)
  obtain ⟨node, hNode, hNodeId⟩ := Graph.exists_node?_eq_some hMem
  obtain ⟨q, hQuestion, hOptions⟩ := Question.exists_ofNode_eq_ok (hNodeId.symm ▸ hEdges) hSome
  exact ⟨hEdges, node, q, hNode, hQuestion, hOptions⟩

/-- The question of a compiled human stage offers one option for each choice. The options have the
declared keys, and in every context an answer with the key of a choice opens the edge of that
choice alone, exactly if every key can be answered. -/
theorem answers_open_choices_iff {source : String} {c : Compiled} (h : compile source = .ok c)
    {stage : Stage} (hStage : stage ∈ c.definition.stages) (hHuman : stage.kind = .human)
    (hId : stage.id ≠ Graph.startId) (hSome : stage.choices ≠ [])
    (hKeys : (stage.choices.map (·.key)).Nodup) :
    ∃ node q, c.graph.node? stage.id = some node ∧ Question.ofNode c.graph node = .ok q ∧
      q.options.length = stage.choices.length ∧
      ((q.options.map (·.key) = stage.choices.map (·.key) ∧
          ∀ choice ∈ stage.choices, ∀ context,
            c.graph.openEdges stage.id (q.outcome { value := choice.key }) context =
              [Definition.choiceEdge stage choice]) ↔
        ∀ choice ∈ stage.choices, choice.IsAnswerable) := by
  obtain ⟨hEdges, node, q, hNode, hQuestion, hOptions⟩ :=
    exists_question_of_compile h hStage hHuman hId hSome
  refine ⟨node, q, hNode, hQuestion, by rw [hOptions, Question.shown, List.length_map], ?_⟩
  constructor
  · rintro ⟨hShown, hOpen⟩ choice hChoice
    refine isAnswerable_of_openEdges (g := c.graph) hOptions hShown hChoice fun context => ?_
    rw [hOpen choice hChoice context]
    exact List.mem_singleton_self _
  · intro hAll
    have hShown : q.options.map (·.key) = stage.choices.map (·.key) := by
      rw [hOptions, Question.map_key_shown, map_shownKey_of_isAnswerable hAll]
    exact ⟨hShown, fun choice hChoice =>
      openEdges_of_isAnswerable hEdges hShown hKeys hAll hChoice⟩

theorem answers_open_choices_iff_at_two_choices :
    ∃ c stage node q, compile ("workflow w\x7bstart h;stage h kind=human prompt=p\x7b" ++
        "option yes to=y;option \"no = later\" to=z\x7d;" ++
        "stage y kind=exit;stage z kind=exit\x7d") = .ok c ∧ stage ∈ c.definition.stages ∧
      stage.choices = [⟨"yes", "yes", "y"⟩, ⟨"no = later", "no = later", "z"⟩] ∧
      c.graph.node? stage.id = some node ∧ Question.ofNode c.graph node = .ok q ∧
      q.options.map (·.key) = ["yes", "no = later"] ∧
      ∀ context, c.graph.openEdges stage.id (q.outcome { value := "no = later" }) context =
        [Definition.choiceEdge stage ⟨"no = later", "no = later", "z"⟩] := by
  obtain ⟨stage, hStage⟩ : ∃ stage : Stage, stage =
      { id := "h", kind := .human, line := 1, attrs := Table.ofList [("prompt", .str "p")],
        choices := [⟨"yes", "yes", "y"⟩, ⟨"no = later", "no = later", "z"⟩] } := ⟨_, rfl⟩
  obtain ⟨d, hd⟩ : ∃ d : Definition, d =
      { name := "w", start := "h", stages := [stage, { id := "y", kind := .exit, line := 1 },
        { id := "z", kind := .exit, line := 1 }] } := ⟨_, rfl⟩
  have hParse : Definition.parse ("workflow w\x7bstart h;stage h kind=human prompt=p\x7b" ++
      "option yes to=y;option \"no = later\" to=z\x7d;" ++
      "stage y kind=exit;stage z kind=exit\x7d") = .ok d := by
    rw [hd, hStage]
    decide +kernel
  have hReachable : d.reachable = ["z", "y", "h"] := by
    simp [hd, hStage, Definition.reachable, visit, Definition.leadsTo, Definition.stage?,
      Definition.targets, Definition.stageIds]
  have hValidate : d.validate = [] := by
    rw [Definition.validate, Definition.checkReachable, hReachable, hd, hStage]
    decide +kernel
  have hAnswerable : ∀ choice ∈ stage.choices, choice.IsAnswerable := by
    rw [hStage]
    decide +kernel
  obtain ⟨c, hc, hDefinition⟩ :=
    exists_compile_of_parse hParse (Definition.isAccepted_of_validate_eq_nil hValidate)
  have hMem : stage ∈ c.definition.stages := by
    rw [hDefinition, hd]
    exact List.mem_cons_self
  obtain ⟨node, q, hNode, hQuestion, -, hOpen⟩ := answers_open_choices_iff hc hMem
    (by rw [hStage]) (by rw [hStage]; decide) (by rw [hStage]; decide) (by rw [hStage]; decide)
  obtain ⟨hKeys, hOpen⟩ := hOpen.mpr hAnswerable
  refine ⟨c, stage, node, q, hc, hMem, by rw [hStage], hNode, hQuestion, ?_, ?_⟩
  · rw [hKeys, hStage]
    rfl
  · exact hOpen ⟨"no = later", "no = later", "z"⟩ (by rw [hStage]; decide)

theorem satisfies_eq_false {outcome : Outcome} {condition key : String} {others : List Clause}
    (hClauses : Condition.clauses condition = keyClause key :: others)
    (hLabel : outcome.preferredLabel.getD "" ≠ key) (context : Context) :
    context.satisfies outcome condition = false := by
  rw [Context.satisfies, Condition.holds, hClauses, List.all_cons, holds_keyClause rfl,
    beq_false_of_ne hLabel, Bool.false_and]

/-- A key with `&&` in it is cut there, so an answer with that key matches no option. -/
theorem exists_answer_opening_no_edge :
    ∃ c stage node q, compile ("workflow w\x7bstart h;stage h kind=human prompt=p\x7b" ++
        "option \"a && b\" label=Both to=y;option go label=Go to=z\x7d;" ++
        "stage y kind=exit;stage z kind=exit\x7d") = .ok c ∧ stage ∈ c.definition.stages ∧
      stage.kind = .human ∧
      stage.choices = [⟨"a && b", "Both", "y"⟩, ⟨"go", "Go", "z"⟩] ∧
      c.graph.node? stage.id = some node ∧ Question.ofNode c.graph node = .ok q ∧
      q.options.map (·.key) = ["a", "go"] ∧
      (q.outcome { value := "a && b" }).status = .known .fail ∧
      ∀ context, c.graph.openEdges stage.id (q.outcome { value := "a && b" }) context = [] := by
  obtain ⟨stage, hStage⟩ : ∃ stage : Stage, stage =
      { id := "h", kind := .human, line := 1, attrs := Table.ofList [("prompt", .str "p")],
        choices := [⟨"a && b", "Both", "y"⟩, ⟨"go", "Go", "z"⟩] } := ⟨_, rfl⟩
  obtain ⟨d, hd⟩ : ∃ d : Definition, d =
      { name := "w", start := "h", stages := [stage, { id := "y", kind := .exit, line := 1 },
        { id := "z", kind := .exit, line := 1 }] } := ⟨_, rfl⟩
  have hParse : Definition.parse ("workflow w\x7bstart h;stage h kind=human prompt=p\x7b" ++
      "option \"a && b\" label=Both to=y;option go label=Go to=z\x7d;" ++
      "stage y kind=exit;stage z kind=exit\x7d") = .ok d := by
    rw [hd, hStage]
    decide +kernel
  have hReachable : d.reachable = ["z", "y", "h"] := by
    simp [hd, hStage, Definition.reachable, visit, Definition.leadsTo, Definition.stage?,
      Definition.targets, Definition.stageIds]
  have hValidate : d.validate = [] := by
    rw [Definition.validate, Definition.checkReachable, hReachable, hd, hStage]
    decide +kernel
  obtain ⟨c, hc, hDefinition⟩ :=
    exists_compile_of_parse hParse (Definition.isAccepted_of_validate_eq_nil hValidate)
  have hMem : stage ∈ c.definition.stages := by
    rw [hDefinition, hd]
    exact List.mem_cons_self
  obtain ⟨hEdges, node, q, hNode, hQuestion, hOptions⟩ := exists_question_of_compile hc hMem
    (by rw [hStage]) (by rw [hStage]; decide) (by rw [hStage]; decide)
  have hShown : q.options.map (·.key) = ["a", "go"] := by
    rw [hOptions, Question.map_key_shown, hStage]
    decide +kernel
  have hNone : q.options.find? (·.key == "a && b") = none := by
    rw [hOptions, hStage]
    decide +kernel
  have hFails : q.outcome { value := "a && b" } =
      Question.failure .fail ("answer " ++ quote "a && b" ++ " matches no option") := by
    rw [Question.outcome, if_neg (by decide), if_neg (by decide), hNone]
    rfl
  have hLabel : (q.outcome { value := "a && b" }).preferredLabel.getD "" = "" := by
    rw [hFails]
    rfl
  have hFirst : ∀ choice ∈ stage.choices, ∃ key others, key ≠ "" ∧
      Condition.clauses ("preferred_label=" ++ choice.key) = keyClause key :: others := by
    rw [hStage, List.forall_mem_cons, List.forall_mem_singleton]
    exact ⟨⟨"a", [⟨"b", .differ, ""⟩], by decide, by decide +kernel⟩,
      ⟨"go", [], by decide, by decide +kernel⟩⟩
  refine ⟨c, stage, node, q, hc, hMem, by rw [hStage], by rw [hStage], hNode, hQuestion, hShown,
    by rw [hFails]; rfl, fun context => ?_⟩
  rw [Graph.openEdges, hEdges, List.filter_eq_nil_iff, List.forall_mem_map]
  intro choice hChoice
  obtain ⟨key, others, hKey, hClauses⟩ := hFirst choice hChoice
  rw [← hLabel] at hKey
  rw [Definition.condition_choiceEdge, Value.string?, Option.getD_some,
    satisfies_eq_false hClauses hKey.symm]
  exact Bool.false_ne_true

end Workflow
