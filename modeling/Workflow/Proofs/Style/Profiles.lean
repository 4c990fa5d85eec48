import Workflow.Proofs.Compile
import Workflow.Proofs.Style.Models

/-!
# Model profiles and the nodes of stages

The profile of a stage becomes a class of its node, the models become the stylesheet of the graph,
and the cascade brings the two together. Between them is only text: the class list is split at
commas again, and the stylesheet is read again.
-/

namespace Workflow

open Workflow.Text Workflow.Style

namespace Stage

variable {stage : Stage} {key : String}

/-- The attributes of the node of a stage before its profile is added to its classes. -/
def plainAttrs (stage : Stage) : Attrs :=
  let renamed := Table.ofList (stage.attrs.entries.map fun e => (graphName e.1, e.2))
  ((renamed.insert "shape" (.str stage.kind.shape)).insertNew "label" (.str stage.id)).insertAll
    ((stage.retry.map retryAttrs).getD [])

theorem nodeAttrs_eq (stage : Stage) :
    stage.nodeAttrs = match stage.modelProfile? with
      | none | some "" => stage.plainAttrs
      | some profile => stage.plainAttrs.insert "class"
          (.str (",".intercalate (profileClasses stage.plainAttrs profile))) := rfl

/-- The names that lowering writes itself. -/
def lowered : List String :=
  "shape" :: "label" :: retryNames

theorem get?_plainAttrs_eq_none (hLowered : key ∉ lowered)
    (hFree : ∀ entry ∈ stage.attrs.entries, graphName entry.1 ≠ key) :
    stage.plainAttrs.get? key = none := by
  rw [lowered, List.mem_cons, List.mem_cons, not_or, not_or] at hLowered
  have hRetry : key ∉ ((stage.retry.map retryAttrs).getD []).map Prod.fst := by
    cases stage.retry with
    | none => exact List.not_mem_nil
    | some retry => exact notMem_retryAttrs hLowered.2.2 retry
  have hRenamed : key ∉ (stage.attrs.entries.map fun e => (graphName e.1, e.2)).map Prod.fst := by
    simpa using fun name value hMem hName => hFree (name, value) hMem hName
  rw [plainAttrs, Table.get?_insertAll_of_notMem hRetry, Table.get?_insertNew_of_ne hLowered.2.1,
    Table.get?_insert, if_neg hLowered.1, Table.ofList, Table.get?_insertAll_of_notMem hRenamed,
    Table.get?_empty]

theorem get?_nodeAttrs_eq_none (hLowered : key ∉ "class" :: lowered)
    (hFree : ∀ entry ∈ stage.attrs.entries, graphName entry.1 ≠ key) :
    stage.nodeAttrs.get? key = none := by
  rw [List.mem_cons, not_or] at hLowered
  have hPlain := get?_plainAttrs_eq_none hLowered.2 hFree
  rw [nodeAttrs_eq]
  split
  · exact hPlain
  · exact hPlain
  · rw [Table.get?_insert, if_neg hLowered.1, hPlain]

theorem eq_class_of_graphName {name : String} (h : graphName name = "class") : name = "class" := by
  unfold graphName at h
  split at h
  · exact absurd h (by decide)
  · split at h
    · exact absurd h (by decide)
    · split at h
      · exact absurd h (by decide)
      · exact h

/-- Without a class of its own a stage has the classes that its profile is split into. -/
theorem classes_nodeAttrs (h : stage.attrs.get? "class" = none) (id : String) :
    (⟨id, stage.nodeAttrs⟩ : Graph.Node).classes =
      Graph.splitClasses (stage.modelProfile?.getD "") := by
  have hFree : ∀ entry ∈ stage.attrs.entries, graphName entry.1 ≠ "class" := by
    intro entry hEntry hName
    have hKey := List.mem_map_of_mem (f := Prod.fst) hEntry
    rw [eq_class_of_graphName hName] at hKey
    exact Table.notMem_keys h hKey
  have hPlain : stage.plainAttrs.attr "class" = .none := by
    rw [Table.attr, get?_plainAttrs_eq_none (by decide) hFree]
    rfl
  have hOwn : Graph.splitClasses ((stage.plainAttrs.attr "class").orElse (.str "")).text = [] := by
    rw [hPlain]
    rfl
  rw [Graph.Node.classes, nodeAttrs_eq]
  split
  · next hNone => rw [hNone]; exact hOwn
  · next hEmpty => rw [hEmpty]; exact hOwn
  · next profile hNonempty hProfile =>
    have hClasses : profileClasses stage.plainAttrs profile = [profile] := by
      simp [profileClasses, hOwn]
    have hGiven : profile ≠ "" := hNonempty
    rw [Table.attr, Table.get?_insert, if_pos rfl, hClasses, hProfile, String.intercalate_singleton]
    simp [Value.orElse, Value.isGiven, hGiven, Value.text]

theorem properties_notMem_lowered : ∀ property ∈ properties, property ∉ "class" :: lowered := by
  decide

end Stage

namespace Definition

/-- The stylesheet of a graph is that of its definition; an empty one is left out. -/
theorem string?_model_stylesheet (d : Definition) :
    ((d.graphAttrs.attr "model_stylesheet").string?).getD "" =
      Models.stylesheet d.models d.stylesheet := by
  have hOther : "model_stylesheet" ∉ (("label", Value.str d.name) :: givenText "goal" d.goal ++
      givenText "description" d.description).map Prod.fst := by
    have hName (name : String) (text : Option String) (h : name ≠ "model_stylesheet") :
        "model_stylesheet" ∉ (givenText name text).map Prod.fst := by
      unfold givenText
      split <;> simp [Ne.symm h]
    simp [hName]
  rw [graphAttrs]
  generalize Models.stylesheet d.models d.stylesheet = sheet
  by_cases hEmpty : sheet = ""
  · have hNothing : givenText "model_stylesheet" (some sheet) = [] := by rw [hEmpty]; rfl
    rw [hNothing, List.append_nil, Table.attr, Table.ofList, Table.get?_insertAll_of_notMem hOther,
      hEmpty]
    rfl
  · have hGiven : givenText "model_stylesheet" (some sheet) =
        [("model_stylesheet", .str sheet)] := by simp [givenText]
    rw [hGiven, Table.attr, Table.ofList_append_singleton, Table.get?_insert, if_pos rfl]
    rfl

end Definition

namespace Graph

theorem styleNode_parse_empty (node : Node) : styleNode (Style.parse "") node = node.attrs := by
  have hRules : Style.parse "" = [] := by
    rw [Style.parse, String.toList_empty, blocks_eq_nil (List.forall_mem_nil _)]
    rfl
  rw [hRules]
  rfl

/-- Every node gets what the stylesheet says, whether there is one or not. -/
theorem get?_nodes_styled_of_text {g : Graph} {source : String}
    (h : ((g.attrs.attr "model_stylesheet").string?).getD "" = source) (id : String) :
    g.styled.nodes.get? id =
      (g.nodes.get? id).map fun attrs => styleNode (Style.parse source) ⟨id, attrs⟩ := by
  cases hSource : g.styleSource? with
  | some text =>
    obtain ⟨hText, -⟩ := styleSource?_eq_some_iff.mp hSource
    rw [← h, hText]
    exact get?_nodes_styled hSource
  | none =>
    have hEmpty : source = "" := by
      by_contra hNonempty
      cases hText : (g.attrs.attr "model_stylesheet").string? with
      | none => exact hNonempty (by rw [← h, hText]; rfl)
      | some text =>
        rw [hText, Option.getD_some] at h
        cases hSource.symm.trans (styleSource?_eq_some_iff.mpr ⟨hText, h ▸ hNonempty⟩)
    have hStyled : g.styled = g := by rw [styled, hSource]
    simp only [hStyled, hEmpty, styleNode_parse_empty, Option.map_id']

end Graph

section Compile

variable {source property : String} {c : Compiled} {m : Models} {stage : Stage}

/-- A stage that does not set a property itself gets for it what the stylesheet has for its node. -/
theorem exists_property_of_compile (h : compile source = .ok c)
    (hStage : stage ∈ c.definition.stages) (hProperty : property ∈ properties)
    (hFree : ∀ entry ∈ stage.attrs.entries, Stage.graphName entry.1 ≠ property) :
    ∃ attrs, c.graph.nodes.get? stage.id = some attrs ∧
      attrs.get? property = (last? (Rule.value? ⟨stage.id, stage.nodeAttrs⟩ property)
        (Style.parse
          (Models.stylesheet c.definition.models c.definition.stylesheet))).map .str := by
  have hNode := Stage.get?_nodeAttrs_eq_none (Stage.properties_notMem_lowered _ hProperty) hFree
  have hNone : stage.nodeAttrs.attr property = .none := by
    rw [Table.attr, hNode]
    rfl
  obtain ⟨g, hGraph, hStyled⟩ := exists_toGraph_of_compile h
  have hText := Definition.string?_model_stylesheet c.definition
  rw [← Definition.attrs_of_toGraph hGraph] at hText
  generalize Models.stylesheet c.definition.models c.definition.stylesheet = sheet at hText ⊢
  refine ⟨styleNode (Style.parse sheet) ⟨stage.id, stage.nodeAttrs⟩, ?_, ?_⟩
  · rw [hStyled, Graph.get?_nodes_styled_of_text hText, Definition.nodes_of_toGraph hGraph,
      Definition.get?_nodes (Definition.isAccepted_of_toGraph hGraph).nodup hStage]
    rfl
  · rw [get?_styleNode_of_free _ ⟨stage.id, stage.nodeAttrs⟩ hProperty hNone, hNode, Option.or_none]

/-- What the models have for a property of a stage: what its profile gives, or else the default. -/
def Models.declared? (m : Models) (stage : Stage) (property : String) : Option String :=
  ((stage.modelProfile?.bind m.profiles.get?).bind (·.value? property)).or (m.default? property)

/-- What a stage gets for a property is never a text that a declaration cannot give. If no brace of
the models is misplaced and no value for the classes of the stage ends a declaration, it is the
trimmed value of the last profile that a class names, and otherwise the default. This is what the
models have for the stage if that is trimmed and the classes name, among the profiles that give the
property, the one of the stage and no other. -/
theorem property_of_profile (h : compile source = .ok c) (hModels : c.definition.models = some m)
    (hOwn : c.definition.stylesheet = none) (hStage : stage ∈ c.definition.stages)
    (hClass : stage.attrs.get? "class" = none) (hProperty : property ∈ properties)
    (hFree : ∀ entry ∈ stage.attrs.entries, Stage.graphName entry.1 ≠ property) :
    let classes := Graph.splitClasses (stage.modelProfile?.getD "")
    ∃ attrs, c.graph.nodes.get? stage.id = some attrs ∧
      (∀ value, attrs.get? property = some value →
        ∃ text, value = .str text ∧ text ≠ "" ∧ IsPlainValue text ∧ '\x7d' ∉ text.toList) ∧
      (m.IsDelimited → m.IsUncutFor classes →
        attrs.get? property =
          ((m.valueFor? classes property).or (trimmed? (m.default? property))).map .str ∧
        ((∀ entry ∈ m.profiles.entries, entry.2.value? property ≠ none →
            (trimEnd entry.1 ∈ classes ↔ stage.modelProfile? = some entry.1)) →
          (∀ value ∈ m.declared? stage property, trim value = value) →
          attrs.get? property = (m.declared? stage property).map .str)) := by
  intro classes
  obtain ⟨attrs, hAttrs, hGet⟩ := exists_property_of_compile h hStage hProperty hFree
  rw [hModels, hOwn] at hGet
  refine ⟨attrs, hAttrs, fun value hValue => ?_, fun hDelimited hUncut => ?_⟩
  · obtain ⟨text, hLast, rfl⟩ := Option.map_eq_some_iff.mp (hGet ▸ hValue)
    exact ⟨text, rfl, of_last?_parse hLast⟩
  · have hClasses : (⟨stage.id, stage.nodeAttrs⟩ : Graph.Node).classes = classes :=
      Stage.classes_nodeAttrs hClass stage.id
    rw [Models.parse_stylesheet hDelimited,
      Models.last?_readRules hProperty (hClasses.symm ▸ hUncut), hClasses] at hGet
    refine ⟨hGet, fun hNamed hTrimmed => ?_⟩
    rw [hGet, Models.valueFor?_eq hNamed, Models.trimmed?_or hTrimmed]
    rfl

/-- A source of a single exit stage compiles if nothing is wrong with the stage itself. -/
theorem exists_compile_of_exit (hKind : stage.kind = .exit) (hCheck : stage.check (some m) = [])
    (hTargets : stage.checkTargets [stage.id] = [])
    (hParse : Definition.parse source =
      .ok { name := "w", start := stage.id, stages := [stage], models := some m }) :
    ∃ c, compile source = .ok c ∧ c.definition.models = some m ∧ c.definition.stylesheet = none ∧
      stage ∈ c.definition.stages := by
  obtain ⟨d, hd⟩ : ∃ d : Definition, d =
      { name := "w", start := stage.id, stages := [stage], models := some m } := ⟨_, rfl⟩
  have hReachable : d.reachable = [stage.id] := by
    simp [hd, Definition.reachable, visit, Definition.leadsTo, Definition.stage?,
      Definition.targets, Definition.stageIds, hKind]
  have hValidate : d.validate = [] := by
    rw [Definition.validate, Definition.checkReachable, hReachable, hd]
    simp [Definition.checkVersion, Definition.repeated, Definition.checkStart, Definition.stageIds,
      hCheck, hTargets, hKind]
  obtain ⟨c, hc, hDefinition⟩ :=
    exists_compile_of_parse (hd ▸ hParse) (Definition.isAccepted_of_validate_eq_nil hValidate)
  rw [hd] at hDefinition
  have hMem : stage ∈ c.definition.stages := by
    rw [hDefinition]
    exact List.mem_singleton_self stage
  exact ⟨c, hc, by rw [hDefinition], by rw [hDefinition], hMem⟩

/-- Two profiles and a default; a stage that uses one profile and has a provider of its own. -/
theorem property_of_profile_at_two_profiles :
    ∃ c m stage attrs, compile ("workflow w\x7bmodels\x7bdefault base;" ++
        "profile fast model=small reasoning_effort=low;profile deep model=large\x7d;start s;" ++
        "stage s kind=exit model_profile=fast provider=own\x7d") = .ok c ∧
      c.definition.models = some m ∧ c.definition.stylesheet = none ∧ stage ∈ c.definition.stages ∧
      stage.attrs.get? "class" = none ∧
      (∀ entry ∈ stage.attrs.entries, Stage.graphName entry.1 ≠ "llm_model") ∧
      m.profiles.keys = ["fast", "deep"] ∧ m.IsDelimited ∧
      c.graph.nodes.get? stage.id = some attrs ∧ attrs.get? "llm_model" = some (.str "small") := by
  obtain ⟨m, hm⟩ : ∃ m : Models, m =
      { default := some "base", profiles := Table.ofList [
        ("fast", { model := some "small", reasoningEffort := some "low" }),
        ("deep", { model := some "large" })] } := ⟨_, rfl⟩
  obtain ⟨stage, hStage⟩ : ∃ stage : Stage, stage =
      { id := "s", kind := .exit, line := 1,
        attrs := Table.ofList [("model_profile", .str "fast"), ("provider", .str "own")] } :=
    ⟨_, rfl⟩
  obtain ⟨c, hc, hModels, hOwn, hMem⟩ :
      ∃ c, compile ("workflow w\x7bmodels\x7bdefault base;" ++
          "profile fast model=small reasoning_effort=low;profile deep model=large\x7d;start s;" ++
          "stage s kind=exit model_profile=fast provider=own\x7d") = .ok c ∧
        c.definition.models = some m ∧ c.definition.stylesheet = none ∧
        stage ∈ c.definition.stages := by
    rw [hStage, hm]
    exact exists_compile_of_exit rfl (by decide) (by decide) (by decide +kernel)
  have hClass : stage.attrs.get? "class" = none := by rw [hStage]; rfl
  have hFree : ∀ entry ∈ stage.attrs.entries, Stage.graphName entry.1 ≠ "llm_model" := by
    rw [hStage]
    decide
  obtain ⟨attrs, hAttrs, -, hLaw⟩ :=
    property_of_profile hc hModels hOwn hMem hClass (by decide) hFree
  have hDelimited : m.IsDelimited := by
    rw [hm]
    exact ⟨by decide, by decide, by decide⟩
  have hUncut : m.IsUncutFor (Graph.splitClasses (stage.modelProfile?.getD "")) := by
    rw [hm, hStage]
    exact ⟨by decide +kernel, by decide +kernel⟩
  have hNamed : ∀ entry ∈ m.profiles.entries, entry.2.value? "llm_model" ≠ none →
      (trimEnd entry.1 ∈ Graph.splitClasses (stage.modelProfile?.getD "") ↔
        stage.modelProfile? = some entry.1) := by
    rw [hm, hStage]
    decide +kernel
  have hDeclared : m.declared? stage "llm_model" = some "small" := by
    rw [hm, hStage]
    rfl
  have hTrimmed : ∀ value ∈ m.declared? stage "llm_model", trim value = value := by
    rw [hDeclared]
    decide
  refine ⟨c, m, stage, attrs, hc, hModels, hOwn, hMem, hClass, hFree, by rw [hm]; rfl, hDelimited,
    hAttrs, ?_⟩
  rw [(hLaw hDelimited hUncut).2 hNamed hTrimmed, hDeclared]
  rfl

/-- A profile whose name holds a comma is no class of the stage that uses it. -/
theorem exists_profile_not_reaching :
    ∃ c m stage attrs, compile ("workflow w\x7bmodels\x7bdefault base;" ++
        "profile \"a,b\" model=m\x7d;start s;stage s kind=exit model_profile=\"a,b\"\x7d") = .ok c ∧
      c.definition.models = some m ∧ c.definition.stylesheet = none ∧ stage ∈ c.definition.stages ∧
      stage.attrs.get? "class" = none ∧
      (∀ entry ∈ stage.attrs.entries, Stage.graphName entry.1 ≠ "llm_model") ∧
      m.declared? stage "llm_model" = some "m" ∧
      c.graph.nodes.get? stage.id = some attrs ∧ attrs.get? "llm_model" = some (.str "base") := by
  obtain ⟨m, hm⟩ : ∃ m : Models, m =
      { default := some "base", profiles := Table.ofList [("a,b", { model := some "m" })] } :=
    ⟨_, rfl⟩
  obtain ⟨stage, hStage⟩ : ∃ stage : Stage, stage =
      { id := "s", kind := .exit, line := 1,
        attrs := Table.ofList [("model_profile", .str "a,b")] } := ⟨_, rfl⟩
  obtain ⟨c, hc, hModels, hOwn, hMem⟩ :
      ∃ c, compile ("workflow w\x7bmodels\x7bdefault base;" ++
          "profile \"a,b\" model=m\x7d;start s;stage s kind=exit model_profile=\"a,b\"\x7d") =
            .ok c ∧
        c.definition.models = some m ∧ c.definition.stylesheet = none ∧
        stage ∈ c.definition.stages := by
    rw [hStage, hm]
    exact exists_compile_of_exit rfl (by decide) (by decide) (by decide +kernel)
  have hFree : ∀ entry ∈ stage.attrs.entries, Stage.graphName entry.1 ≠ "llm_model" := by
    rw [hStage]
    decide
  obtain ⟨attrs, hAttrs, hGet⟩ := exists_property_of_compile hc hMem (by decide) hFree
  refine ⟨c, m, stage, attrs, hc, hModels, hOwn, hMem, by rw [hStage]; rfl, hFree,
    by rw [hm, hStage]; rfl, hAttrs, ?_⟩
  rw [hGet, hModels, hOwn, hm, hStage]
  decide +kernel

end Compile

end Workflow
