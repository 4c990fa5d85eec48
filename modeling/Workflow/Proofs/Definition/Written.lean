import Workflow.Proofs.Definition.Regular

/-!
# Writing definitions

A definition is written as one workflow block. Each part of it becomes a node, and from a copy of
that node, wherever it stands, the part is read again.
-/

namespace Workflow

open Workflow.Source

namespace Source.Node

/-- The entries that have a value. -/
def present (entries : List (String × Option Value)) : List (String × Value) :=
  entries.filterMap fun e => e.2.map fun v => (e.1, v)

/-- A node that stands nowhere yet. -/
def bare (name : String) (args : List Value) (entries : List (String × Option Value))
    (children : List Node) : Node :=
  ⟨name, .unknown, args, Table.ofList (present entries), children⟩

end Source.Node

open Node

def Choice.toNode (choice : Choice) : Node :=
  bare "option" [.str choice.key]
    [("label", some (.str choice.label)), ("to", some (.str choice.target))] []

def Value.given? : Value → Option Value
  | .none => Option.none
  | v => some v

def Route.toNode (route : Route) : Node :=
  bare "route" []
    [("when", some (.str route.condition)), ("to", some (.str route.target)),
      ("priority", route.priority.given?)] []

def Retry.toNode (retry : Retry) : Node :=
  bare "retry" []
    [("max_attempts", some retry.maxAttempts), ("backoff", retry.backoff.map .str),
      ("delay", retry.delay.map .str), ("max_delay", retry.maxDelay.map .str)] []

def Stage.toNode (stage : Stage) : Node :=
  bare "stage" [.str stage.id]
    (("kind", some (.str stage.kind.word)) :: stage.attrs.entries.map fun e => (e.1, some e.2))
    (stage.choices.map Choice.toNode ++ stage.routes.map Route.toNode ++
      (stage.retry.map Retry.toNode).toList)

def Transition.toNode (t : Transition) : Node :=
  bare "transition" []
    [("from", some (.str t.source)), ("to", some (.str t.target)),
      ("when", t.condition.map .str), ("priority", t.priority.given?)] []

def Profile.toNode (name : String) (profile : Profile) : Node :=
  bare "profile" [.str name]
    [("model", profile.model.map .str), ("provider", profile.provider.map .str),
      ("reasoning_effort", profile.reasoningEffort.map .str)] []

def Source.Node.directive (name : String) (v : Value) : Node :=
  bare name [v] [] []

def Models.toNode (models : Models) : Node :=
  bare "models" [] []
    ((models.default.map fun model => directive "default" (.str model)).toList ++
      models.profiles.entries.map fun e => e.2.toNode e.1)

namespace Definition

/-- What a definition holds, by the names of its nodes. -/
def parts (d : Definition) : List (String × List Node) :=
  [("version", [directive "version" d.version]),
    ("goal", (d.goal.map fun goal => directive "goal" (.str goal)).toList),
    ("description", (d.description.map fun text => directive "description" (.str text)).toList),
    ("start", [directive "start" (.str d.start)]),
    ("models", (d.models.map Models.toNode).toList),
    ("model_stylesheet",
      (d.stylesheet.map fun text => directive "model_stylesheet" (.str text)).toList),
    ("stage", d.stages.map Stage.toNode),
    ("transition", d.transitions.map Transition.toNode)]

def toNode (d : Definition) : Node :=
  bare "workflow" [.str d.name] [] (d.parts.flatMap Prod.snd)

def written (d : Definition) : String :=
  String.ofList d.toNode.written

example : written { name := "w", start := "a", stages := [{ id := "a", kind := .exit }] } =
    "workflow \"w\" \x7b\nversion 2\nstart \"a\"\nstage \"a\" kind=\"exit\"\n\x7d\n" := by
  decide +kernel

end Definition

namespace Source.Node

/-- A node of the same tree, wherever it stands. -/
def Copies (n m : Node) : Prop :=
  n.unplaced = m.unplaced

section Copies

variable {n m : Node} {ns ms : List Node} {name : String} {args : List Value}
  {entries : List (String × Option Value)} {inner : List Node}

theorem forall₂_copies_iff : List.Forall₂ Copies ns ms ↔ ns.map unplaced = ms.map unplaced := by
  rw [← List.forall₂_eq_eq_eq, List.forall₂_map_left_iff, List.forall₂_map_right_iff]
  rfl

theorem Copies.name_eq (h : n.Copies m) : n.name = m.name :=
  (unplaced_eq_iff.mp h).1

theorem Copies.args_eq (h : n.Copies m) : n.args = m.args :=
  (unplaced_eq_iff.mp h).2.1

theorem Copies.props_eq (h : n.Copies m) : n.props = m.props :=
  (unplaced_eq_iff.mp h).2.2.1

theorem Copies.children (h : n.Copies m) : List.Forall₂ Copies n.children m.children :=
  forall₂_copies_iff.mpr (unplaced_eq_iff.mp h).2.2.2

theorem forall₂_copies_filter (h : List.Forall₂ Copies ns ms) (name : String) :
    List.Forall₂ Copies (ns.filter (·.name == name)) (ms.filter (·.name == name)) := by
  induction h with
  | nil => exact .nil
  | @cons n m ns ms hFirst hRest ih =>
    rw [List.filter_cons, List.filter_cons, hFirst.name_eq]
    split
    · exact .cons hFirst ih
    · exact ih

theorem exists_append_of_forall₂ {α β : Type} {R : α → β → Prop} {xs : List α} {ys zs : List β}
    (h : List.Forall₂ R xs (ys ++ zs)) :
    ∃ us vs, xs = us ++ vs ∧ List.Forall₂ R us ys ∧ List.Forall₂ R vs zs :=
  ⟨_, _, (List.take_append_drop ys.length xs).symm, List.forall₂_take_append _ _ _ h,
    List.forall₂_drop_append _ _ _ h⟩

theorem fst_present_sublist (entries : List (String × Option Value)) :
    ((present entries).map Prod.fst).Sublist (entries.map Prod.fst) := by
  induction entries with
  | nil => exact .slnil
  | cons e entries ih =>
    obtain ⟨key, value⟩ := e
    cases value with
    | none => exact ih.cons key
    | some v => exact ih.cons_cons key

theorem mem_present {key : String} {v : Value} :
    (key, v) ∈ present entries ↔ (key, some v) ∈ entries := by
  simp only [present, List.mem_filterMap, Option.map_eq_some_iff, Prod.mk.injEq]
  constructor
  · rintro ⟨⟨key', value⟩, hMem, v', hValue, rfl, rfl⟩
    exact hValue ▸ hMem
  · intro hMem
    exact ⟨_, hMem, v, rfl, rfl, rfl⟩

theorem get?_ofList_present (hNodup : (entries.map Prod.fst).Nodup) (key : String) :
    (Table.ofList (present entries)).get? key = (entries.lookup key).join := by
  have hPresent := hNodup.sublist (fst_present_sublist entries)
  ext v
  rw [Table.get?_eq_some_iff, Table.entries_ofList hPresent, mem_present,
    ← Table.lookup_eq_some_iff_mem hNodup, Option.join_eq_some_iff]

theorem written_infix_bare {v : Value} (key : String) (hNodup : (entries.map Prod.fst).Nodup)
    (h : (key, some v) ∈ entries) : v.written <:+: (bare name args entries inner).written := by
  have hEntry : (key, v) ∈ (Table.ofList (present entries)).entries := by
    rw [Table.entries_ofList (hNodup.sublist (fst_present_sublist entries))]
    exact mem_present.mpr h
  exact written_infix_of_mem_props hEntry

theorem Copies.get? (h : n.Copies (bare name args entries inner))
    (hNodup : (entries.map Prod.fst).Nodup) (key : String) :
    n.props.get? key = (entries.lookup key).join := by
  rw [h.props_eq]
  exact get?_ofList_present hNodup key

end Copies

section Readers

variable {n : Node} {stage what key s : String} {text : Option String} {v : Value}
  {more : List Value}

theorem textArgument_eq (h : n.args = .str s :: more) : n.textArgument stage what = .ok s := by
  rw [textArgument, h]
  rfl

theorem textProperty?_eq (h : n.props.get? key = text.map .str) :
    n.textProperty? stage key = .ok text := by
  rw [textProperty?, h]
  cases text <;> rfl

theorem textProperty_eq (h : n.props.get? key = some (.str s)) :
    n.textProperty stage key = .ok s := by
  have hText : n.textProperty? stage key = .ok (some s) := textProperty?_eq h
  rw [textProperty, hText]
  rfl

theorem integerProperty_eq (hPriority : v.IsPriority) (h : n.props.get? key = v.given?) :
    n.integerProperty stage key = .ok v := by
  rw [integerProperty, h]
  obtain rfl | ⟨i, rfl⟩ := hPriority
  · rfl
  · rfl

end Readers

end Source.Node

section Parts

variable {n : Node} {stage : String}

theorem Choice.ofNode_eq {choice : Choice} (h : n.Copies choice.toNode)
    (hLabel : choice.label = "" → choice.key = "") : Choice.ofNode stage n = .ok choice := by
  have hGet := h.get? (by simp)
  have hRead : (if choice.label = "" then choice.key else choice.label) = choice.label := by
    split
    · rename_i hEmpty
      rw [hLabel hEmpty, hEmpty]
    · rfl
  have hKey : n.textArgument stage "option key" = .ok choice.key := textArgument_eq h.args_eq
  have hLabel : n.textProperty? stage "label" = .ok (some choice.label) := textProperty?_eq (hGet _)
  have hTarget : n.textProperty stage "to" = .ok choice.target := textProperty_eq (hGet _)
  rw [ofNode, hKey, hLabel, hTarget]
  simp only [bind, Except.bind, Option.getD_some, hRead]

theorem Route.ofNode_eq {route : Route} (h : n.Copies route.toNode)
    (hPriority : route.priority.IsPriority) : Route.ofNode stage n = .ok route := by
  have hGet := h.get? (by simp)
  have hCondition : n.textProperty stage "when" = .ok route.condition := textProperty_eq (hGet _)
  have hTarget : n.textProperty stage "to" = .ok route.target := textProperty_eq (hGet _)
  have hNumber : n.integerProperty stage "priority" = .ok route.priority :=
    integerProperty_eq hPriority (hGet _)
  rw [ofNode, hCondition, hTarget, hNumber]
  rfl

theorem Transition.ofNode_eq {t : Transition} (h : n.Copies t.toNode)
    (hPriority : t.priority.IsPriority) : Transition.ofNode n = .ok t := by
  have hGet := h.get? (by simp)
  have hSource : n.textProperty "" "from" = .ok t.source := textProperty_eq (hGet _)
  have hTarget : n.textProperty "" "to" = .ok t.target := textProperty_eq (hGet _)
  have hCondition : n.textProperty? "" "when" = .ok t.condition := textProperty?_eq (hGet _)
  have hNumber : n.integerProperty "" "priority" = .ok t.priority :=
    integerProperty_eq hPriority (hGet _)
  rw [ofNode, hSource, hTarget, hCondition, hNumber]
  rfl

theorem Retry.ofNode_eq {retry : Retry} (h : n.Copies retry.toNode)
    (hAttempts : ∃ i, retry.maxAttempts = .int i) (hBackoff : ∀ word ∈ retry.backoff, word ∈ backoffs) :
    Retry.ofNode stage n = .ok retry := by
  have hGet := h.get? (by simp)
  have hCount : attemptsOf stage n = .ok retry.maxAttempts := by
    rw [attemptsOf, hGet]
    obtain ⟨i, hInt⟩ := hAttempts
    simp [hInt]
  have hWord : n.textProperty? stage "backoff" = .ok retry.backoff := textProperty?_eq (hGet _)
  have hDelay : n.textProperty? stage "delay" = .ok retry.delay := textProperty?_eq (hGet _)
  have hMaxDelay : n.textProperty? stage "max_delay" = .ok retry.maxDelay := textProperty?_eq (hGet _)
  rw [ofNode, hCount, hWord, hDelay, hMaxDelay]
  obtain ⟨maxAttempts, backoff, delay, maxDelay⟩ := retry
  cases backoff with
  | none => rfl
  | some word =>
    have hMem : backoffs.contains word = true := by simpa using hBackoff word rfl
    simp only [bind, Except.bind, hMem]
    rfl

end Parts

namespace Stage

variable {stage : Stage} {n : Node} {ns : List Node}

theorem addChild_choice {choice : Choice} (h : n.Copies choice.toNode) (hKind : stage.kind = .human)
    (hLabel : choice.label = "" → choice.key = "") :
    stage.addChild n = .ok { stage with choices := stage.choices ++ [choice] } := by
  have hName : n.name = "option" := h.name_eq
  rw [addChild, hName]
  simp only [hKind, Choice.ofNode_eq h hLabel]
  rfl

theorem addChild_route {route : Route} (h : n.Copies route.toNode) (hKind : stage.kind = .decision)
    (hPriority : route.priority.IsPriority) :
    stage.addChild n = .ok { stage with routes := stage.routes ++ [route] } := by
  have hName : n.name = "route" := h.name_eq
  rw [addChild, hName]
  simp only [hKind, Route.ofNode_eq h hPriority]
  rfl

theorem addChild_retry {retry : Retry} (h : n.Copies retry.toNode) (hNone : stage.retry = none)
    (hAttempts : ∃ i, retry.maxAttempts = .int i)
    (hBackoff : ∀ word ∈ retry.backoff, word ∈ Retry.backoffs) :
    stage.addChild n = .ok { stage with retry := some retry } := by
  have hName : n.name = "retry" := h.name_eq
  rw [addChild, hName]
  simp only [hNone, Retry.ofNode_eq h hAttempts hBackoff]
  rfl

theorem foldlM_choices {choices : List Choice}
    (h : List.Forall₂ Copies ns (choices.map Choice.toNode)) (hNone : stage.choices = [])
    (hKind : choices ≠ [] → stage.kind = .human)
    (hLabels : ∀ choice ∈ choices, choice.label = "" → choice.key = "") :
    ns.foldlM addChild stage = .ok { stage with choices } := by
  have hStart : { stage with choices := [] } = stage := by rw [← hNone]
  have hFold := Except.foldlM_eq_ok addChild (fun choices => { stage with choices }) ?_
    (List.forall₂_map_right_iff.mp h) (List.nil_append choices)
  · rwa [hStart] at hFold
  · rintro done more choice n rfl hCopies
    exact addChild_choice hCopies (hKind (by simp)) (hLabels choice (by simp))

theorem foldlM_routes {routes : List Route} (h : List.Forall₂ Copies ns (routes.map Route.toNode))
    (hNone : stage.routes = []) (hKind : routes ≠ [] → stage.kind = .decision)
    (hPriorities : ∀ route ∈ routes, route.priority.IsPriority) :
    ns.foldlM addChild stage = .ok { stage with routes } := by
  have hStart : { stage with routes := [] } = stage := by rw [← hNone]
  have hFold := Except.foldlM_eq_ok addChild (fun routes => { stage with routes }) ?_
    (List.forall₂_map_right_iff.mp h) (List.nil_append routes)
  · rwa [hStart] at hFold
  · rintro done more route n rfl hCopies
    exact addChild_route hCopies (hKind (by simp)) (hPriorities route (by simp))

theorem foldlM_retry {retry : Option Retry}
    (h : List.Forall₂ Copies ns (retry.map Retry.toNode).toList) (hNone : stage.retry = none)
    (hAttempts : ∀ r ∈ retry, ∃ i, r.maxAttempts = .int i)
    (hBackoff : ∀ r ∈ retry, ∀ word ∈ r.backoff, word ∈ Retry.backoffs) :
    ns.foldlM addChild stage = .ok { stage with retry } := by
  cases retry with
  | none =>
    cases h
    rw [← hNone]
    rfl
  | some retry =>
    obtain _ | ⟨hFirst, _⟩ := h
    rename_i hRest
    cases hRest
    rw [List.foldlM_cons, addChild_retry hFirst hNone (hAttempts retry rfl) (hBackoff retry rfl)]
    rfl

theorem nodup_keys_toNode (hKind : "kind" ∉ stage.attrs.keys) :
    ((("kind", some (Value.str stage.kind.word)) ::
      stage.attrs.entries.map fun e => (e.1, some e.2)).map Prod.fst).Nodup := by
  rw [List.map_cons, List.map_map, List.nodup_cons]
  exact ⟨hKind, stage.attrs.nodup⟩

theorem entries_toNode (hKind : "kind" ∉ stage.attrs.keys) :
    stage.toNode.props.entries = ("kind", .str stage.kind.word) :: stage.attrs.entries := by
  have hNodup := (nodup_keys_toNode hKind).sublist (fst_present_sublist _)
  have hPresent : present (stage.attrs.entries.map fun e => (e.1, some e.2)) =
      stage.attrs.entries := by
    simp [present, List.filterMap_map]
  refine (Table.entries_ofList hNodup).trans ?_
  exact congrArg (List.cons _) hPresent

theorem props_erase_kind (h : n.Copies stage.toNode) (hKind : "kind" ∉ stage.attrs.keys) :
    n.props.erase "kind" = stage.attrs := by
  apply Table.eq_of_entries_eq
  rw [h.props_eq, Table.erase]
  simp only [entries_toNode hKind, List.filter_cons]
  rw [List.filter_eq_self.mpr]
  · simp
  · intro e he
    have hKey : e.1 ≠ "kind" := fun hEq => hKind (hEq ▸ List.mem_map_of_mem he)
    simp [hKey]

/-- A stage is read from a copy of its node, at the line where that stands. -/
theorem ofNode_eq (h : n.Copies stage.toNode) (hRegular : stage.IsRegular)
    (hFloat : ∀ retry ∈ stage.retry, ∀ x, retry.maxAttempts ≠ .float x) :
    Stage.ofNode n = .ok { stage with line := n.place.line } := by
  have hId : n.textArgument "" "stage id" = .ok stage.id := textArgument_eq h.args_eq
  have hWord : n.textProperty? stage.id "kind" = .ok (some stage.kind.word) :=
    textProperty?_eq (h.get? (nodup_keys_toNode hRegular.kind) "kind")
  have hKind : kindOf stage.id n = .ok stage.kind := by
    rw [kindOf, hWord]
    simp only [bind, Except.bind, Kind.ofWord?_word]
  have hAttempts : ∀ retry ∈ stage.retry, ∃ i, retry.maxAttempts = .int i := by
    intro retry hRetry
    obtain hInt | ⟨x, hx⟩ := (hRegular.retry retry hRetry).attempts
    · exact hInt
    · exact absurd hx (hFloat retry hRetry x)
  -- the children stand in three groups, and reading one group leaves the other fields as they are
  obtain ⟨front, retries, hChildren, hFront, hRetries⟩ := exists_append_of_forall₂ h.children
  obtain ⟨choices, routes, rfl, hChoices, hRoutes⟩ := exists_append_of_forall₂ hFront
  have hFirst : choices.foldlM addChild
      { id := stage.id, kind := stage.kind, attrs := stage.attrs, line := n.place.line } =
      .ok { id := stage.id, kind := stage.kind, attrs := stage.attrs, line := n.place.line,
            choices := stage.choices } :=
    foldlM_choices hChoices rfl hRegular.choices hRegular.labels
  have hSecond : routes.foldlM addChild
      { id := stage.id, kind := stage.kind, attrs := stage.attrs, line := n.place.line,
        choices := stage.choices } =
      .ok { id := stage.id, kind := stage.kind, attrs := stage.attrs, line := n.place.line,
            choices := stage.choices, routes := stage.routes } :=
    foldlM_routes hRoutes rfl hRegular.routes fun route hRoute =>
      (hRegular.priorities route hRoute).isPriority
  have hThird : retries.foldlM addChild
      { id := stage.id, kind := stage.kind, attrs := stage.attrs, line := n.place.line,
        choices := stage.choices, routes := stage.routes } =
      .ok { stage with line := n.place.line } :=
    foldlM_retry hRetries rfl hAttempts fun retry hRetry => (hRegular.retry retry hRetry).backoff
  have hCommand : checkCommand { stage with line := n.place.line } n = .ok () :=
    checkCommand_eq_ok_iff.mpr hRegular.command
  have hPrompt : checkPrompt { stage with line := n.place.line } n = .ok () :=
    checkPrompt_eq_ok_iff.mpr hRegular.prompt
  rw [Stage.ofNode, hId, hChildren]
  simp only [bind, Except.bind, hKind, props_erase_kind h hRegular.kind, List.foldlM_append, hFirst,
    hSecond, hThird, hCommand, hPrompt]

end Stage

namespace Models

variable {n : Node} {ns : List Node} {models : Models}

theorem addChild_default {model : String} (h : n.Copies (directive "default" (.str model))) :
    models.addChild n = .ok { models with default := some model } := by
  have hName : n.name = "default" := h.name_eq
  have hModel : n.textArgument "" "models default" = .ok model := textArgument_eq h.args_eq
  rw [addChild, hName]
  simp only [hModel]
  rfl

theorem addChild_profile {name : String} {profile : Profile} (h : n.Copies (profile.toNode name)) :
    models.addChild n = .ok { models with profiles := models.profiles.insert name profile } := by
  have hGet := h.get? (by simp)
  have hName : n.name = "profile" := h.name_eq
  have hKey : n.textArgument "" "profile name" = .ok name := textArgument_eq h.args_eq
  have hModel : n.textProperty? "" "model" = .ok profile.model := textProperty?_eq (hGet _)
  have hProvider : n.textProperty? "" "provider" = .ok profile.provider := textProperty?_eq (hGet _)
  have hEffort : n.textProperty? "" "reasoning_effort" = .ok profile.reasoningEffort :=
    textProperty?_eq (hGet _)
  rw [addChild, hName]
  simp only [hKey, hModel, hProvider, hEffort]
  rfl

theorem ofNode_eq (h : n.Copies models.toNode) : Models.ofNode n = .ok models := by
  obtain ⟨defaults, profiles, hChildren, hDefaults, hProfiles⟩ := exists_append_of_forall₂ h.children
  have hFirst : defaults.foldlM addChild {} = .ok { default := models.default } := by
    cases hDefault : models.default with
    | none =>
      rw [hDefault] at hDefaults
      cases hDefaults
      rfl
    | some model =>
      rw [hDefault] at hDefaults
      obtain _ | ⟨hCopies, hNone⟩ := hDefaults
      cases hNone
      rw [List.foldlM_cons, addChild_default hCopies]
      rfl
  have hSecond : profiles.foldlM addChild { default := models.default } = .ok models := by
    have hFold := Except.foldlM_eq_ok addChild
      (fun entries => { default := models.default, profiles := Table.ofList entries }) ?_
      (List.forall₂_map_right_iff.mp hProfiles) (List.nil_append _)
    · rwa [Table.ofList_entries] at hFold
    · rintro done more entry n - hCopies
      rw [Table.ofList_append_singleton]
      exact addChild_profile hCopies
  rw [Models.ofNode, hChildren, List.foldlM_append, hFirst]
  exact hSecond

end Models

namespace Definition

section Parts

variable {ns : List Node} {parts : List (String × List Node)} {name : String} {group : List Node}

theorem filter_parts (hNames : ∀ part ∈ parts, ∀ m ∈ part.2, m.name = part.1)
    (hNodup : (parts.map Prod.fst).Nodup) (h : (name, group) ∈ parts) :
    (parts.flatMap Prod.snd).filter (·.name == name) = group := by
  induction parts with
  | nil => cases h
  | cons part parts ih =>
    rw [List.forall_mem_cons] at hNames
    rw [List.map_cons, List.nodup_cons] at hNodup
    rw [List.flatMap_cons, List.filter_append]
    obtain rfl | hMem := List.mem_cons.mp h
    · have hOthers : (parts.flatMap Prod.snd).filter (·.name == name) = [] := by
        rw [List.filter_eq_nil_iff]
        intro m hm hName
        obtain ⟨other, hOther, hGroup⟩ := List.mem_flatMap.mp hm
        have hEq : other.1 = name := (hNames.2 other hOther m hGroup).symm.trans (by simpa using hName)
        have hLabel : other.1 ∈ parts.map Prod.fst := List.mem_map_of_mem hOther
        exact hNodup.1 (hEq ▸ hLabel)
      rw [hOthers, List.append_nil, List.filter_eq_self.mpr fun m hm => by simp [hNames.1 m hm]]
    · have hFirst : part.2.filter (·.name == name) = [] := by
        rw [List.filter_eq_nil_iff]
        intro m hm hName
        have hEq : part.1 = name := (hNames.1 m hm).symm.trans (by simpa using hName)
        have hLabel : name ∈ parts.map Prod.fst := List.mem_map_of_mem hMem
        exact hNodup.1 (hEq ▸ hLabel)
      rw [hFirst, List.nil_append]
      exact ih hNames.2 hNodup.2 hMem

theorem name_of_mem_parts (d : Definition) :
    ∀ part ∈ d.parts, ∀ m ∈ part.2, m.name = part.1 := by
  intro part hPart m hm
  simp only [Definition.parts, List.mem_cons, List.not_mem_nil, or_false] at hPart
  obtain rfl | rfl | rfl | rfl | rfl | rfl | rfl | rfl := hPart
  all_goals simp only [List.mem_singleton, Option.mem_toList, Option.map_eq_some_iff, List.mem_map]
    at hm
  case inl | inr.inr.inr.inl =>
    rw [hm]
    rfl
  all_goals
    obtain ⟨_, -, rfl⟩ := hm
    rfl

theorem nodup_parts (d : Definition) : (d.parts.map Prod.fst).Nodup := by
  simp [Definition.parts]

theorem name_mem_directives {d : Definition} {m : Node} (h : m ∈ d.parts.flatMap Prod.snd) :
    m.name ∈ directives := by
  obtain ⟨part, hPart, hm⟩ := List.mem_flatMap.mp h
  rw [name_of_mem_parts d part hPart m hm]
  have hKnown : ∀ name ∈ d.parts.map Prod.fst, name ∈ directives := by
    simp [Definition.parts, directives]
  exact hKnown _ (List.mem_map_of_mem hPart)

theorem checkDirectives_eq_ok {d : Definition}
    (h : List.Forall₂ Copies ns (d.parts.flatMap Prod.snd)) : checkDirectives ns = .ok () := by
  have hKnown : ns.find? (fun node => !directives.contains node.name) = none := by
    rw [List.find?_eq_none]
    intro child hChild
    obtain ⟨m, hm, hCopies⟩ := Except.exists_of_mem_of_forall₂ h.flip child hChild
    have hName : m.name ∈ directives := name_mem_directives hm
    simpa [Copies.name_eq hCopies] using hName
  rw [checkDirectives, hKnown]

/-- The children of a copy of a definition that have one name. -/
theorem copies_group {d : Definition} (h : List.Forall₂ Copies ns (d.parts.flatMap Prod.snd))
    (hPart : (name, group) ∈ d.parts) :
    List.Forall₂ Copies (ns.filter (·.name == name)) group := by
  rw [← filter_parts (name_of_mem_parts d) (nodup_parts d) hPart]
  exact forall₂_copies_filter h name

theorem exists_optional {α : Type} {read : Node → Read α} (write : α → Node) (part : Option α)
    (hRead : ∀ {n a}, n.Copies (write a) → read n = .ok a)
    (h : List.Forall₂ Copies (ns.filter (·.name == name)) (part.map write).toList) :
    ∃ node?, Node.single? name ns = .ok node? ∧ node?.mapM read = .ok part := by
  rw [Node.single?]
  cases part with
  | none =>
    rw [List.forall₂_nil_right_iff.mp h]
    exact ⟨none, rfl, rfl⟩
  | some a =>
    obtain ⟨n, others, hCopies, hNone, hFilter⟩ := List.forall₂_cons_right_iff.mp h
    rw [List.forall₂_nil_right_iff.mp hNone] at hFilter
    rw [hFilter]
    refine ⟨some n, rfl, ?_⟩
    rw [Option.mapM_some, hRead hCopies]
    rfl

theorem exists_text (text : Option String) (what : String)
    (h : List.Forall₂ Copies (ns.filter (·.name == name))
      (text.map fun s => directive name (.str s)).toList) :
    ∃ node?, Node.single? name ns = .ok node? ∧
      node?.mapM (·.textArgument "" what) = .ok text :=
  exists_optional _ text (fun hCopies => textArgument_eq hCopies.args_eq) h

theorem exists_directive {v : Value}
    (h : List.Forall₂ Copies (ns.filter (·.name == name)) [directive name v]) :
    ∃ n, Node.single? name ns = .ok (some n) ∧ n.args = [v] := by
  obtain ⟨n, others, hCopies, hNone, hFilter⟩ := List.forall₂_cons_right_iff.mp h
  rw [List.forall₂_nil_right_iff.mp hNone] at hFilter
  exact ⟨n, by rw [Node.single?, hFilter], hCopies.args_eq⟩

end Parts

end Definition

def Stage.unlined (stage : Stage) : Stage :=
  { stage with line := 0 }

def Stage.values (stage : Stage) : List Value :=
  stage.attrs.values ++ stage.routes.map Route.priority ++
    (stage.retry.map Retry.maxAttempts).toList

namespace Definition

/-- A definition without the lines of its stages. -/
def unlined (d : Definition) : Definition :=
  { d with stages := d.stages.map Stage.unlined }

def values (d : Definition) : List Value :=
  d.version :: d.stages.flatMap Stage.values ++ d.transitions.map Transition.priority

def HoldsNoFloat (d : Definition) : Prop :=
  ∀ v ∈ d.values, ∀ x, v ≠ .float x

section Reading

variable {d : Definition} {n : Node} {ns : List Node} {stages : List Stage}

theorem HoldsNoFloat.stage (h : d.HoldsNoFloat) :
    ∀ stage ∈ d.stages, ∀ v ∈ stage.values, ∀ x, v ≠ .float x := by
  intro stage hStage v hv
  apply h
  simp only [values, List.mem_append, List.mem_cons, List.mem_flatMap]
  exact Or.inl (Or.inr ⟨stage, hStage, hv⟩)

theorem HoldsNoFloat.attempts (h : d.HoldsNoFloat) :
    ∀ stage ∈ d.stages, ∀ retry ∈ stage.retry, ∀ x, retry.maxAttempts ≠ .float x := by
  intro stage hStage retry hRetry
  apply h.stage stage hStage
  exact List.mem_append_right _ (Option.mem_toList.mpr (Option.mem_map_of_mem _ hRetry))

theorem map_id_of_unlined {stages stages' : List Stage}
    (h : stages'.map Stage.unlined = stages.map Stage.unlined) :
    stages'.map (·.id) = stages.map (·.id) := by
  have hIds := congrArg (List.map (·.id)) h
  simpa [Function.comp_def, Stage.unlined] using hIds

theorem exists_stages (h : List.Forall₂ Copies ns (stages.map Stage.toNode))
    (hRegular : ∀ stage ∈ stages, stage.IsRegular)
    (hFloat : ∀ stage ∈ stages, ∀ retry ∈ stage.retry, ∀ x, retry.maxAttempts ≠ .float x) :
    ∃ stages', List.Forall₂ (fun n stage => Stage.ofNode n = .ok stage) ns stages' ∧
      stages'.map Stage.unlined = stages.map Stage.unlined := by
  induction stages generalizing ns with
  | nil =>
    cases h
    exact ⟨[], .nil, rfl⟩
  | cons stage stages ih =>
    obtain ⟨n, others, hCopies, hOthers, rfl⟩ := List.forall₂_cons_right_iff.mp h
    rw [List.forall_mem_cons] at hRegular hFloat
    obtain ⟨stages', hRead, hUnlined⟩ := ih hOthers hRegular.2 hFloat.2
    refine ⟨_, .cons (Stage.ofNode_eq hCopies hRegular.1 hFloat.1) hRead, ?_⟩
    rw [List.map_cons, List.map_cons, hUnlined]
    rfl

theorem foldlM_addStage (h : List.Forall₂ (fun n stage => Stage.ofNode n = .ok stage) ns stages)
    (hNodup : (stages.map (·.id)).Nodup) : ns.foldlM addStage [] = .ok stages := by
  refine Except.foldlM_eq_ok addStage id ?_ h (List.nil_append stages)
  rintro done more stage n rfl hStage
  have hNew : done.find? (·.id == stage.id) = none := by
    rw [List.find?_eq_none]
    intro other hOther hId
    have hSame : other.id = stage.id := by simpa using hId
    rw [List.map_append, List.map_cons] at hNodup
    exact (List.nodup_append.mp hNodup).2.2 _ (List.mem_map_of_mem hOther) _ List.mem_cons_self hSame
  rw [addStage, hStage]
  simp only [bind, Except.bind, id, hNew]

theorem mapM_transitions {transitions : List Transition}
    (h : List.Forall₂ Copies ns (transitions.map Transition.toNode))
    (hPriorities : ∀ t ∈ transitions, t.priority.IsPriority) :
    ns.mapM Transition.ofNode = .ok transitions := by
  rw [Except.mapM_eq_ok_iff_forall₂]
  induction transitions generalizing ns with
  | nil =>
    cases h
    exact .nil
  | cons t transitions ih =>
    obtain ⟨n, others, hCopies, hOthers, rfl⟩ := List.forall₂_cons_right_iff.mp h
    rw [List.forall_mem_cons] at hPriorities
    exact .cons (Transition.ofNode_eq hCopies hPriorities.1) (ih hOthers hPriorities.2)

/-- A definition is read from a copy of its node, but for the lines of its stages. -/
theorem exists_ofNodes_eq_ok (h : n.Copies d.toNode) (hRegular : d.IsRegular)
    (hFloat : d.HoldsNoFloat) : ∃ d', ofNodes [n] = .ok d' ∧ d'.unlined = d.unlined := by
  have hChildren := h.children
  have hGroup : ∀ name group, (name, group) ∈ d.parts →
      List.Forall₂ Copies (n.children.filter (·.name == name)) group := fun name group hPart =>
    copies_group hChildren hPart
  have hRoot : rootOf [n] = .ok n := by
    have hName : n.name = "workflow" := h.name_eq
    rw [rootOf, if_pos hName]
  have hName : n.textArgument "" "workflow name" = .ok d.name := textArgument_eq h.args_eq
  have hDirectives := checkDirectives_eq_ok hChildren
  obtain ⟨startNode, hStart, hStartArgs⟩ :=
    exists_directive (hGroup "start" [directive "start" (.str d.start)] (by simp [Definition.parts]))
  obtain ⟨versionNode, hVersion, hVersionArgs⟩ :=
    exists_directive (hGroup "version" [directive "version" d.version] (by simp [Definition.parts]))
  obtain ⟨goalNode, hGoal, hGoalText⟩ :=
    exists_text d.goal "workflow goal" (hGroup "goal" _ (by simp [Definition.parts]))
  obtain ⟨descriptionNode, hDescription, hDescriptionText⟩ :=
    exists_text d.description "workflow description" (hGroup "description" _ (by simp [Definition.parts]))
  obtain ⟨stylesheetNode, hStylesheet, hStylesheetText⟩ :=
    exists_text d.stylesheet "model_stylesheet" (hGroup "model_stylesheet" _ (by simp [Definition.parts]))
  obtain ⟨modelsNode, hModels, hModelsRead⟩ :=
    exists_optional Models.toNode d.models Models.ofNode_eq (hGroup "models" _ (by simp [Definition.parts]))
  obtain ⟨stages, hStages, hUnlined⟩ := exists_stages (hGroup "stage" _ (by simp [Definition.parts]))
    hRegular.stages hFloat.attempts
  have hIds : stages.map (·.id) = d.stageIds := map_id_of_unlined hUnlined
  have hFold := foldlM_addStage hStages (hIds ▸ hRegular.nodup)
  have hDeclared : stages.any (·.id == d.start) = true := by
    have hMem : d.start ∈ stages.map (·.id) := hIds ▸ hRegular.start
    obtain ⟨stage, hStage, hId⟩ := List.mem_map.mp hMem
    exact List.any_eq_true.mpr ⟨stage, hStage, by simpa using hId⟩
  have hTransitions : (n.children.filter (·.name == "transition")).mapM Transition.ofNode =
      .ok d.transitions :=
    mapM_transitions (hGroup "transition" _ (by simp [Definition.parts])) fun t ht =>
      (hRegular.priorities t ht).isPriority
  have hStartText : startNode.textArgument "" "workflow start" = .ok d.start :=
    textArgument_eq hStartArgs
  have hNumber : versionNode.integerArgument "" "workflow version" = .ok d.version := by
    obtain ⟨i, hi, -⟩ := hRegular.version
    rw [Node.integerArgument, hVersionArgs, hi]
    rfl
  refine ⟨{ d with stages }, ?_, ?_⟩
  · simp only [ofNodes, bind, Except.bind, hRoot, hName, hDirectives, hStart, hStartText, hVersion,
      hGoal, hDescription, hStylesheet, hModels, hFold, hDeclared, hTransitions, hNumber, hGoalText,
      hDescriptionText, hModelsRead, hStylesheetText]
    rfl
  · rw [unlined, hUnlined]
    rfl

end Reading

end Definition

end Workflow
