import Workflow.Proofs.Definition.Places

/-!
# Expressions of a source

The expressions of a definition are the texts that the routes and transitions of its source give for
`when`, in their order. Each of these texts is the value of one token.
-/

namespace Workflow

open Workflow.Source

def Stage.guards (stage : Stage) : List String :=
  stage.routes.map (·.condition)

/-- The routing expressions of a definition, as its author wrote them. -/
def Definition.guards (d : Definition) : List String :=
  d.stages.flatMap Stage.guards ++ d.transitions.filterMap (·.condition)

namespace Source

/-- A text is the value of a token behind `when=`. -/
def GivesGuard (ts : List Token) (guard : String) : Prop :=
  ∃ key sign t : Token, [key, sign, t] <:+: ts ∧ key.kind = .word ∧ key.value = "when" ∧
    sign.kind = .equals ∧ (t.kind = .string ∨ t.kind = .word) ∧ t.value = guard

namespace Node

def guard? (n : Node) : Option String :=
  match n.props.get? "when" with
  | some (.str guard) => some guard
  | _ => none

def routes (stage : Node) : List Node :=
  stage.children.filter (·.name == "route")

/-- The nodes of a workflow that have expressions: routes of its stages, then transitions. -/
def guarded (workflow : Node) : List Node :=
  (workflow.children.filter (·.name == "stage")).flatMap routes ++
    workflow.children.filter (·.name == "transition")

end Node

end Source

section Nodes

open Source.Node

variable {node : Node} {id : String} {stage stage' : Stage}

theorem Source.Node.guard?_of_textProperty? {text? : Option String}
    (h : node.textProperty? id "when" = .ok text?) : node.guard? = text? := by
  unfold textProperty? at h
  unfold guard?
  split at h <;> cases h
  · next hGet => rw [hGet]
  · next hGet => rw [hGet]

theorem Route.guard?_of_ofNode {route : Route} (h : Route.ofNode id node = .ok route) :
    node.guard? = some route.condition := by
  simp only [Route.ofNode, Except.bind_eq_ok_iff, Except.ok.injEq] at h
  obtain ⟨condition, hCondition, target, -, priority, -, rfl⟩ := h
  obtain ⟨text?, hText, hGiven⟩ := Except.bind_eq_ok_iff.mp hCondition
  rw [guard?_of_textProperty? hText]
  cases text? with
  | none => cases hGiven
  | some text => exact congrArg some (Except.ok.inj hGiven)

theorem Transition.guard?_of_ofNode {t : Transition} (h : Transition.ofNode node = .ok t) :
    node.guard? = t.condition := by
  simp only [Transition.ofNode, Except.bind_eq_ok_iff, Except.ok.injEq] at h
  obtain ⟨source, -, target, -, condition, hCondition, priority, -, rfl⟩ := h
  exact guard?_of_textProperty? hCondition

/-- Only a route adds an expression to a stage. -/
theorem Stage.guards_addChild (h : stage.addChild node = .ok stage') :
    stage'.guards = stage.guards ++ ([node].filter (·.name == "route")).filterMap guard? := by
  unfold Stage.addChild at h
  split at h
  · next hName =>
    split at h
    · cases h
    · obtain ⟨prompt, -, hEq⟩ := Except.bind_eq_ok_iff.mp h
      cases hEq
      simp [Stage.guards, hName]
  · next hName =>
    split at h
    · cases h
    · obtain ⟨choice, -, hEq⟩ := Except.bind_eq_ok_iff.mp h
      cases hEq
      simp [Stage.guards, hName]
  · next hName =>
    split at h
    · cases h
    · obtain ⟨route, hRoute, hEq⟩ := Except.bind_eq_ok_iff.mp h
      cases hEq
      simp [Stage.guards, hName, Route.guard?_of_ofNode hRoute]
  · next hName =>
    split at h
    · cases h
    · obtain ⟨retry, -, hEq⟩ := Except.bind_eq_ok_iff.mp h
      cases hEq
      simp [Stage.guards, hName]
  · cases h

theorem Stage.guards_ofNode (h : Stage.ofNode node = .ok stage) :
    stage.guards = node.routes.filterMap guard? := by
  simp only [Stage.ofNode, Except.bind_eq_ok_iff, Except.ok.injEq] at h
  obtain ⟨id, -, kind, -, stage, hFold, -, -, -, -, rfl⟩ := h
  have hLeft := Except.foldlM_preserves_left
    (p := fun s left => s.guards ++ (left.filter (·.name == "route")).filterMap guard? =
      node.routes.filterMap guard?) ?_ rfl hFold
  · rwa [List.filter_nil, List.filterMap_nil, List.append_nil] at hLeft
  · intro s s' child left hLeft hAdd
    rw [Stage.guards_addChild hAdd, List.append_assoc, ← List.filterMap_append,
      ← List.filter_append, List.singleton_append]
    exact hLeft

end Nodes

section Documents

open Source.Node

variable {nodes : List Node} {ts : List Token} {d : Definition}

theorem Transition.filterMap_condition {transitions : List Transition}
    (h : nodes.mapM Transition.ofNode = .ok transitions) :
    transitions.filterMap (·.condition) = nodes.filterMap guard? := by
  have hEach := Except.mapM_eq_ok_iff_forall₂.mp h
  clear h
  induction hEach with
  | nil => rfl
  | cons hFirst _ ih =>
    rw [List.filterMap_cons, List.filterMap_cons, Transition.guard?_of_ofNode hFirst, ih]

theorem Definition.guards_ofNodes (h : ofNodes nodes = .ok d) :
    ∃ root, nodes = [root] ∧ d.guards = root.guarded.filterMap guard? := by
  obtain ⟨only, hOnly, -⟩ := Except.bind_eq_ok_iff.mp h
  obtain ⟨root, hRoot, -, hStages, -, hTransitions⟩ := parts_of_ofNodes h
  obtain rfl := eq_singleton_of_rootOf hOnly
  obtain rfl := List.mem_singleton.mp hRoot
  refine ⟨root, rfl, ?_⟩
  have hInStages : d.stages.flatMap Stage.guards =
      ((root.children.filter (·.name == "stage")).flatMap routes).filterMap guard? := by
    have hLeft := Except.foldlM_preserves_left
      (p := fun stages left =>
        stages.flatMap Stage.guards ++ (left.flatMap routes).filterMap guard? =
          ((root.children.filter (·.name == "stage")).flatMap routes).filterMap guard?) ?_ rfl hStages
    · rwa [List.flatMap_nil, List.filterMap_nil, List.append_nil] at hLeft
    · intro stages stages' n left hLeft hAdd
      obtain ⟨stage, hStage, -, rfl⟩ := addStage_eq_ok hAdd
      rw [List.flatMap_cons, List.filterMap_append, ← Stage.guards_ofNode hStage,
        ← List.append_assoc] at hLeft
      rw [List.flatMap_append, List.flatMap_singleton]
      exact hLeft
  rw [Definition.guards, hInStages, Transition.filterMap_condition hTransitions, guarded,
    List.filterMap_append]

theorem Source.standsIn_of_mem_guarded {root n : Node} (h : n ∈ root.guarded) :
    StandsIn [root] n := by
  refine .inner (List.mem_singleton_self root) ?_
  obtain h | h := List.mem_append.mp h
  · obtain ⟨stage, hStage, hRoute⟩ := List.mem_flatMap.mp h
    exact .inner (List.mem_of_mem_filter hStage) (.top (List.mem_of_mem_filter hRoute))
  · exact .top (List.mem_of_mem_filter h)

/-- The properties of a node are those of items that stand next to each other in the tokens. -/
theorem Source.Derivation.exists_items_of_standsIn {s : Symbol} (d : Derivation s) {n : Node}
    (h : StandsIn d.nodes n) :
    ∃ items : List Item, items.flatMap Item.tokens <:+: d.tokens ∧ n.props = Item.props items := by
  induction d with
  | done => exact absurd h not_standsIn_nil
  | newline t hNewline others ih =>
    obtain ⟨items, hInfix, hProps⟩ := ih h
    exact ⟨items, hInfix.trans (List.suffix_cons t _).isInfix, hProps⟩
  | node first others ihFirst ihOthers =>
    obtain hFirst | hOthers := standsIn_append h
    · obtain ⟨items, hInfix, hProps⟩ := ihFirst hFirst
      exact ⟨items, hInfix.trans (List.prefix_append _ _).isInfix, hProps⟩
    · obtain ⟨items, hInfix, hProps⟩ := ihOthers hOthers
      exact ⟨items, hInfix.trans (List.suffix_append _ _).isInfix, hProps⟩
  | line name hName items =>
    obtain rfl | hInner := standsIn_singleton h
    · exact ⟨items, (List.suffix_cons name _).isInfix, rfl⟩
    · exact absurd hInner not_standsIn_nil
  | block name hName items opening hOpening inner closing hClosing ih =>
    obtain rfl | hInner := standsIn_singleton h
    · exact ⟨items, List.infix_append [name] _ _, rfl⟩
    · obtain ⟨items', hInfix, hProps⟩ := ih hInner
      refine ⟨items', hInfix.trans ?_, hProps⟩
      exact ⟨name :: (items.flatMap Item.tokens ++ [opening]), [closing], by simp [tokens]⟩

/-- The text that a node gives for `when` is the value of a token. -/
theorem Source.givesGuard_of_guard? {n : Node} {guard : String} (hTree : ofTokens ts = .ok nodes)
    (h : StandsIn nodes n) (hGuard : n.guard? = some guard) : GivesGuard ts guard := by
  obtain ⟨d, hDocument, -, rfl⟩ := exists_isDocument_of_ofTokens hTree
  obtain ⟨items, hInfix, hProps⟩ := d.exists_items_of_standsIn h
  rw [hDocument.tokens] at hInfix
  have hGet : n.props.get? "when" = some (.str guard) := by
    unfold guard? at hGuard
    split at hGuard <;> cases hGuard
    assumption
  rw [hProps] at hGet
  obtain hWritten | ⟨hOld, -⟩ := Table.mem_entries_insertAll (Table.get?_eq_some_iff.mp hGet)
  · obtain ⟨item, hItem, hProperty⟩ := List.mem_filterMap.mp hWritten
    cases item with
    | argument => cases hProperty
    | property key sign t hKey hSign hScalar =>
      obtain ⟨hWhen, hValue⟩ := Prod.mk.inj (Option.some.inj hProperty)
      have hTokens : [key, sign, t] <:+: items.flatMap Item.tokens :=
        List.infix_of_mem_flatten (List.mem_map_of_mem hItem)
      refine ⟨key, sign, t, hTokens.trans hInfix, hKey, hWhen, hSign, ?_⟩
      obtain hKind | hKind | hKind | hKind := hScalar
      · exact ⟨.inl hKind, by simpa [Token.scalar, hKind] using hValue⟩
      · simp only [Token.scalar, hKind] at hValue
        split at hValue <;> cases hValue
      · simp [Token.scalar, hKind] at hValue
      · exact ⟨.inr hKind, by simpa [Token.scalar, hKind] using hValue⟩
  · cases hOld

/-- The expressions of a definition are the `when` texts of its source, and values of tokens. -/
theorem Definition.guards_parse {source : String} (h : parse source = .ok d) :
    ∃ ts root, Token.scan source = .ok ts ∧ ofTokens ts = .ok [root] ∧
      d.guards = root.guarded.filterMap guard? ∧ ∀ guard ∈ d.guards, GivesGuard ts guard := by
  simp only [parse, Except.bind_eq_ok_iff, Except.mapError_eq_ok_iff] at h
  obtain ⟨ts, hScan, nodes, hTree, h⟩ := h
  obtain ⟨root, rfl, hGuards⟩ := guards_ofNodes h
  refine ⟨ts, root, hScan, hTree, hGuards, fun guard hGuard => ?_⟩
  rw [hGuards] at hGuard
  obtain ⟨n, hNode, hText⟩ := List.mem_filterMap.mp hGuard
  exact givesGuard_of_guard? hTree (standsIn_of_mem_guarded hNode) hText

end Documents

end Workflow
