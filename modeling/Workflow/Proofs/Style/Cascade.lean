import Mathlib.Logic.Function.Iterate
import Workflow.Proofs.Compile
import Workflow.Proofs.Table

/-!
# The cascade

Rules are applied by rising specificity, each over what the rules before it wrote. What a node is
left with is decided property by property: by the last of the most specific rules that select the
node and declare the property. No rule writes a class, and every property that a rule wrote is given
when the stylesheet is applied again, so a second application finds nothing to write.
-/

namespace Workflow

namespace Style

/-- The rules of a stylesheet in source order. -/
def sourceRules (source : String) : List Rule :=
  (blocks source.toList).filterMap Block.rule?

/-- What a rule has for a property of a node: what it declares, if it selects the node. -/
def Rule.value? (node : Graph.Node) (property : String) (rule : Rule) : Option String :=
  if rule.selector.selects node then rule.declarations.get? property else none

/-- The last of the most specific rules that have something for a property of a node has this. -/
def Wins (rules : List Rule) (node : Graph.Node) (property value : String) : Prop :=
  ∃ before rule after, rules = before ++ rule :: after ∧ rule.value? node property = some value ∧
    (∀ other ∈ before, other.value? node property ≠ none →
      other.selector.specificity ≤ rule.selector.specificity) ∧
    ∀ other ∈ after, other.value? node property ≠ none →
      other.selector.specificity < rule.selector.specificity

theorem Wins.eq {rules : List Rule} {node : Graph.Node} {property value value' : String}
    (h : Wins rules node property value) (h' : Wins rules node property value') :
    value = value' := by
  obtain ⟨before, rule, after, rfl, hValue, hBefore, hAfter⟩ := h
  obtain ⟨before', rule', after', hSplit, hValue', hBefore', hAfter'⟩ := h'
  have hSome : rule.value? node property ≠ none := hValue ▸ nofun
  have hSome' : rule'.value? node property ≠ none := hValue' ▸ nofun
  -- they are the same rule, or the one behind the other would have to be both below and above it
  obtain ⟨between, rfl, hRest⟩ | ⟨between, rfl, hRest⟩ := List.append_eq_append_iff.mp hSplit
  all_goals
    obtain ⟨rfl, hRest⟩ | ⟨rest, rfl, hRest⟩ := List.cons_eq_append_iff.mp hRest
  · cases hRest
    exact Option.some.inj (hValue.symm.trans hValue')
  · cases hRest
    have hLess := hAfter rule' (List.mem_append_right _ List.mem_cons_self) hSome'
    have hMost := hBefore' rule (List.mem_append_right _ List.mem_cons_self) hSome
    omega
  · cases hRest
    exact Option.some.inj (hValue.symm.trans hValue')
  · cases hRest
    have hLess := hAfter' rule (List.mem_append_right _ List.mem_cons_self) hSome
    have hMost := hBefore rule' (List.mem_append_right _ List.mem_cons_self) hSome'
    omega

/-- What the last element that has something has. -/
def last? {α β : Type} (f : α → Option β) (xs : List α) : Option β :=
  xs.reverse.findSome? f

section Last

variable {α β : Type} {f : α → Option β} {xs ys : List α} {x : α} {value : β}

theorem last?_append : last? f (xs ++ ys) = (last? f ys).or (last? f xs) := by
  rw [last?, List.reverse_append, List.findSome?_append]
  rfl

theorem last?_cons : last? f (x :: xs) = (last? f xs).or (f x) := by
  rw [← List.singleton_append, last?_append]
  cases h : f x <;> simp [last?, h]

theorem last?_eq_none_iff : last? f xs = none ↔ ∀ x ∈ xs, f x = none := by
  simp only [last?, List.findSome?_eq_none_iff, List.mem_reverse]

theorem last?_congr {f' : α → Option β} (h : ∀ x ∈ xs, f x = f' x) : last? f xs = last? f' xs := by
  induction xs with
  | nil => rfl
  | cons x xs ih =>
    rw [List.forall_mem_cons] at h
    rw [last?_cons, last?_cons, h.1, ih h.2]

theorem last?_toList {x? : Option α} : last? f x?.toList = x?.bind f := by
  cases x? with
  | none => rfl
  | some x => simp [last?]

theorem last?_filterMap {γ : Type} {g : γ → Option α} {zs : List γ} :
    last? f (zs.filterMap g) = last? (fun z => (g z).bind f) zs := by
  induction zs with
  | nil => rfl
  | cons z zs ih =>
    rw [List.filterMap_cons, last?_cons, ← ih]
    cases g z with
    | none => exact (Option.or_none ..).symm
    | some x => exact last?_cons

theorem exists_of_last?_eq_some (h : last? f xs = some value) :
    ∃ before x after, xs = before ++ x :: after ∧ f x = some value ∧
      ∀ other ∈ after, f other = none := by
  obtain ⟨after, x, before, hSplit, hValue, hAfter⟩ := List.findSome?_eq_some_iff.mp h
  refine ⟨before.reverse, x, after.reverse, ?_, hValue, ?_⟩
  · rw [← List.reverse_reverse xs, hSplit, List.reverse_append, List.reverse_cons,
      List.append_assoc, List.singleton_append]
  · exact fun other hOther => hAfter other (List.mem_reverse.mp hOther)

/-- The last of the elements that a filter lets through stands last of these in the whole list. -/
theorem exists_of_last?_filter {p : α → Bool} (h : last? f (xs.filter p) = some value) :
    ∃ before x after, xs = before ++ x :: after ∧ f x = some value ∧ p x ∧
      ∀ other ∈ after, p other → f other = none := by
  obtain ⟨before, x, after, hSplit, hValue, hAfter⟩ := exists_of_last?_eq_some h
  obtain ⟨front, rest, rfl, -, hRest⟩ := List.filter_eq_append_iff.mp hSplit
  obtain ⟨between, back, rfl, -, hFilter, rfl⟩ := List.filter_eq_cons_iff.mp hRest
  refine ⟨front ++ between, x, back, (List.append_assoc ..).symm, hValue, hFilter, ?_⟩
  exact fun other hOther hPasses => hAfter other (List.mem_filter.mpr ⟨hOther, hPasses⟩)

end Last

section Levels

variable {f : Rule → Option String} {levels : List Nat} {rules : List Rule} {rule : Rule}
  {value : String}

/-- The rules of some levels of specificity, level after level. -/
def ofLevels (levels : List Nat) (rules : List Rule) : List Rule :=
  levels.flatMap fun level => rules.filter (·.selector.specificity == level)

theorem mem_ofLevels :
    rule ∈ ofLevels levels rules ↔ rule ∈ rules ∧ rule.selector.specificity ∈ levels := by
  simp only [ofLevels, List.mem_flatMap, List.mem_filter, beq_iff_eq]
  constructor
  · rintro ⟨level, hLevel, hRule, rfl⟩
    exact ⟨hRule, hLevel⟩
  · rintro ⟨hRule, hLevel⟩
    exact ⟨_, hLevel, hRule, rfl⟩

/-- What stands last when the levels rise stands last on the highest level that has anything. -/
theorem exists_of_last?_ofLevels (hRising : levels.Pairwise (· < ·))
    (h : last? f (ofLevels levels rules) = some value) :
    ∃ before rule after, rules = before ++ rule :: after ∧ f rule = some value ∧
      rule.selector.specificity ∈ levels ∧
      (∀ other ∈ rules, other.selector.specificity ∈ levels → f other ≠ none →
        other.selector.specificity ≤ rule.selector.specificity) ∧
      ∀ other ∈ after, other.selector.specificity = rule.selector.specificity →
        f other = none := by
  induction levels with
  | nil => cases h
  | cons level levels ih =>
    obtain ⟨hLevel, hRising⟩ := List.pairwise_cons.mp hRising
    rw [ofLevels, List.flatMap_cons, last?_append, Option.or_eq_some_iff] at h
    -- the value comes from a higher level, or from this one if the higher levels have none
    obtain hHigher | ⟨hNone, hHere⟩ := h
    · obtain ⟨before, rule, after, hSplit, hValue, hMem, hHighest, hLast⟩ := ih hRising hHigher
      refine ⟨before, rule, after, hSplit, hValue, List.mem_cons_of_mem _ hMem, ?_, hLast⟩
      intro other hOther hIn hSome
      obtain hEq | hIn := List.mem_cons.mp hIn
      · exact hEq ▸ (hLevel _ hMem).le
      · exact hHighest other hOther hIn hSome
    · obtain ⟨before, rule, after, hSplit, hValue, hRule, hLast⟩ := exists_of_last?_filter hHere
      have hRule := beq_iff_eq.mp hRule
      refine ⟨before, rule, after, hSplit, hValue, hRule ▸ List.mem_cons_self, ?_, ?_⟩
      · intro other hOther hIn hSome
        obtain hEq | hIn := List.mem_cons.mp hIn
        · exact (hEq.trans hRule.symm).le
        · exact absurd (last?_eq_none_iff.mp hNone other (mem_ofLevels.mpr ⟨hOther, hIn⟩)) hSome
      · exact fun other hOther hEq => hLast other hOther (beq_iff_eq.mpr (hEq.trans hRule))

theorem filter_specificity {k : Nat} (h : ∀ rule ∈ rules, rule.selector.specificity = k)
    (level : Nat) :
    rules.filter (·.selector.specificity == level) = if level = k then rules else [] := by
  split
  · next hLevel => exact List.filter_eq_self.mpr fun rule hRule => by simp [h rule hRule, hLevel]
  · next hLevel =>
    refine List.filter_eq_nil_iff.mpr fun rule hRule => ?_
    simp [h rule hRule, Ne.symm hLevel]

theorem specificity_mem_levels (selector : Selector) : selector.specificity ∈ [0, 1, 2] := by
  cases selector <;> simp [Selector.specificity]

theorem wins_of_last?_bySpecificity {node : Graph.Node} {property : String}
    (h : last? (Rule.value? node property) (bySpecificity rules) = some value) :
    Wins rules node property value := by
  have hRising : [0, 1, 2].Pairwise (· < ·) := by decide
  obtain ⟨before, rule, after, hSplit, hValue, -, hHighest, hLast⟩ :=
    exists_of_last?_ofLevels hRising h
  have hHighest {other : Rule} (hOther : other ∈ rules)
      (hSome : other.value? node property ≠ none) :=
    hHighest other hOther (specificity_mem_levels _) hSome
  refine ⟨before, rule, after, hSplit, hValue, ?_, ?_⟩
  · exact fun other hOther => hHighest (hSplit ▸ List.mem_append_left _ hOther)
  · intro other hOther hSome
    refine lt_of_le_of_ne (hHighest ?_ hSome) fun hEq => hSome (hLast other hOther hEq)
    exact hSplit ▸ List.mem_append_right _ (List.mem_cons_of_mem _ hOther)

theorem last?_bySpecificity_eq_none_iff :
    last? f (bySpecificity rules) = none ↔ ∀ rule ∈ rules, f rule = none := by
  rw [last?_eq_none_iff]
  refine forall_congr' fun rule => ?_
  rw [show bySpecificity rules = ofLevels [0, 1, 2] rules from rfl, mem_ofLevels,
    and_iff_left (specificity_mem_levels _)]

end Levels

section Apply

variable {own : List String} {attrs : Attrs} {rule : Rule} {rules : List Rule} {key : String}
  {node : Graph.Node}

/-- What a rule writes, where some properties are given. -/
def Rule.writes (own : List String) (rule : Rule) : List (String × Value) :=
  (rule.declarations.entries.filter fun declaration =>
    properties.contains declaration.1 && !own.contains declaration.1).map fun declaration =>
    (declaration.1, .str declaration.2)

theorem Rule.apply_eq : rule.apply own attrs = attrs.insertAll (rule.writes own) := by
  rw [apply, Table.insertAll, writes, List.foldl_map, List.foldl_filter]

theorem Rule.mem_writes {value : Value} :
    (key, value) ∈ rule.writes own ↔
      (key ∈ properties ∧ key ∉ own) ∧
        ∃ text, rule.declarations.get? key = some text ∧ value = .str text := by
  simp only [writes, List.mem_map, List.mem_filter, Prod.mk.injEq, Bool.and_eq_true,
    Bool.not_eq_true', List.contains_eq_mem, decide_eq_true_eq, decide_eq_false_iff_not,
    Table.get?_eq_some_iff]
  constructor
  · rintro ⟨⟨_, text⟩, ⟨hMem, hFree⟩, rfl, rfl⟩
    exact ⟨hFree, text, hMem, rfl⟩
  · rintro ⟨hFree, text, hMem, rfl⟩
    exact ⟨(key, text), ⟨hMem, hFree⟩, rfl, rfl⟩

theorem Rule.of_mem_map_fst_writes (h : key ∈ (rule.writes own).map Prod.fst) :
    (key ∈ properties ∧ key ∉ own) ∧ rule.declarations.get? key ≠ none := by
  obtain ⟨⟨_, value⟩, hWritten, rfl⟩ := List.mem_map.mp h
  obtain ⟨hFree, text, hText, -⟩ := mem_writes.mp hWritten
  exact ⟨hFree, hText ▸ nofun⟩

theorem Rule.nodup_writes : ((rule.writes own).map Prod.fst).Nodup := by
  rw [writes, List.map_map]
  exact rule.declarations.nodup.sublist (List.filter_sublist.map Prod.fst)

/-- One step of the cascade: a rule writes over the attributes of a node that it selects. -/
def Rule.applyTo (own : List String) (node : Graph.Node) (attrs : Attrs) (rule : Rule) : Attrs :=
  if rule.selector.selects node then rule.apply own attrs else attrs

theorem Rule.get?_applyTo_of_free (hKey : key ∈ properties) (hFree : key ∉ own) :
    (rule.applyTo own node attrs).get? key =
      ((rule.value? node key).map Value.str).or (attrs.get? key) := by
  unfold applyTo value?
  split
  · rw [apply_eq]
    cases h : rule.declarations.get? key with
    | some text =>
      exact Table.get?_insertAll_of_mem nodup_writes (mem_writes.mpr ⟨⟨hKey, hFree⟩, text, h, rfl⟩)
    | none => exact Table.get?_insertAll_of_notMem fun hMem => (of_mem_map_fst_writes hMem).2 h
  · rfl

theorem Rule.get?_applyTo_of_kept (h : key ∉ properties ∨ key ∈ own) :
    (rule.applyTo own node attrs).get? key = attrs.get? key := by
  unfold applyTo
  split
  · rw [apply_eq]
    refine Table.get?_insertAll_of_notMem fun hMem => ?_
    obtain ⟨⟨hKey, hFree⟩, -⟩ := of_mem_map_fst_writes hMem
    exact h.elim (· hKey) hFree
  · rfl

theorem Rule.applyTo_eq_self (h : ∀ key ∈ properties, rule.value? node key ≠ none → key ∈ own) :
    rule.applyTo own node attrs = attrs := by
  unfold applyTo
  split
  · next hSelects =>
    have hNothing : rule.writes own = [] := by
      refine List.eq_nil_iff_forall_not_mem.mpr fun write hWritten => ?_
      obtain ⟨⟨hKey, hFree⟩, hSome⟩ := of_mem_map_fst_writes (List.mem_map_of_mem hWritten)
      exact hFree (h write.1 hKey (by rwa [value?, if_pos hSelects]))
    rw [apply_eq, hNothing, Table.insertAll_nil]
  · rfl

theorem Rule.keys_prefix_applyTo : attrs.keys <+: (rule.applyTo own node attrs).keys := by
  unfold applyTo
  split
  · exact ⟨_, apply_eq ▸ Table.keys_insertAll.symm⟩
  · exact List.prefix_rfl

theorem styleNode_eq :
    styleNode rules node =
      rules.foldl (Rule.applyTo (ownProperties node.attrs) node) node.attrs :=
  List.foldl_filter

theorem get?_foldl_applyTo_of_free (hKey : key ∈ properties) (hFree : key ∉ own) :
    (rules.foldl (Rule.applyTo own node) attrs).get? key =
      ((last? (Rule.value? node key) rules).map Value.str).or (attrs.get? key) := by
  induction rules generalizing attrs with
  | nil => rfl
  | cons rule rules ih =>
    rw [List.foldl_cons, ih, Rule.get?_applyTo_of_free hKey hFree, last?_cons]
    cases last? (Rule.value? node key) rules <;> rfl

theorem get?_foldl_applyTo_of_kept (h : key ∉ properties ∨ key ∈ own) :
    (rules.foldl (Rule.applyTo own node) attrs).get? key = attrs.get? key := by
  induction rules generalizing attrs with
  | nil => rfl
  | cons rule rules ih => rw [List.foldl_cons, ih, Rule.get?_applyTo_of_kept h]

theorem foldl_applyTo_eq_self
    (h : ∀ rule ∈ rules, ∀ key ∈ properties, rule.value? node key ≠ none → key ∈ own) :
    rules.foldl (Rule.applyTo own node) attrs = attrs := by
  induction rules with
  | nil => rfl
  | cons rule rules ih =>
    obtain ⟨hRule, hRules⟩ := List.forall_mem_cons.mp h
    rw [List.foldl_cons, Rule.applyTo_eq_self hRule, ih hRules]

theorem keys_prefix_styleNode (rules : List Rule) (node : Graph.Node) :
    node.attrs.keys <+: (styleNode rules node).keys := by
  rw [styleNode_eq]
  generalize ownProperties node.attrs = own
  generalize node.attrs = attrs
  induction rules generalizing attrs with
  | nil => exact List.prefix_rfl
  | cons rule rules ih => exact Rule.keys_prefix_applyTo.trans (ih _)

theorem mem_ownProperties :
    key ∈ ownProperties attrs ↔ key ∈ properties ∧ attrs.attr key ≠ .none := by
  simp [ownProperties]

theorem get?_styleNode_of_free (rules : List Rule) (node : Graph.Node)
    (hKey : key ∈ properties) (hFree : node.attrs.attr key = .none) :
    (styleNode rules node).get? key =
      ((last? (Rule.value? node key) rules).map Value.str).or (node.attrs.get? key) := by
  rw [styleNode_eq]
  exact get?_foldl_applyTo_of_free hKey fun hOwn => (mem_ownProperties.mp hOwn).2 hFree

theorem get?_styleNode_of_kept (rules : List Rule) (node : Graph.Node)
    (h : key ∉ properties ∨ node.attrs.attr key ≠ .none) :
    (styleNode rules node).get? key = node.attrs.get? key := by
  rw [styleNode_eq]
  refine get?_foldl_applyTo_of_kept ?_
  by_cases hKey : key ∈ properties
  · exact Or.inr (mem_ownProperties.mpr ⟨hKey, h.resolve_left (not_not_intro hKey)⟩)
  · exact Or.inl hKey

theorem Rule.value?_styleNode :
    rule.value? ⟨node.id, styleNode rules node⟩ key = rule.value? node key := by
  have hClass : (styleNode rules node).attr "class" = node.attrs.attr "class" := by
    rw [Table.attr, get?_styleNode_of_kept rules node (Or.inl (by decide))]
    rfl
  have hSelects : rule.selector.selects ⟨node.id, styleNode rules node⟩ =
      rule.selector.selects node := by
    cases rule.selector <;> simp [Selector.selects, Graph.Node.classes, hClass]
  rw [value?, hSelects]
  rfl

/-- A property that some rule has something for is given after the cascade. -/
theorem attr_styleNode_ne_none (hKey : key ∈ properties) (hRule : rule ∈ rules)
    (h : rule.value? node key ≠ none) : (styleNode rules node).attr key ≠ .none := by
  by_cases hFree : node.attrs.attr key = .none
  · cases hLast : last? (Rule.value? node key) rules with
    | none => exact absurd (last?_eq_none_iff.mp hLast rule hRule) h
    | some value => simp [Table.attr, get?_styleNode_of_free rules node hKey hFree, hLast]
  · rwa [Table.attr, get?_styleNode_of_kept rules node (Or.inr hFree)]

theorem styleNode_styleNode (rules : List Rule) (id : String) (attrs : Attrs) :
    styleNode rules ⟨id, styleNode rules ⟨id, attrs⟩⟩ = styleNode rules ⟨id, attrs⟩ := by
  rw [styleNode_eq]
  refine foldl_applyTo_eq_self fun rule hRule key hKey h => mem_ownProperties.mpr ⟨hKey, ?_⟩
  exact attr_styleNode_ne_none hKey hRule (Rule.value?_styleNode ▸ h)

end Apply

end Style

namespace Graph

open Style (properties Wins sourceRules)

variable {g : Graph} {source : String}

theorem styleSource?_eq_some_iff :
    g.styleSource? = some source ↔
      (g.attrs.attr "model_stylesheet").string? = some source ∧ source ≠ "" := by
  unfold styleSource?
  split
  · next h => simp +contextual [h, eq_comm]
  · next h => simp [h]
  · next text hText h =>
    rw [h, Option.some.injEq]
    exact ⟨fun hEq => ⟨hEq, hEq ▸ hText⟩, And.left⟩

theorem styled_of_source (h : g.styleSource? = some source) :
    g.styled =
      let style id attrs := Style.styleNode (Style.parse source) ⟨id, attrs⟩
      { g with nodes := g.nodes.mapValues style } := by
  rw [styled, h]

theorem get?_nodes_styled (h : g.styleSource? = some source) {id : String} :
    g.styled.nodes.get? id =
      (g.nodes.get? id).map fun attrs => Style.styleNode (Style.parse source) ⟨id, attrs⟩ := by
  rw [styled_of_source h]
  exact Table.get?_mapValues

theorem styled_styled (g : Graph) : g.styled.styled = g.styled := by
  cases h : g.styleSource? with
  | none =>
    have hStyled : g.styled = g := by rw [styled, h]
    rw [hStyled, hStyled]
  | some source =>
    have hSource : g.styled.styleSource? = some source := by rw [styled_of_source h]; exact h
    rw [styled_of_source hSource, styled_of_source h]
    simp only [Table.mapValues_mapValues, Style.styleNode_styleNode]

/-- The cascade gives a node the documented value for every property that the node has none of its
own for, and changes nothing else; a further application changes nothing at all. -/
theorem styled_cascade (h : (g.attrs.attr "model_stylesheet").string? = some source)
    (hSource : source ≠ "") :
    (∃ nodes, g.styled = { g with nodes } ∧ nodes.keys = g.nodes.keys) ∧
    (∀ id attrs, g.nodes.get? id = some attrs → ∃ attrs', g.styled.nodes.get? id = some attrs' ∧
      attrs.keys <+: attrs'.keys ∧
      (∀ key, key ∉ properties ∨ attrs.attr key ≠ .none → attrs'.get? key = attrs.get? key) ∧
      ∀ p ∈ properties, attrs.attr p = .none →
        (∃ value, (∀ other, Wins (sourceRules source) ⟨id, attrs⟩ p other ↔ other = value) ∧
          attrs'.get? p = some (.str value)) ∨
        (∀ rule ∈ sourceRules source, rule.value? ⟨id, attrs⟩ p = none) ∧
          attrs'.get? p = attrs.get? p) ∧
    ∀ times, styled^[times] g.styled = g.styled := by
  have h := styleSource?_eq_some_iff.mpr ⟨h, hSource⟩
  refine ⟨⟨_, styled_of_source h, Table.keys_mapValues ..⟩, ?_,
    Function.iterate_fixed (styled_styled g)⟩
  intro id attrs hAttrs
  have hNode : g.styled.nodes.get? id =
      some (Style.styleNode (Style.parse source) ⟨id, attrs⟩) := by
    rw [get?_nodes_styled h, hAttrs]
    rfl
  refine ⟨_, hNode, Style.keys_prefix_styleNode _ ⟨id, attrs⟩, ?_, ?_⟩
  · intro key hKept
    exact Style.get?_styleNode_of_kept _ ⟨id, attrs⟩ hKept
  · intro p hProperty hFree
    have hGet := Style.get?_styleNode_of_free (Style.parse source) ⟨id, attrs⟩ hProperty hFree
    cases hLast : Style.last? (Style.Rule.value? ⟨id, attrs⟩ p) (Style.parse source) with
    | none =>
      refine Or.inr ⟨Style.last?_bySpecificity_eq_none_iff.mp hLast, ?_⟩
      rw [hGet, hLast]
      rfl
    | some value =>
      have hWins := Style.wins_of_last?_bySpecificity hLast
      refine Or.inl ⟨value, fun other => ⟨(·.eq hWins), fun hEq => hEq ▸ hWins⟩, ?_⟩
      rw [hGet, hLast]
      rfl

/-- Two rules of one class, a rule for all nodes, and a property of the node's own. -/
theorem styled_cascade_at_tie :
    ∃ (g : Graph) (source : String), (g.attrs.attr "model_stylesheet").string? = some source ∧
      source ≠ "" ∧ g.nodes.keys = ["x"] ∧
      ∃ attrs', g.styled.nodes.get? "x" = some attrs' ∧
        attrs'.get? "llm_model" = some (.str "second") ∧
        attrs'.get? "llm_provider" = some (.str "own") ∧
        attrs'.get? "reasoning_effort" = some (.str "low") ∧
        styled^[3] g.styled = g.styled := by
  obtain ⟨source, hText⟩ : ∃ source, source = ".c \x7b llm_model: first \x7d " ++
      ".c \x7b llm_model: second; llm_provider: other \x7d " ++
      "* \x7b llm_model: any; reasoning_effort: low \x7d" := ⟨_, rfl⟩
  obtain ⟨attrs, hAttrs⟩ : ∃ attrs : Attrs, attrs =
      Table.ofList [("class", .str "b, c"), ("llm_provider", .str "own")] := ⟨_, rfl⟩
  obtain ⟨g, hg⟩ : ∃ g : Graph, g =
      { name := "w", attrs := Table.ofList [("model_stylesheet", .str source)],
        nodes := Table.ofList [("x", attrs)] } := ⟨_, rfl⟩
  have hRules : sourceRules source = [
      ⟨.cls "c", Table.ofList [("llm_model", "first")]⟩,
      ⟨.cls "c", Table.ofList [("llm_model", "second"), ("llm_provider", "other")]⟩,
      ⟨.all, Table.ofList [("llm_model", "any"), ("reasoning_effort", "low")]⟩] := by
    rw [hText]
    decide +kernel
  have hModel : Wins (sourceRules source) ⟨"x", attrs⟩ "llm_model" "second" := by
    rw [hRules, hAttrs]
    exact ⟨[_], _, [_], rfl, by decide +kernel, by decide, by decide⟩
  have hEffort : Wins (sourceRules source) ⟨"x", attrs⟩ "reasoning_effort" "low" := by
    rw [hRules, hAttrs]
    exact ⟨[_, _], _, [], rfl, by decide +kernel, by decide +kernel, by decide⟩
  have hSource : (g.attrs.attr "model_stylesheet").string? = some source := by rw [hg]; rfl
  have hNonempty : source ≠ "" := by rw [hText]; decide
  have hNode : g.nodes.get? "x" = some attrs := by rw [hg]; rfl
  obtain ⟨-, hNodes, hAgain⟩ := styled_cascade hSource hNonempty
  obtain ⟨attrs', hStyled, -, hKept, hFree⟩ := hNodes "x" attrs hNode
  have hWinner {p value : String} (hProperty : p ∈ properties) (hNone : attrs.attr p = .none)
      (hWins : Wins (sourceRules source) ⟨"x", attrs⟩ p value) :
      attrs'.get? p = some (.str value) := by
    obtain ⟨other, hOnly, hGet⟩ | ⟨hNothing, -⟩ := hFree p hProperty hNone
    · rw [hGet, (hOnly value).mp hWins]
    · obtain ⟨before, rule, after, hSplit, hValue, -⟩ := hWins
      have hMem : rule ∈ sourceRules source :=
        hSplit ▸ List.mem_append_right _ List.mem_cons_self
      exact absurd (hValue.symm.trans (hNothing rule hMem)) nofun
  refine ⟨g, source, hSource, hNonempty, by rw [hg]; rfl, attrs', hStyled,
    hWinner (by decide) (by rw [hAttrs]; rfl) hModel, ?_,
    hWinner (by decide) (by rw [hAttrs]; rfl) hEffort, hAgain 3⟩
  rw [hKept _ (Or.inr (by rw [hAttrs]; decide)), hAttrs]
  rfl

end Graph

end Workflow
