import Workflow.Proofs.Source.Written

/-!
# Node trees of sources

What a tree that was read holds: its keys are words, and its values can be written again, except
for numbers with a point.
-/

namespace Workflow

open Workflow.Source Workflow.Text

/-- The values that a source can give. -/
def Value.IsScanned (v : Value) : Prop :=
  v.IsWritable ∨ ∃ x, v = .float x

namespace Source

theorem Token.IsLexical.isScanned_scalar {t : Token} (h : t.IsLexical) (hScalar : t.IsScalar)
    (hShort : t.IsShort) : t.scalar.IsScanned := by
  obtain hKind | hKind | hKind | hKind := hScalar
  · exact Or.inl (by simp [Token.scalar, hKind, Value.IsWritable])
  · by_cases hPoint : '.' ∈ t.value.toList
    · exact Or.inr ⟨Number.ofPointed t.value.toList, by simp [Token.scalar, hKind, hPoint]⟩
    · refine Or.inl ?_
      have hCount := Number.length_toDigits_ofNumeral_le (h.digits hKind hPoint)
      have hFew : t.digits ≤ 4300 := hShort hKind hPoint
      simp only [Token.scalar, hKind, hPoint, if_false, Value.IsWritable]
      exact hCount.trans (by rw [Token.digits] at hFew; omega)
  · exact Or.inl (by simp [Token.scalar, hKind, Value.IsWritable])
  · exact Or.inl (by simp [Token.scalar, hKind, Value.IsWritable])

/-- A tree that can come from a source. -/
inductive Node.IsScanned : Node → Prop
  | intro {n : Node} (args : ∀ v ∈ n.args, v.IsScanned)
      (props : ∀ e ∈ n.props.entries, Token.IsWord e.1 ∧ e.2.IsScanned)
      (children : ∀ m ∈ n.children, m.IsScanned) :
    n.IsScanned

namespace Node.IsScanned

variable {n : Node}

theorem args (h : n.IsScanned) : ∀ v ∈ n.args, v.IsScanned := by
  cases h
  assumption

theorem props (h : n.IsScanned) : ∀ e ∈ n.props.entries, Token.IsWord e.1 ∧ e.2.IsScanned := by
  cases h
  assumption

theorem children (h : n.IsScanned) : ∀ m ∈ n.children, m.IsScanned := by
  cases h
  assumption

end Node.IsScanned

section Trees

variable {items : List Item} {ts : List Token}

theorem isScanned_args (h : ∀ t ∈ items.flatMap Item.tokens, t.IsLexical ∧ t.IsShort) :
    ∀ v ∈ Item.args items, v.IsScanned := by
  intro v hv
  obtain ⟨item, hItem, hArgument⟩ := List.mem_filterMap.mp hv
  match item with
  | .argument t hScalar =>
    cases hArgument
    obtain ⟨hLexical, hShort⟩ := h t (List.mem_flatMap.mpr ⟨_, hItem, List.mem_singleton_self t⟩)
    exact hLexical.isScanned_scalar hScalar hShort
  | .property .. => cases hArgument

theorem isScanned_props (h : ∀ t ∈ items.flatMap Item.tokens, t.IsLexical ∧ t.IsShort) :
    ∀ e ∈ (Item.props items).entries, Token.IsWord e.1 ∧ e.2.IsScanned := by
  intro e he
  obtain hWritten | ⟨hOld, -⟩ := Table.mem_entries_insertAll he
  · obtain ⟨item, hItem, hProperty⟩ := List.mem_filterMap.mp hWritten
    match item with
    | .argument .. => cases hProperty
    | .property key sign value hKey hSign hScalar =>
      cases hProperty
      have hTokens : ∀ t ∈ [key, sign, value], t.IsLexical ∧ t.IsShort := fun t ht =>
        h t (List.mem_flatMap.mpr ⟨_, hItem, ht⟩)
      obtain ⟨hLexical, hShort⟩ := hTokens value (by simp)
      exact ⟨(hTokens key (by simp)).1.word hKey, hLexical.isScanned_scalar hScalar hShort⟩
  · cases hOld

theorem Derivation.isScanned {s : Symbol} (d : Derivation s)
    (h : ∀ t ∈ d.tokens, t.IsLexical ∧ t.IsShort) : ∀ n ∈ d.nodes, n.IsScanned := by
  induction d with
  | done => exact nofun
  | newline t hNewline others ih => exact ih (List.forall_mem_cons.mp h).2
  | node first others ihFirst ihOthers =>
    obtain ⟨hFirst, hOthers⟩ := List.forall_mem_append.mp h
    exact List.forall_mem_append.mpr ⟨ihFirst hFirst, ihOthers hOthers⟩
  | line name hName items =>
    have hItems := (List.forall_mem_cons.mp h).2
    exact List.forall_mem_singleton.mpr ⟨isScanned_args hItems, isScanned_props hItems, nofun⟩
  | block name hName items opening hOpening inner closing hClosing ih =>
    simp only [tokens, List.forall_mem_cons, List.forall_mem_append] at h
    obtain ⟨-, hItems, -, hInner, -⟩ := h
    exact List.forall_mem_singleton.mpr
      ⟨isScanned_args hItems, isScanned_props hItems, ih hInner⟩

theorem isScanned_of_source {source : String} {nodes : List Node} (hScan : Token.scan source = .ok ts)
    (hRead : Node.ofTokens ts = .ok nodes) : ∀ n ∈ nodes, n.IsScanned := by
  obtain ⟨d, hDocument, hShort, rfl⟩ := exists_isDocument_of_ofTokens hRead
  refine d.isScanned fun t ht => ?_
  rw [hDocument.tokens] at ht
  exact ⟨Token.isLexical_of_scan hScan t ht, hShort t ht⟩

end Trees

end Source

end Workflow
