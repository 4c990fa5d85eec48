import Workflow.Proofs.Source.Comment
import Workflow.Proofs.Source.Written

/-!
# Trees of the same lexemes

The grammar of node trees looks at the kinds and values of tokens. So tokens that say the same are
grouped alike wherever they stand, and give the same trees but for their places.
-/

namespace Workflow.Source

open Token Node

section Lexemes

variable {t u : Token} {ts us : List Token}

theorem Token.scalar_eq_of_lexeme (h : u.lexeme = t.lexeme) : u.scalar = t.scalar := by
  obtain ⟨hKind, hValue⟩ := Prod.mk.inj h
  simp only [scalar, hKind, hValue]

theorem Token.IsScalar.of_lexeme (hScalar : t.IsScalar) (h : u.lexeme = t.lexeme) :
    u.IsScalar := by
  obtain ⟨hKind, -⟩ := Prod.mk.inj h
  unfold IsScalar
  rwa [hKind]

theorem Token.IsShort.of_lexeme (hShort : t.IsShort) (h : u.lexeme = t.lexeme) : u.IsShort := by
  obtain ⟨hKind, hValue⟩ := Prod.mk.inj h
  unfold IsShort digits
  rwa [hKind, hValue]

theorem forall_isShort_of_lexemes (hShort : ∀ t ∈ ts, t.IsShort)
    (h : us.map lexeme = ts.map lexeme) : ∀ u ∈ us, u.IsShort := by
  intro u hu
  have hMem : u.lexeme ∈ ts.map lexeme := h ▸ List.mem_map_of_mem hu
  obtain ⟨t, ht, hLexeme⟩ := List.mem_map.mp hMem
  exact (hShort t ht).of_lexeme hLexeme.symm

theorem exists_item_of_lexemes (item : Item) (h : us.map lexeme = item.tokens.map lexeme) :
    ∃ item' : Item, item'.tokens = us ∧ item'.argument? = item.argument? ∧
      item'.property? = item.property? := by
  cases item with
  | argument t hScalar =>
    obtain ⟨u, rfl, hLexeme⟩ := List.map_eq_singleton_iff.mp h
    refine ⟨.argument u (hScalar.of_lexeme hLexeme), rfl, ?_, rfl⟩
    exact congrArg some (scalar_eq_of_lexeme hLexeme)
  | property key sign value hKey hSign hValue =>
    obtain ⟨k, _, rfl, hK, h⟩ := List.map_eq_cons_iff.mp h
    obtain ⟨s, _, rfl, hS, h⟩ := List.map_eq_cons_iff.mp h
    obtain ⟨v, rfl, hV⟩ := List.map_eq_singleton_iff.mp h
    obtain ⟨hKind, hWord⟩ := Prod.mk.inj hK
    refine ⟨.property k s v (hKind.trans hKey) ((congrArg Prod.fst hS).trans hSign)
      (hValue.of_lexeme hV), rfl, rfl, ?_⟩
    exact congrArg some (Prod.ext hWord (scalar_eq_of_lexeme hV))

theorem exists_items_of_lexemes (items : List Item)
    (h : us.map lexeme = (items.flatMap Item.tokens).map lexeme) :
    ∃ items' : List Item, items'.flatMap Item.tokens = us ∧ Item.args items' = Item.args items ∧
      Item.props items' = Item.props items := by
  have hItems : ∃ items' : List Item, items'.flatMap Item.tokens = us ∧
      items'.map Item.argument? = items.map Item.argument? ∧
      items'.map Item.property? = items.map Item.property? := by
    induction items generalizing us with
    | nil => exact ⟨[], (List.map_eq_nil_iff.mp h).symm, rfl, rfl⟩
    | cons item items ih =>
      rw [List.flatMap_cons, List.map_append] at h
      obtain ⟨vs, ws, rfl, hFirst, hRest⟩ := List.map_eq_append_iff.mp h
      obtain ⟨item', rfl, hArgument, hProperty⟩ := exists_item_of_lexemes item hFirst
      obtain ⟨items', rfl, hArguments, hProperties⟩ := ih hRest
      exact ⟨item' :: items', rfl, congrArg₂ List.cons hArgument hArguments,
        congrArg₂ List.cons hProperty hProperties⟩
  obtain ⟨items', hTokens, hArguments, hProperties⟩ := hItems
  have hArgs := congrArg (List.filterMap id) hArguments
  have hProps := congrArg (List.filterMap id) hProperties
  simp only [List.filterMap_map, Function.id_comp] at hArgs hProps
  exact ⟨items', hTokens, hArgs, congrArg Table.ofList hProps⟩

/-- A tree has the nodes of another but for their places, and stands before what may stand behind
the other. -/
structure Derivation.Mirrors {s : Symbol} (d d' : Derivation s) : Prop where
  nodes : d.nodes.map unplaced = d'.nodes.map unplaced
  nesting : d.nesting = d'.nesting
  separated : ∀ {next next' : Option Token}, next.map lexeme = next'.map lexeme →
    d'.IsSeparated next' → d.IsSeparated next

/-- Tokens that say the same are grouped alike. -/
theorem exists_mirrors_of_lexemes {s : Symbol} (d : Derivation s)
    (h : us.map lexeme = d.tokens.map lexeme) :
    ∃ d' : Derivation s, d'.tokens = us ∧ d'.Mirrors d := by
  induction d generalizing us with
  | done => exact ⟨.done, (List.map_eq_nil_iff.mp h).symm, rfl, rfl, fun _ => id⟩
  | newline t hNewline others ih =>
    obtain ⟨u, us, rfl, hLexeme, h⟩ := List.map_eq_cons_iff.mp h
    obtain ⟨others', rfl, hOthers⟩ := ih h
    have hKind : u.kind = .newline := (congrArg Prod.fst hLexeme).trans hNewline
    exact ⟨.newline u hKind others', rfl, hOthers.nodes, hOthers.nesting, hOthers.separated⟩
  | node first others ihFirst ihOthers =>
    rw [Derivation.tokens, List.map_append] at h
    obtain ⟨vs, ws, rfl, hFirst, hOthers⟩ := List.map_eq_append_iff.mp h
    obtain ⟨first', rfl, hFirst'⟩ := ihFirst hFirst
    obtain ⟨others', rfl, hOthers'⟩ := ihOthers hOthers
    refine ⟨.node first' others', rfl, ?_, ?_, fun hNext hSeparated => ⟨?_, ?_⟩⟩
    · rw [Derivation.nodes, Derivation.nodes, List.map_append, List.map_append, hFirst'.nodes,
        hOthers'.nodes]
    · rw [Derivation.nesting, Derivation.nesting, hFirst'.nesting, hOthers'.nesting]
    · refine hFirst'.separated ?_ hSeparated.1
      rw [Option.map_or, Option.map_or, ← List.head?_map, ← List.head?_map, hOthers, hNext]
    · exact hOthers'.separated hNext hSeparated.2
  | line name hName items =>
    obtain ⟨u, us, rfl, hLexeme, h⟩ := List.map_eq_cons_iff.mp h
    obtain ⟨items', rfl, hArgs, hProps⟩ := exists_items_of_lexemes items h
    obtain ⟨hKind, hValue⟩ := Prod.mk.inj hLexeme
    refine ⟨.line u (hKind.trans hName) items', rfl, ?_, rfl, fun hNext hSeparated => ?_⟩
    · rw [Derivation.nodes, Derivation.nodes, hArgs, hProps, hValue]
      rfl
    · intro v hv
      rw [Option.mem_def.mp hv] at hNext
      obtain ⟨t, ht, hSame⟩ := Option.map_eq_some_iff.mp hNext.symm
      have hEnd : t.kind = v.kind := congrArg Prod.fst hSame
      rw [← hEnd]
      exact hSeparated t ht
  | block name hName items opening hOpening inner closing hClosing ih =>
    obtain ⟨u, us, rfl, hLexeme, h⟩ := List.map_eq_cons_iff.mp h
    rw [List.map_append] at h
    obtain ⟨vs, ws, rfl, hItems, h⟩ := List.map_eq_append_iff.mp h
    obtain ⟨o, ws, rfl, hO, h⟩ := List.map_eq_cons_iff.mp h
    rw [List.map_append] at h
    obtain ⟨ws, xs, rfl, hInner, h⟩ := List.map_eq_append_iff.mp h
    obtain ⟨c, rfl, hC⟩ := List.map_eq_singleton_iff.mp h
    obtain ⟨items', rfl, hArgs, hProps⟩ := exists_items_of_lexemes items hItems
    obtain ⟨inner', rfl, hInner'⟩ := ih hInner
    obtain ⟨hKind, hValue⟩ := Prod.mk.inj hLexeme
    refine ⟨.block u (hKind.trans hName) items' o ((congrArg Prod.fst hO).trans hOpening) inner' c
      ((congrArg Prod.fst hC).trans hClosing), rfl, ?_, ?_, fun _ hSeparated => ?_⟩
    · simp only [Derivation.nodes, List.map_cons, List.map_nil, unplaced, unplacedAll_eq_map, hArgs,
        hProps, hValue, hInner'.nodes]
    · simp only [Derivation.nesting, hInner'.nesting]
    · have hEnd : (some c).map lexeme = (some closing).map lexeme := congrArg some hC
      exact hInner'.separated hEnd hSeparated

theorem exists_ofTokens_of_lexemes {nodes : List Node} (h : us.map lexeme = ts.map lexeme)
    (hTree : ofTokens ts = .ok nodes) :
    ∃ nodes', ofTokens us = .ok nodes' ∧ nodes'.map unplaced = nodes.map unplaced := by
  obtain ⟨d, hDocument, hShort, rfl⟩ := exists_isDocument_of_ofTokens hTree
  rw [← hDocument.tokens] at h
  obtain ⟨d', rfl, hMirrors⟩ := exists_mirrors_of_lexemes d h
  have hDocument' : d'.IsDocument d'.tokens :=
    ⟨rfl, hMirrors.separated rfl hDocument.separated, hMirrors.nesting ▸ hDocument.nesting⟩
  rw [hDocument.tokens] at h
  exact ⟨d'.nodes, hDocument'.givesIf.1 (forall_isShort_of_lexemes hShort h), hMirrors.nodes⟩

end Lexemes

end Workflow.Source
