import Workflow.Proofs.Source.Layers

/-!
# What the readers of nodes take

The readers take the tokens of a separated tree whose blocks do not nest too deeply, and give the
nodes of the tree. Only an integer with too many digits keeps them from it.
-/

namespace Workflow.Source

/-- The braces around a run of nodes: in a block, `tail` is its closing brace and the `rest`. -/
def Closes (inBlock : Bool) (tail rest : List Token) : Prop :=
  match inBlock with
  | true => ∃ closing, closing.kind = .closing ∧ tail = closing :: rest
  | false => tail = [] ∧ rest = []

/-- What the readers take: a tree that is separated, nests at most `depth` deep and has only short
integers. -/
structure Derivation.Fits {s : Symbol} (d : Derivation s) (depth : Nat) (next : Option Token) :
    Prop where
  separated : d.IsSeparated next
  nesting : d.nesting ≤ depth
  short : ∀ t ∈ d.tokens, t.IsShort

section Soundness

open Node

variable {inBlock : Bool} {reader : (t : Token) → (ts : List Token) → Reading Node ts}
  {t : Token} {ts rest : List Token} {depth : Nat} {args : List Value} {props : Attrs}
  {out : List Value × Attrs} {node : Node} {nodes : List Node}

theorem Token.isShort_of_kind_ne (h : t.kind ≠ .number) : t.IsShort :=
  fun hKind => absurd hKind h

theorem exists_items_of_result
    (h : (readItems args props ts).result = .ok (out, rest)) :
    ∃ items, ts = items.flatMap Item.tokens ++ rest ∧ EndsItems rest ∧
      (∀ t ∈ items.flatMap Item.tokens, t.IsShort) ∧ out.1 = args.reverse ++ Item.args items ∧
      out.2 = props.insertAll (items.filterMap Item.property?) := by
  induction ts using (measure List.length).wf.induction generalizing args props with
  | h ts ih =>
    cases itemsFront ts with
    | ends hEnds =>
      rw [result_readItems_of_ends hEnds] at h
      cases h
      exact ⟨[], rfl, hEnds, nofun, (List.append_nil _).symm, rfl⟩
    | dangling hKey hSign =>
      rw [result_readItems_dangling hKey hSign] at h
      cases h
    | @property t sign value more hKey hSign =>
      rw [result_readItems_property hKey hSign] at h
      obtain ⟨v, hValue, h⟩ := Except.bind_eq_ok_iff.mp h
      obtain ⟨hScalar, hShort, rfl⟩ := readValue_eq_ok_iff.mp hValue
      have hShorter : more.length < (t :: sign :: value :: more).length := by
        simp only [List.length_cons]
        omega
      obtain ⟨items, rfl, hEnds, hItems, hArgs, hProps⟩ := ih more hShorter h
      refine ⟨.property t sign value hKey hSign hScalar :: items, rfl, hEnds, ?_, hArgs, hProps⟩
      have hFirst : t.IsShort := Token.isShort_of_kind_ne (by simp [hKey])
      have hSecond : sign.IsShort := Token.isShort_of_kind_ne (by simp [hSign])
      simpa [Item.tokens, hFirst, hSecond, hShort] using hItems
    | @argument t more hLine hNext =>
      rw [result_readItems_argument hLine hNext] at h
      obtain ⟨v, hValue, h⟩ := Except.bind_eq_ok_iff.mp h
      obtain ⟨hScalar, hShort, rfl⟩ := readValue_eq_ok_iff.mp hValue
      obtain ⟨items, rfl, hEnds, hItems, hArgs, hProps⟩ := ih more (Nat.lt_succ_self _) h
      refine ⟨.argument t hScalar :: items, rfl, hEnds, ?_, ?_, hProps⟩
      · simpa [Item.tokens, hShort] using hItems
      · simpa [Item.args, Item.argument?] using hArgs

theorem exists_elements_of_result
    (hReader : ∀ {t ts node rest}, (reader t ts).result = .ok (node, rest) →
      ∃ d : Derivation .node, d.tokens ++ rest = t :: ts ∧ d.Fits depth rest.head? ∧
        d.nodes = [node])
    (h : (readNodes inBlock reader ts).result = .ok (nodes, rest)) :
    ∃ d : Derivation .elements, ∃ tail, d.tokens ++ tail = ts ∧ Closes inBlock tail rest ∧
      d.Fits depth tail.head? ∧ d.nodes = nodes := by
  -- what a node leaves over is no suffix by definition, so the induction is on the length
  induction ts using (measure List.length).wf.induction generalizing nodes with
  | h ts ih =>
    match ts with
    | [] =>
      rw [result_readNodes_nil] at h
      cases inBlock with
      | true => cases h
      | false =>
        cases h
        exact ⟨.done, [], rfl, ⟨rfl, rfl⟩, ⟨trivial, Nat.zero_le _, nofun⟩, rfl⟩
    | t :: ts =>
      by_cases hNewline : t.kind = .newline
      · rw [result_readNodes_newline hNewline] at h
        obtain ⟨d, tail, rfl, hCloses, hFits, hNodes⟩ := ih ts (Nat.lt_succ_self _) h
        have hShort : t.IsShort := Token.isShort_of_kind_ne (by simp [hNewline])
        refine ⟨.newline t hNewline d, tail, rfl, hCloses, ?_, hNodes⟩
        exact ⟨hFits.separated, hFits.nesting, List.forall_mem_cons.mpr ⟨hShort, hFits.short⟩⟩
      by_cases hClosing : t.kind = .closing
      · rw [result_readNodes_closing hClosing] at h
        cases inBlock with
        | true =>
          obtain ⟨rfl, rfl⟩ := Prod.mk.inj (Except.ok.inj h)
          exact ⟨.done, t :: ts, rfl, ⟨t, hClosing, rfl⟩, ⟨trivial, Nat.zero_le _, nofun⟩, rfl⟩
        | false => cases h
      · rw [result_readNodes_node hNewline hClosing] at h
        obtain ⟨⟨first, after⟩, hFirst, h⟩ := Except.bind_eq_ok_iff.mp h
        obtain ⟨⟨others, _⟩, hOthers, h⟩ := Except.bind_eq_ok_iff.mp h
        cases h
        obtain ⟨d, hTokens, hFits, hNodes⟩ := hReader hFirst
        have hShorter : after.length < (t :: ts).length :=
          Nat.lt_succ_of_le (Reading.length_le hFirst)
        obtain ⟨d', tail, rfl, hCloses, hFits', hNodes'⟩ := ih after hShorter hOthers
        refine ⟨.node d d', tail, ?_, hCloses, ⟨⟨?_, hFits'.separated⟩, ?_, ?_⟩, ?_⟩
        · rw [Derivation.tokens, List.append_assoc, hTokens]
        · rw [← List.head?_append]
          exact hFits.separated
        · exact Nat.max_le.mpr ⟨hFits.nesting, hFits'.nesting⟩
        · exact List.forall_mem_append.mpr ⟨hFits.short, hFits'.short⟩
        · rw [Derivation.nodes, hNodes, hNodes']
          rfl

theorem exists_node_of_result (h : (readNode depth t ts).result = .ok (node, rest)) :
    ∃ d : Derivation .node, d.tokens ++ rest = t :: ts ∧ d.Fits depth rest.head? ∧
      d.nodes = [node] := by
  -- a block is read with one level less, from tokens that the items have left over
  induction depth using Nat.strongRecOn generalizing t ts node rest with
  | ind depth ih =>
    by_cases hName : t.kind = .word
    case neg =>
      rw [result_readNode_of_not_word hName] at h
      cases h
    rw [result_readNode hName] at h
    obtain ⟨⟨⟨args, props⟩, after⟩, hItems, h⟩ := Except.bind_eq_ok_iff.mp h
    obtain ⟨items, rfl, hEnds, hShort, hArgs, hProps⟩ := exists_items_of_result hItems
    obtain rfl : args = Item.args items := hArgs
    obtain rfl : props = Item.props items := hProps
    have hNameShort : t.IsShort := Token.isShort_of_kind_ne (by simp [hName])
    by_cases hLine : ∀ b ∈ after.head?, b.kind ≠ .opening
    · rw [readBody_of_not_opening hLine] at h
      cases h
      refine ⟨.line t hName items, rfl, ⟨?_, Nat.zero_le _, ?_⟩, rfl⟩
      · intro b hb
        simpa [endsLine, hLine b hb] using hEnds b hb
      · exact List.forall_mem_cons.mpr ⟨hNameShort, hShort⟩
    · push Not at hLine
      obtain ⟨b, hHead, hOpening⟩ := hLine
      obtain ⟨block, rfl⟩ := List.head?_eq_some_iff.mp hHead
      have hOpeningShort : b.IsShort := Token.isShort_of_kind_ne (by simp [hOpening])
      cases depth with
      | zero =>
        rw [readBody_zero hOpening] at h
        cases h
      | succ depth =>
        rw [readBody_succ hOpening] at h
        obtain ⟨⟨nodes, _⟩, hInner, h⟩ := Except.bind_eq_ok_iff.mp h
        cases h
        obtain ⟨d, tail, rfl, ⟨closing, hClosing, rfl⟩, hFits, rfl⟩ :=
          exists_elements_of_result (ih depth (Nat.lt_succ_self _)) hInner
        have hClosingShort : closing.IsShort := Token.isShort_of_kind_ne (by simp [hClosing])
        refine ⟨.block t hName items b hOpening d closing hClosing, ?_, ⟨hFits.separated, ?_, ?_⟩,
          rfl⟩
        · simp [Derivation.tokens]
        · exact Nat.succ_le_succ hFits.nesting
        · simp only [Derivation.tokens, List.forall_mem_cons, List.forall_mem_append]
          exact ⟨hNameShort, hShort, hOpeningShort, hFits.short, hClosingShort, by simp⟩

end Soundness

/-- A reading gives a value if its integers are short. Else it fails at one that is not. -/
def GivesIf {α : Type} (short : Prop) (x : Except TreeError α) (a : α) : Prop :=
  (short → x = .ok a) ∧ (¬ short → ∃ count, x = .error (.tooManyDigits count))

namespace GivesIf

variable {α β : Type} {short short' : Prop} {x : Except TreeError α} {a : α} {b : β}

theorem ok (h : short) : GivesIf short (.ok a) a :=
  ⟨fun _ => rfl, fun hLong => absurd h hLong⟩

theorem congr (h : GivesIf short x a) (hIff : short ↔ short') : GivesIf short' x a :=
  ⟨fun hShort => h.1 (hIff.mpr hShort), fun hLong => h.2 fun hShort => hLong (hIff.mp hShort)⟩

theorem bind {f : α → Except TreeError β} (h : GivesIf short x a) (hf : GivesIf short' (f a) b) :
    GivesIf (short ∧ short') (x >>= f) b := by
  by_cases hShort : short
  · rw [h.1 hShort]
    exact hf.congr (by simp [hShort])
  · obtain ⟨count, hLong⟩ := h.2 hShort
    rw [hLong]
    exact ⟨fun hBoth => absurd hBoth.1 hShort, fun _ => ⟨count, rfl⟩⟩

theorem map (f : α → β) (h : GivesIf short x a) :
    GivesIf short (x >>= fun a => .ok (f a)) (f a) := by
  have hLast : GivesIf True (.ok (f a)) (f a) := .ok trivial
  exact (h.bind hLast).congr (and_iff_left trivial)

theorem readValue {t : Token} (h : t.IsScalar) : GivesIf t.IsShort (Node.readValue t) t.scalar :=
  ⟨readValue_of_short h, fun hLong => ⟨_, readValue_of_long hLong⟩⟩

end GivesIf

section Completeness

open Node

variable {t : Token} {ts tail rest : List Token} {depth : Nat} {args : List Value} {props : Attrs}

theorem givesIf_readItems (items : List Item) (hEnds : EndsItems rest) :
    GivesIf (∀ t ∈ items.flatMap Item.tokens, t.IsShort)
      (readItems args props (items.flatMap Item.tokens ++ rest)).result
      ((args.reverse ++ Item.args items,
        props.insertAll (items.filterMap Item.property?)), rest) := by
  induction items generalizing args props with
  | nil =>
    rw [List.flatMap_nil, List.nil_append, result_readItems_of_ends hEnds]
    rw [Item.args, List.filterMap_nil, List.append_nil]
    exact GivesIf.ok nofun
  | cons item items ih =>
    have hNext := kind_ne_equals_of_items items hEnds
    cases item with
    | argument t hScalar =>
      have hLine : endsLine t = false := hScalar.endsLine_eq_false
      have hArgs : (t.scalar :: args).reverse ++ Item.args items =
          args.reverse ++ Item.args (.argument t hScalar :: items) := by
        simp [Item.args, Item.argument?]
      change GivesIf _ (readItems args props (t :: (items.flatMap Item.tokens ++ rest))).result _
      rw [result_readItems_argument hLine fun sign hSign _ => hNext sign hSign, ← hArgs]
      exact ((GivesIf.readValue hScalar).bind ih).congr List.forall_mem_cons.symm
    | property key sign value hKey hSign hValue =>
      have hFirst : key.IsShort := Token.isShort_of_kind_ne (by simp [hKey])
      have hSecond : sign.IsShort := Token.isShort_of_kind_ne (by simp [hSign])
      change GivesIf _
        (readItems args props (key :: sign :: value :: (items.flatMap Item.tokens ++ rest))).result _
      rw [result_readItems_property hKey hSign]
      refine ((GivesIf.readValue hValue).bind ih).congr ?_
      simp [Item.tokens, hFirst, hSecond]

/-- The reader of a symbol gives the nodes of a tree, whatever stands behind the tree. -/
def Derivation.IsRead : {s : Symbol} → Derivation s → Prop
  | .elements, d => ∀ {inBlock depth tail rest}, Closes inBlock tail rest →
    d.IsSeparated tail.head? → d.nesting ≤ depth →
    GivesIf (∀ t ∈ d.tokens, t.IsShort)
      (readNodes inBlock (readNode depth) (d.tokens ++ tail)).result (d.nodes, rest)
  | .node, d => ∀ {depth rest}, d.IsSeparated rest.head? → d.nesting ≤ depth →
    ∃ name ts node, d.tokens = name :: ts ∧ name.kind = .word ∧ d.nodes = [node] ∧
      GivesIf (∀ t ∈ d.tokens, t.IsShort) (readNode depth name (ts ++ rest)).result (node, rest)

theorem isRead_done : Derivation.done.IsRead := by
  intro inBlock depth tail rest hCloses hSeparated hNesting
  have hRead : (readNodes inBlock (readNode depth) tail).result = .ok ([], rest) := by
    cases inBlock with
    | true =>
      obtain ⟨closing, hClosing, rfl⟩ := hCloses
      simp [result_readNodes_closing hClosing]
    | false =>
      obtain ⟨rfl, rfl⟩ := hCloses
      simp [result_readNodes_nil]
  change GivesIf _ (readNodes inBlock (readNode depth) tail).result _
  rw [hRead]
  exact GivesIf.ok nofun

theorem isRead_line (name : Token) (hName : name.kind = .word) (items : List Item) :
    (Derivation.line name hName items).IsRead := by
  intro depth rest hSeparated hNesting
  have hEnds : EndsItems rest := endsItems_of_isSeparated hSeparated
  have hLine : ∀ b ∈ rest.head?, b.kind ≠ .opening := by
    intro b hb
    obtain hKind | hKind := hSeparated b hb <;> simp [hKind]
  have hBody : GivesIf True
      (readBody depth name ((Item.args items, Item.props items), rest))
      (⟨name.value, name.place, Item.args items, Item.props items, []⟩, rest) := by
    rw [readBody_of_not_opening hLine]
    exact GivesIf.ok trivial
  have hShort : name.IsShort := Token.isShort_of_kind_ne (by simp [hName])
  refine ⟨name, _, _, rfl, hName, rfl, ?_⟩
  rw [result_readNode hName]
  exact ((givesIf_readItems items hEnds).bind hBody).congr (by simp [Derivation.tokens, hShort])

theorem isRead_block (name : Token) (hName : name.kind = .word) (items : List Item)
    (opening : Token) (hOpening : opening.kind = .opening) {inner : Derivation .elements}
    (hInner : inner.IsRead) (closing : Token) (hClosing : closing.kind = .closing) :
    (Derivation.block name hName items opening hOpening inner closing hClosing).IsRead := by
  intro depth rest hSeparated hNesting
  obtain ⟨depth, rfl⟩ := Nat.exists_eq_add_of_lt hNesting
  have hEnds : EndsItems (opening :: (inner.tokens ++ closing :: rest)) :=
    endsItems_opening hOpening
  have hCloses : Closes true (closing :: rest) rest := ⟨closing, hClosing, rfl⟩
  have hNodes := hInner hCloses hSeparated (Nat.le_add_right inner.nesting depth)
  have hNameShort : name.IsShort := Token.isShort_of_kind_ne (by simp [hName])
  have hOpeningShort : opening.IsShort := Token.isShort_of_kind_ne (by simp [hOpening])
  have hClosingShort : closing.IsShort := Token.isShort_of_kind_ne (by simp [hClosing])
  refine ⟨name, _, _, rfl, hName, rfl, ?_⟩
  rw [result_readNode hName, List.append_assoc, List.cons_append, List.append_assoc,
    List.singleton_append]
  have hBody := hNodes.map fun inner =>
    ((⟨name.value, name.place, Item.args items, Item.props items, inner.1⟩ : Node), inner.2)
  rw [← readBody_succ hOpening] at hBody
  refine ((givesIf_readItems items hEnds).bind hBody).congr ?_
  simp [Derivation.tokens, or_imp, forall_and, hNameShort, hOpeningShort, hClosingShort]

theorem isRead_newline (t : Token) (h : t.kind = .newline) {others : Derivation .elements}
    (hOthers : others.IsRead) : (Derivation.newline t h others).IsRead := by
  intro inBlock depth tail rest hCloses hSeparated hNesting
  have hShort : t.IsShort := Token.isShort_of_kind_ne (by simp [h])
  change GivesIf _ (readNodes inBlock (readNode depth) (t :: (others.tokens ++ tail))).result _
  rw [result_readNodes_newline h]
  exact (hOthers hCloses hSeparated hNesting).congr (by simp [Derivation.tokens, hShort])

theorem isRead_node {first : Derivation .node} {others : Derivation .elements}
    (hFirst : first.IsRead) (hOthers : others.IsRead) : (Derivation.node first others).IsRead := by
  intro inBlock depth tail rest hCloses hSeparated hNesting
  obtain ⟨hBefore, hAfter⟩ := hSeparated
  rw [← List.head?_append] at hBefore
  obtain ⟨hHere, hThere⟩ := Nat.max_le.mp hNesting
  obtain ⟨name, ts, node, hTokens, hName, hNode, hRead⟩ := hFirst hBefore hHere
  have hNewline : name.kind ≠ .newline := by simp [hName]
  have hClosing : name.kind ≠ .closing := by simp [hName]
  have hSplit : (Derivation.node first others).tokens ++ tail =
      name :: (ts ++ (others.tokens ++ tail)) := by
    simp [Derivation.tokens, hTokens]
  have hNodes : (Derivation.node first others).nodes = node :: others.nodes := by
    simp [Derivation.nodes, hNode]
  rw [hSplit, hNodes, result_readNodes_node hNewline hClosing]
  refine (hRead.bind ((hOthers hCloses hAfter hThere).map _)).congr ?_
  simp [Derivation.tokens, or_imp, forall_and]

theorem Derivation.isRead {s : Symbol} (d : Derivation s) : d.IsRead := by
  induction d with
  | done => exact isRead_done
  | newline t h others ih => exact isRead_newline t h ih
  | node first others ihFirst ihOthers => exact isRead_node ihFirst ihOthers
  | line name hName items => exact isRead_line name hName items
  | block name hName items opening hOpening inner closing hClosing ih =>
    exact isRead_block name hName items opening hOpening ih closing hClosing

end Completeness

section Faults

open Node

variable {inBlock : Bool} {reader : (t : Token) → (ts : List Token) → Reading Node ts}
  {t : Token} {ts : List Token} {depth count : Nat} {args : List Value} {props : Attrs}
  {e : TreeError}

/-- An integer among the tokens has `count` digits, which are too many. -/
def HasLong (count : Nat) (ts : List Token) : Prop :=
  ∃ t ∈ ts, ¬ t.IsShort ∧ t.digits = count

/-- What an error is about stands among the tokens. -/
def TreeError.IsIn (ts : List Token) : TreeError → Prop
  | .grammar _ found => ∀ t ∈ found, t ∈ ts
  | .tooManyDigits count => HasLong count ts

theorem TreeError.IsIn.mono {ts ts' : List Token} (h : e.IsIn ts) (hSubset : ts ⊆ ts') :
    e.IsIn ts' := by
  cases e with
  | grammar fault found => exact fun t ht => hSubset (h t ht)
  | tooManyDigits count =>
    obtain ⟨t, hMem, hLong⟩ := h
    exact ⟨t, hSubset hMem, hLong⟩

theorem isIn_of_readValue (h : readValue t = .error e) : e.IsIn [t] := by
  by_cases hShort : t.IsShort
  · by_cases hScalar : t.IsScalar
    · rw [readValue_of_short hScalar hShort] at h
      cases h
    · rw [readValue_of_not_scalar hScalar] at h
      cases h
      exact fun u hu => Option.some.inj hu ▸ List.mem_singleton_self t
  · rw [readValue_of_long hShort] at h
    cases h
    exact ⟨t, List.mem_singleton_self t, hShort, rfl⟩

theorem isIn_of_readItems (h : (readItems args props ts).result = .error e) : e.IsIn ts := by
  induction ts using (measure List.length).wf.induction generalizing args props with
  | h ts ih =>
    cases itemsFront ts with
    | ends hEnds =>
      rw [result_readItems_of_ends hEnds] at h
      cases h
    | dangling hKey hSign =>
      rw [result_readItems_dangling hKey hSign] at h
      cases h
      exact nofun
    | @property t sign value more hKey hSign =>
      rw [result_readItems_property hKey hSign] at h
      obtain hValue | ⟨v, -, hMore⟩ := Except.bind_eq_error_iff.mp h
      · exact (isIn_of_readValue hValue).mono (by simp)
      · have hShorter : more.length < (t :: sign :: value :: more).length := by
          simp only [List.length_cons]
          omega
        exact (ih more hShorter hMore).mono fun u hu => by simp [hu]
    | @argument t more hLine hNext =>
      rw [result_readItems_argument hLine hNext] at h
      obtain hValue | ⟨v, -, hMore⟩ := Except.bind_eq_error_iff.mp h
      · exact (isIn_of_readValue hValue).mono (by simp)
      · exact (ih more (Nat.lt_succ_self _) hMore).mono (List.subset_cons_self _ _)

theorem isIn_of_readNodes
    (hReader : ∀ {t ts}, (reader t ts).result = .error e → e.IsIn (t :: ts))
    (hRest : ∀ {t ts node rest}, (reader t ts).result = .ok (node, rest) → rest ⊆ t :: ts)
    (h : (readNodes inBlock reader ts).result = .error e) : e.IsIn ts := by
  induction ts using (measure List.length).wf.induction with
  | h ts ih =>
    match ts with
    | [] =>
      rw [result_readNodes_nil] at h
      cases inBlock
      · cases h
      · cases h
        exact nofun
    | t :: ts =>
      by_cases hNewline : t.kind = .newline
      · rw [result_readNodes_newline hNewline] at h
        exact (ih ts (Nat.lt_succ_self _) h).mono (List.subset_cons_self _ _)
      by_cases hClosing : t.kind = .closing
      · rw [result_readNodes_closing hClosing] at h
        cases inBlock
        · cases h
          exact fun u hu => Option.some.inj hu ▸ List.mem_cons_self
        · cases h
      · rw [result_readNodes_node hNewline hClosing] at h
        obtain hFirst | ⟨⟨node, after⟩, hFirst, h⟩ := Except.bind_eq_error_iff.mp h
        · exact hReader hFirst
        · obtain hOthers | ⟨_, -, h⟩ := Except.bind_eq_error_iff.mp h
          · have hShorter : after.length < (t :: ts).length :=
              Nat.lt_succ_of_le (Reading.length_le hFirst)
            exact (ih after hShorter hOthers).mono (hRest hFirst)
          · cases h

theorem subset_of_readNode {node : Node} {rest : List Token}
    (h : (readNode depth t ts).result = .ok (node, rest)) : rest ⊆ t :: ts := by
  obtain ⟨d, hTokens, -⟩ := exists_node_of_result h
  rw [← hTokens]
  exact List.subset_append_right _ _

theorem isIn_of_readNode (hRead : (readNode depth t ts).result = .error e) : e.IsIn (t :: ts) := by
  induction depth using Nat.strongRecOn generalizing t ts with
  | ind depth ih =>
    by_cases hName : t.kind = .word
    case neg =>
      rw [result_readNode_of_not_word hName] at hRead
      cases hRead
      exact fun u hu => Option.some.inj hu ▸ List.mem_cons_self
    rw [result_readNode hName] at hRead
    obtain hItems | ⟨⟨⟨args, props⟩, after⟩, hItems, h⟩ := Except.bind_eq_error_iff.mp hRead
    · exact (isIn_of_readItems hItems).mono (List.subset_cons_self _ _)
    obtain ⟨items, rfl, -⟩ := exists_items_of_result hItems
    by_cases hLine : ∀ b ∈ after.head?, b.kind ≠ .opening
    · rw [readBody_of_not_opening hLine] at h
      cases h
    push Not at hLine
    obtain ⟨b, hHead, hOpening⟩ := hLine
    obtain ⟨block, rfl⟩ := List.head?_eq_some_iff.mp hHead
    match depth with
    | 0 =>
      rw [readBody_zero hOpening] at h
      cases h
      exact fun u hu => Option.some.inj hu ▸ by simp
    | depth + 1 =>
      rw [readBody_succ hOpening] at h
      obtain hInner | ⟨_, -, h⟩ := Except.bind_eq_error_iff.mp h
      · have hIn := isIn_of_readNodes (ih depth (Nat.lt_succ_self _)) subset_of_readNode hInner
        refine hIn.mono fun u hu => ?_
        simp [hu]
      · cases h

end Faults

section Document

open Node

variable {ts : List Token} {d : Derivation .elements}

structure Derivation.IsDocument (d : Derivation .elements) (ts : List Token) : Prop where
  tokens : d.tokens = ts
  separated : d.IsSeparated none
  nesting : d.nesting ≤ 64

theorem Derivation.IsDocument.givesIf (h : d.IsDocument ts) :
    GivesIf (∀ t ∈ ts, t.IsShort) (ofTokens ts) d.nodes := by
  obtain ⟨rfl, hSeparated, hNesting⟩ := h
  have hCloses : Closes false [] [] := ⟨rfl, rfl⟩
  have hRead := d.isRead hCloses hSeparated hNesting
  rw [List.append_nil] at hRead
  rw [ofTokens_eq_map_result]
  exact hRead.map Prod.fst

theorem Derivation.IsDocument.unique {d' : Derivation .elements} (h : d.IsDocument ts)
    (h' : d'.IsDocument ts) : d = d' :=
  eq_of_tokens_eq h.separated h'.separated (h.tokens.trans h'.tokens.symm)

theorem exists_isDocument_of_ofTokens {nodes : List Node} (h : ofTokens ts = .ok nodes) :
    ∃ d : Derivation .elements, d.IsDocument ts ∧ (∀ t ∈ ts, t.IsShort) ∧ d.nodes = nodes := by
  rw [ofTokens_eq_map_result] at h
  obtain ⟨⟨_, rest⟩, hRead, rfl⟩ := Except.map_eq_ok_iff.mp h
  obtain ⟨d, tail, hTokens, ⟨rfl, rfl⟩, hFits, hNodes⟩ :=
    exists_elements_of_result exists_node_of_result hRead
  rw [List.append_nil] at hTokens
  subst hTokens
  exact ⟨d, ⟨rfl, hFits.separated, hFits.nesting⟩, hFits.short, hNodes⟩

theorem isIn_of_ofTokens {e : TreeError} (h : ofTokens ts = .error e) : e.IsIn ts := by
  rw [ofTokens_eq_map_result, Except.map_eq_error_iff] at h
  exact isIn_of_readNodes isIn_of_readNode subset_of_readNode h

theorem hasLong_of_ofTokens {count : Nat} (h : ofTokens ts = .error (.tooManyDigits count)) :
    HasLong count ts :=
  isIn_of_ofTokens h

/-- Tokens whose integers are short are read as the one document that has them, if there is one.
Its properties keep the first place and the last value of a key. -/
theorem ofTokens_reads_unique_document (hShort : ∀ t ∈ ts, t.IsShort) :
    (∀ nodes, ofTokens ts = .ok nodes ↔
      ∃ d : Derivation .elements, d.IsDocument ts ∧ d.nodes = nodes) ∧
    (∀ d d' : Derivation .elements, d.IsDocument ts → d'.IsDocument ts → d = d') ∧
    ((∃ fault found, ofTokens ts = .error (.grammar fault found)) ↔
      ¬ ∃ d : Derivation .elements, d.IsDocument ts) ∧
    ∀ items, (Item.props items).keys =
        ((items.filterMap Item.property?).map Prod.fst).eraseDups ∧
      ∀ key, (Item.props items).get? key = (items.filterMap Item.property?).reverse.lookup key := by
  have hRead : ∀ nodes, ofTokens ts = .ok nodes ↔
      ∃ d : Derivation .elements, d.IsDocument ts ∧ d.nodes = nodes := by
    intro nodes
    constructor
    · intro h
      obtain ⟨d, hDocument, -, hNodes⟩ := exists_isDocument_of_ofTokens h
      exact ⟨d, hDocument, hNodes⟩
    · rintro ⟨d, hDocument, rfl⟩
      exact hDocument.givesIf.1 hShort
  refine ⟨hRead, fun d d' => Derivation.IsDocument.unique, ?_, fun items => ?_⟩
  · constructor
    · rintro ⟨fault, found, h⟩ ⟨d, hDocument⟩
      cases h.symm.trans (hDocument.givesIf.1 hShort)
    · intro hNone
      cases h : ofTokens ts with
      | ok nodes =>
        obtain ⟨d, hDocument, -⟩ := (hRead nodes).mp h
        exact absurd ⟨d, hDocument⟩ hNone
      | error e =>
        cases e with
        | grammar fault found => exact ⟨fault, found, rfl⟩
        | tooManyDigits count =>
          obtain ⟨t, hMem, hLong, -⟩ := hasLong_of_ofTokens h
          exact absurd (hShort t hMem) hLong
  · exact ⟨Table.keys_ofList, fun key => Table.get?_ofList⟩

theorem ofTokens_reads_unique_document_at_repeated_key :
    ∃ ts, Token.scan "a k=1 x k=2 \x7bm\x7d" = .ok ts ∧ (∀ t ∈ ts, t.IsShort) ∧
      (∃ d : Derivation .elements, d.IsDocument ts ∧
        ∀ d' : Derivation .elements, d'.IsDocument ts → d' = d) ∧
      ofTokens ts = .ok [⟨"a", ⟨1, 1⟩, [.str "x"], ⟨[("k", .int 2)], by decide⟩,
        [⟨"m", ⟨1, 14⟩, [], Table.empty, []⟩]⟩] := by
  let d : Derivation .elements :=
    .node
      (.block ⟨.word, "a", ⟨1, 1⟩⟩ rfl
        [.property ⟨.word, "k", ⟨1, 3⟩⟩ ⟨.equals, "=", ⟨1, 4⟩⟩ ⟨.number, "1", ⟨1, 5⟩⟩ rfl rfl
            (Or.inr (Or.inl rfl)),
          .argument ⟨.word, "x", ⟨1, 7⟩⟩ (Or.inr (Or.inr (Or.inr rfl))),
          .property ⟨.word, "k", ⟨1, 9⟩⟩ ⟨.equals, "=", ⟨1, 10⟩⟩ ⟨.number, "2", ⟨1, 11⟩⟩ rfl rfl
            (Or.inr (Or.inl rfl))]
        ⟨.opening, "\x7b", ⟨1, 13⟩⟩ rfl (.node (.line ⟨.word, "m", ⟨1, 14⟩⟩ rfl []) .done)
        ⟨.closing, "\x7d", ⟨1, 15⟩⟩ rfl)
      .done
  have hScan : Token.scan "a k=1 x k=2 \x7bm\x7d" = .ok d.tokens := by decide +kernel
  have hShort : ∀ t ∈ d.tokens, t.IsShort := by decide +kernel
  have hDocument : d.IsDocument d.tokens := 
    ⟨rfl, by simp [d, Derivation.IsSeparated, Derivation.tokens], by decide⟩
  obtain ⟨hRead, hUnique, -⟩ := ofTokens_reads_unique_document hShort
  refine ⟨d.tokens, hScan, hShort, ⟨d, hDocument, fun d' h => hUnique d' d h hDocument⟩, ?_⟩
  exact (hRead _).mpr ⟨d, hDocument, rfl⟩

end Document

end Workflow.Source
