import Workflow.Proofs.Source.Reader
import Workflow.Proofs.Source.Spelling

/-!
# Writing node trees

A node is written on a line of its own with its arguments and properties, and its children in a
block behind it. Scanning and reading what was written gives the tree again, at other places.
-/

namespace Workflow

open Workflow.Source Workflow.Text

namespace Value

def written : Value → List Char
  | .str s => '"' :: (escape s.toList ++ ['"'])
  | .bool b => (toString b).toList
  | .int n => Number.numeral n
  | .none | .float _ | .status _ => []

/-- Texts, truth values and integers that are not too long can be written. -/
def IsWritable : Value → Prop
  | .str _ | .bool _ => True
  | .int n => (Nat.toDigits 10 n.natAbs).length ≤ 4300
  | .none | .float _ | .status _ => False

end Value

namespace Source.Node

/-- What a node has on its line, behind its name. -/
def writtenItems (n : Node) : List Char :=
  (n.args.flatMap fun v => ' ' :: v.written) ++
    n.props.entries.flatMap fun e => ' ' :: (e.1.toList ++ '=' :: e.2.written)

mutual

def written : Node → List Char
  | ⟨name, place, args, props, children⟩ =>
    name.toList ++ writtenItems ⟨name, place, args, props, children⟩ ++
      (if children.isEmpty then [] else [' ', '\x7b', '\n'] ++ writtenAll children ++ ['\x7d']) ++
      ['\n']

def writtenAll : List Node → List Char
  | [] => []
  | n :: ns => n.written ++ writtenAll ns

end

mutual

def unplaced : Node → Node
  | ⟨name, _, args, props, children⟩ => ⟨name, .unknown, args, props, unplacedAll children⟩

def unplacedAll : List Node → List Node
  | [] => []
  | n :: ns => n.unplaced :: unplacedAll ns

end

theorem unplacedAll_eq_map (ns : List Node) : unplacedAll ns = ns.map unplaced := by
  induction ns with
  | nil => rfl
  | cons n ns ih => rw [unplacedAll, ih, List.map_cons]

/-- Trees are equal but for their places if their nodes are. -/
theorem unplaced_eq_iff {n m : Node} :
    n.unplaced = m.unplaced ↔ n.name = m.name ∧ n.args = m.args ∧ n.props = m.props ∧
      n.children.map unplaced = m.children.map unplaced := by
  cases n
  cases m
  simp [unplaced, unplacedAll_eq_map]

/-- The name and the items of a node can be written. -/
structure HasWritableItems (n : Node) : Prop where
  name : Token.IsWord n.name
  args : ∀ v ∈ n.args, v.IsWritable
  props : ∀ e ∈ n.props.entries, Token.IsWord e.1 ∧ e.2.IsWritable

/-- A tree whose nodes can be written and whose blocks nest at most `depth` deep. -/
def IsWritable : Nat → Node → Prop
  | 0, n => n.HasWritableItems ∧ n.children = []
  | depth + 1, n => n.HasWritableItems ∧ ∀ child ∈ n.children, child.IsWritable depth

end Source.Node

namespace Source

open Token Node

theorem spells_value {v : Value} (h : v.IsWritable) :
    Spells Delimited v.written fun ts => ∃ t, ts = [t] ∧ t.IsScalar ∧ t.IsShort ∧ t.scalar = v := by
  match v, h with
  | .str s, _ =>
    refine (spells_string s.toList).mono (fun _ _ => trivial) ?_
    rintro ts ⟨t, rfl, hKind, hValue⟩
    refine ⟨t, rfl, Or.inl hKind, Token.isShort_of_kind_ne (by simp [hKind]), ?_⟩
    simp [Token.scalar, hKind, String.toList_inj.mp hValue]
  | .bool b, _ =>
    refine (spells_boolean b).mono (fun _ => id) ?_
    rintro ts ⟨t, rfl, hKind, hValue⟩
    refine ⟨t, rfl, Or.inr (Or.inr (Or.inl hKind)),
      Token.isShort_of_kind_ne (by simp [hKind]), ?_⟩
    have hTrue : (toString b == "true") = b := by cases b <;> decide
    simp [Token.scalar, hKind, hValue, hTrue]
  | .int n, h =>
    refine (spells_numeral n).mono (fun _ => id) ?_
    rintro ts ⟨t, rfl, hKind, hValue⟩
    refine ⟨t, rfl, Or.inr (Or.inl hKind), fun _ _ => ?_, ?_⟩
    · rw [Token.digits, hValue, Number.splitSign_numeral]
      exact h
    · simp [Token.scalar, hKind, hValue, Number.point_notMem_numeral, Number.ofNumeral_numeral]

/-- Tokens that are items with these arguments and properties. -/
def AreItems (args : List Value) (entries : List (String × Value)) (ts : List Token) : Prop :=
  ∃ items : List Item, items.flatMap Item.tokens = ts ∧ (∀ t ∈ ts, t.IsShort) ∧
    Item.args items = args ∧ items.filterMap Item.property? = entries

section Items

variable {args args' : List Value} {entries entries' : List (String × Value)} {ts us : List Token}

theorem AreItems.append (h : AreItems args entries ts) (h' : AreItems args' entries' us) :
    AreItems (args ++ args') (entries ++ entries') (ts ++ us) := by
  obtain ⟨items, rfl, hShort, rfl, rfl⟩ := h
  obtain ⟨items', rfl, hShort', rfl, rfl⟩ := h'
  exact ⟨items ++ items', List.flatMap_append, List.forall_mem_append.mpr ⟨hShort, hShort'⟩,
    List.filterMap_append, List.filterMap_append⟩

theorem areItems_nil : AreItems [] [] [] :=
  ⟨[], rfl, nofun, rfl, rfl⟩

/-- What is written piece by piece, each behind a blank, does not run into what stands before. -/
theorem delimited_flatMap {α : Type} {write : α → List Char} {xs : List α} {rest : List Char}
    (h : Delimited rest) : Delimited ((xs.flatMap fun x => ' ' :: write x) ++ rest) := by
  cases xs with
  | nil => exact h
  | cons x xs => exact delimited_cons (by simp)

theorem spells_args (h : ∀ v ∈ args, v.IsWritable) :
    Spells Delimited (args.flatMap fun v => ' ' :: v.written) (AreItems args []) := by
  induction args with
  | nil => exact spells_nil.mono (fun _ => id) fun ts hts => hts ▸ areItems_nil
  | cons v args ih =>
    rw [List.forall_mem_cons] at h
    have hFirst : Spells Delimited v.written (AreItems [v] []) := by
      refine (spells_value h.1).mono (fun _ => id) ?_
      rintro ts ⟨t, rfl, hScalar, hShort, rfl⟩
      exact ⟨[.argument t hScalar], rfl, List.forall_mem_singleton.mpr hShort, rfl, rfl⟩
    exact hFirst.behind_blank.append (ih h.2) (fun _ => delimited_flatMap) fun ts us =>
      AreItems.append

theorem spells_props (h : ∀ e ∈ entries, IsWord e.1 ∧ e.2.IsWritable) :
    Spells Delimited (entries.flatMap fun e => ' ' :: (e.1.toList ++ '=' :: e.2.written))
      (AreItems [] entries) := by
  induction entries with
  | nil => exact spells_nil.mono (fun _ => id) fun ts hts => hts ▸ areItems_nil
  | cons e entries ih =>
    rw [List.forall_mem_cons] at h
    have hValue : Spells Delimited (['='] ++ e.2.written) fun ts => ∃ sign value : Token,
        ts = [sign, value] ∧ sign.kind = .equals ∧ value.IsScalar ∧ value.IsShort ∧
          value.scalar = e.2 := by
      refine (spells_sign '=' .equals (by simp)).append (spells_value h.1.2)
        (fun _ _ => trivial) ?_
      rintro ts us ⟨sign, rfl, hSign⟩ ⟨value, rfl, hScalar⟩
      exact ⟨sign, value, rfl, hSign, hScalar⟩
    have hProperty : Spells Delimited (e.1.toList ++ (['='] ++ e.2.written)) (AreItems [] [e]) := by
      refine (spells_word h.1.1).append hValue (fun _ _ => delimited_cons (by simp)) ?_
      rintro ts us ⟨key, rfl, hKey, hText⟩ ⟨sign, value, rfl, hSign, hScalar, hShort, hRead⟩
      refine ⟨[.property key sign value hKey hSign hScalar], rfl, ?_, rfl, ?_⟩
      · have hKeyShort : key.IsShort := Token.isShort_of_kind_ne (by simp [hKey])
        have hSignShort : sign.IsShort := Token.isShort_of_kind_ne (by simp [hSign])
        simp [hKeyShort, hSignShort, hShort]
      · simp [Item.property?, hText, hRead]
    exact hProperty.behind_blank.append (ih h.2) (fun _ => delimited_flatMap) fun ts us =>
      AreItems.append

/-- Tokens that are the name and the items of a node. -/
def IsHead (n : Node) (ts : List Token) : Prop :=
  ∃ name items, ts = name :: items.flatMap Item.tokens ∧ name.kind = .word ∧
    name.value = n.name ∧ (∀ t ∈ ts, t.IsShort) ∧ Item.args items = n.args ∧
    Item.props items = n.props

theorem spells_head {n : Node} (h : n.HasWritableItems) :
    Spells Delimited (n.name.toList ++ n.writtenItems) (IsHead n) := by
  have hItems : Spells Delimited n.writtenItems (AreItems n.args n.props.entries) := by
    refine (spells_args h.args).append (spells_props h.props) (fun _ => delimited_flatMap) ?_
    intro ts us hArgs hProps
    simpa using hArgs.append hProps
  refine (spells_word h.name).append hItems ?_ ?_
  · intro rest hRest
    rw [writtenItems, List.append_assoc]
    exact delimited_flatMap (delimited_flatMap hRest)
  · rintro ts us ⟨name, rfl, hName, hText⟩ ⟨items, rfl, hShort, hArgs, hEntries⟩
    have hNameShort : name.IsShort := Token.isShort_of_kind_ne (by simp [hName])
    refine ⟨name, items, rfl, hName, hText, List.forall_mem_cons.mpr ⟨hNameShort, hShort⟩, hArgs, ?_⟩
    rw [Item.props, hEntries, Table.ofList_entries]

end Items

section Trees

variable {depth : Nat} {n : Node} {ns : List Node} {ts us : List Token}

def AreNode (depth : Nat) (n : Node) (ts : List Token) : Prop :=
  ∃ (d : Derivation .node) (last : Token), ts = d.tokens ++ [last] ∧ last.kind = .newline ∧
    d.Fits depth (some last) ∧ d.nodes.map unplaced = [n.unplaced]

/-- Tokens of nodes that stand on lines of their own. -/
def AreNodes (depth : Nat) (ns : List Node) (ts : List Token) : Prop :=
  ∃ d : Derivation .elements, d.tokens = ts ∧ (∀ next, d.Fits depth next) ∧
    d.nodes.map unplaced = ns.map unplaced

theorem written_eq (n : Node) :
    n.written = n.name.toList ++ n.writtenItems ++
      (if n.children.isEmpty then []
        else [' ', '\x7b', '\n'] ++ writtenAll n.children ++ ['\x7d']) ++ ['\n'] := by
  cases n
  rw [written]

theorem areNodes_nil : AreNodes depth [] [] :=
  ⟨.done, rfl, fun _ => ⟨trivial, Nat.zero_le _, by simp [Derivation.tokens]⟩, rfl⟩

theorem AreNode.cons (h : AreNode depth n ts) (h' : AreNodes depth ns us) :
    AreNodes depth (n :: ns) (ts ++ us) := by
  obtain ⟨d, last, rfl, hLast, hFits, hNodes⟩ := h
  obtain ⟨others, rfl, hOthers, hNodes'⟩ := h'
  have hLastShort : last.IsShort := Token.isShort_of_kind_ne (by simp [hLast])
  refine ⟨.node d (.newline last hLast others), by simp [Derivation.tokens], fun next => ?_, ?_⟩
  · refine ⟨⟨hFits.separated, (hOthers next).separated⟩, ?_, ?_⟩
    · exact Nat.max_le.mpr ⟨hFits.nesting, (hOthers next).nesting⟩
    · refine List.forall_mem_append.mpr ⟨hFits.short, List.forall_mem_cons.mpr ⟨hLastShort, ?_⟩⟩
      exact (hOthers next).short
  · simp [Derivation.nodes, hNodes, hNodes']

theorem spells_nodes (h : ∀ n ∈ ns, Spells (fun _ => True) n.written (AreNode depth n)) :
    Spells (fun _ => True) (writtenAll ns) (AreNodes depth ns) := by
  induction ns with
  | nil =>
    refine spells_nil.mono (fun _ => id) ?_
    rintro ts rfl
    exact areNodes_nil
  | cons n ns ih =>
    rw [List.forall_mem_cons] at h
    exact h.1.append (ih h.2) (fun _ _ => trivial) fun ts us => AreNode.cons

theorem spells_line (h : n.HasWritableItems) (hChildren : n.children = []) :
    Spells (fun _ => True) n.written (AreNode depth n) := by
  rw [written_eq, hChildren, List.isEmpty_nil, if_pos rfl, List.append_nil]
  refine (spells_head h).append (spells_sign '\n' .newline (by simp))
    (fun _ _ => delimited_cons (by simp)) ?_
  rintro ts us ⟨name, items, rfl, hName, hText, hShort, hArgs, hProps⟩ ⟨last, rfl, hLast⟩
  refine ⟨.line name hName items, last, rfl, hLast, ⟨?_, Nat.zero_le _, hShort⟩, ?_⟩
  · rintro t ⟨⟩
    exact Or.inl hLast
  · simp [Derivation.nodes, unplaced_eq_iff, hText, hArgs, hProps, hChildren]

theorem spells_brace (c : Char) (kind : Token.Kind)
    (h : (c, kind) ∈ [('\x7b', .opening), ('\x7d', .closing)]) :
    Spells (fun _ => True) ([c] ++ ['\n']) fun ts =>
      ∃ brace last : Token, ts = [brace, last] ∧ brace.kind = kind ∧ last.kind = .newline := by
  have hSign : (c, kind) ∈ [('\n', .newline), ('\x7b', .opening), ('\x7d', .closing),
      ('=', Token.Kind.equals)] := by
    simp only [List.mem_cons, List.not_mem_nil, or_false] at h ⊢
    exact Or.inr (h.imp_right Or.inl)
  refine (spells_sign c kind hSign).append (spells_sign '\n' .newline (by simp))
    (fun _ _ => trivial) ?_
  rintro ts us ⟨brace, rfl, hBrace⟩ ⟨last, rfl, hLast⟩
  exact ⟨brace, last, rfl, hBrace, hLast⟩

theorem spells_block (h : n.HasWritableItems) (hChildren : n.children ≠ [])
    (hInner : Spells (fun _ => True) (writtenAll n.children) (AreNodes depth n.children)) :
    Spells (fun _ => True) n.written (AreNode (depth + 1) n) := by
  have hEnd : Spells (fun _ => True) (writtenAll n.children ++ (['\x7d'] ++ ['\n'])) fun ts =>
      ∃ inner, AreNodes depth n.children inner ∧ ∃ brace last : Token,
        ts = inner ++ [brace, last] ∧ brace.kind = .closing ∧ last.kind = .newline := by
    refine hInner.append (spells_brace '\x7d' .closing (by simp)) (fun _ _ => trivial) ?_
    rintro inner us hNodes ⟨brace, last, rfl, hKinds⟩
    exact ⟨inner, hNodes, brace, last, rfl, hKinds⟩
  have hBlock : Spells (fun _ => True)
      ((['\x7b'] ++ ['\n']) ++ (writtenAll n.children ++ (['\x7d'] ++ ['\n']))) fun ts =>
      ∃ brace first : Token, brace.kind = .opening ∧ first.kind = .newline ∧
        ∃ inner, AreNodes depth n.children inner ∧ ∃ closing last : Token,
          ts = brace :: first :: (inner ++ [closing, last]) ∧ closing.kind = .closing ∧
            last.kind = .newline := by
    refine (spells_brace '\x7b' .opening (by simp)).append hEnd (fun _ _ => trivial) ?_
    rintro ts us ⟨brace, first, rfl, hBrace, hFirst⟩ ⟨inner, hNodes, closing, last, rfl, hKinds⟩
    exact ⟨brace, first, hBrace, hFirst, inner, hNodes, closing, last, rfl, hKinds⟩
  have hText : n.written = (n.name.toList ++ n.writtenItems) ++ ' ' ::
      ((['\x7b'] ++ ['\n']) ++ (writtenAll n.children ++ (['\x7d'] ++ ['\n']))) := by
    simp [written_eq, hChildren]
  rw [hText]
  refine (spells_head h).append hBlock.behind_blank (fun _ _ => delimited_cons (by simp)) ?_
  rintro ts us ⟨name, items, rfl, hName, hName', hShort, hArgs, hProps⟩
    ⟨brace, first, hBrace, hFirst, _, ⟨d, rfl, hFits, hNodes⟩, closing, last, rfl, hClosing, hLast⟩
  have hBraceShort : brace.IsShort := Token.isShort_of_kind_ne (by simp [hBrace])
  have hFirstShort : first.IsShort := Token.isShort_of_kind_ne (by simp [hFirst])
  have hClosingShort : closing.IsShort := Token.isShort_of_kind_ne (by simp [hClosing])
  refine ⟨.block name hName items brace hBrace (.newline first hFirst d) closing hClosing, last,
    by simp [Derivation.tokens], hLast, ⟨(hFits (some closing)).separated, ?_, ?_⟩, ?_⟩
  · exact Nat.succ_le_succ (hFits none).nesting
  · simp only [Derivation.tokens, List.forall_mem_cons, List.forall_mem_append]
    rw [List.forall_mem_cons] at hShort
    exact ⟨hShort.1, hShort.2, hBraceShort, ⟨hFirstShort, (hFits none).short⟩, hClosingShort,
      by simp⟩
  · simp [Derivation.nodes, unplaced_eq_iff, hName', hArgs, hProps, hNodes]

theorem spells_node (h : n.IsWritable depth) :
    Spells (fun _ => True) n.written (AreNode depth n) := by
  induction depth generalizing n with
  | zero => exact spells_line h.1 h.2
  | succ depth ih =>
    by_cases hChildren : n.children = []
    · exact spells_line h.1 hChildren
    · exact spells_block h.1 hChildren (spells_nodes fun child hChild => ih (h.2 child hChild))

/-- What was written is read again, but for the places. -/
theorem exists_ofTokens_written (h : n.IsWritable 64) :
    ∃ ts, Token.scan (String.ofList n.written) = .ok ts ∧
      ∃ m, Node.ofTokens ts = .ok [m] ∧ m.unplaced = n.unplaced := by
  have hNodes : Spells (fun _ => True) n.written (AreNodes 64 [n]) := by
    refine (spells_node h).mono (fun _ => id) fun ts hNode => ?_
    simpa using hNode.cons areNodes_nil
  obtain ⟨ts, ⟨d, rfl, hFits, hTree⟩, hScan⟩ := hNodes.exists_scan trivial
  have hDocument : d.IsDocument d.tokens := ⟨rfl, (hFits none).separated, (hFits none).nesting⟩
  obtain ⟨m, hNodes, hRoot⟩ := List.map_eq_singleton_iff.mp hTree
  refine ⟨d.tokens, hScan, m, ?_, hRoot⟩
  rw [← hNodes]
  exact hDocument.givesIf.1 (hFits none).short

end Trees

section Parts

variable {n m : Node} {ns : List Node} {key : String} {v : Value}

theorem written_infix_of_mem_props (h : (key, v) ∈ n.props.entries) : v.written <:+: n.written := by
  have hEntry : v.written <:+: ' ' :: (key.toList ++ '=' :: v.written) :=
    ⟨' ' :: (key.toList ++ ['=']), [], by simp⟩
  have hEntries : v.written <:+:
      n.props.entries.flatMap fun e => ' ' :: (e.1.toList ++ '=' :: e.2.written) :=
    hEntry.trans (List.infix_of_mem_flatten (List.mem_map.mpr ⟨(key, v), h, rfl⟩))
  have hItems : v.written <:+: n.writtenItems := hEntries.trans (List.suffix_append _ _).isInfix
  rw [written_eq n]
  exact (hItems.trans (List.infix_append _ _ _)).trans (List.prefix_append _ _).isInfix

theorem written_infix_writtenAll (h : m ∈ ns) : m.written <:+: writtenAll ns := by
  induction ns with
  | nil => cases h
  | cons n ns ih =>
    rw [writtenAll]
    obtain rfl | h := List.mem_cons.mp h
    · exact (List.prefix_append _ _).isInfix
    · exact (ih h).trans (List.suffix_append _ _).isInfix

theorem written_infix_of_mem_children (h : m ∈ n.children) : m.written <:+: n.written := by
  have hSome : n.children.isEmpty = false := List.isEmpty_eq_false_iff.mpr (List.ne_nil_of_mem h)
  have hBlock : m.written <:+: [' ', '\x7b', '\n'] ++ writtenAll n.children ++ ['\x7d'] :=
    (written_infix_writtenAll h).trans (List.infix_append _ _ _)
  rw [written_eq n, hSome]
  exact (hBlock.trans (List.suffix_append _ _).isInfix).trans (List.prefix_append _ _).isInfix

end Parts

end Source

end Workflow
