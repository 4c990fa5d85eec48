import Workflow.Proofs.Table
import Workflow.Source.Node

/-!
# The grammar of node trees

A derivation tree holds the tokens of a document as its grammar groups them. A word begins a node
wherever one stands, so a tree is told apart from others by its tokens only if the items of a node
without a block end where its line ends. Of such trees no two have the same tokens.
-/

namespace Workflow.Source

/-- The tokens that stand for a value. -/
def Token.IsScalar (t : Token) : Prop :=
  t.kind = .string ∨ t.kind = .number ∨ t.kind = .boolean ∨ t.kind = .word

/-- How many characters a numeral has after its sign. -/
def Token.digits (t : Token) : Nat :=
  (Number.splitSign t.value.toList).2.length

/-- An integer has at most 4300 digits. -/
def Token.IsShort (t : Token) : Prop :=
  t.kind = .number → '.' ∉ t.value.toList → t.digits ≤ 4300

instance (t : Token) : Decidable t.IsShort :=
  inferInstanceAs (Decidable (_ → _ → _))

def Token.scalar (t : Token) : Value :=
  match t.kind with
  | .number =>
    if '.' ∈ t.value.toList then .float (Number.ofPointed t.value.toList)
    else .int (Number.ofNumeral t.value.toList)
  | .boolean => .bool (t.value == "true")
  | _ => .str t.value

inductive Item where
  | argument (t : Token) (h : t.IsScalar)
  | property (key sign value : Token) (hKey : key.kind = .word) (hSign : sign.kind = .equals)
      (hValue : value.IsScalar)

namespace Item

def tokens : Item → List Token
  | .argument t _ => [t]
  | .property key sign value _ _ _ => [key, sign, value]

def argument? : Item → Option Value
  | .argument t _ => some t.scalar
  | .property .. => none

def property? : Item → Option (String × Value)
  | .argument .. => none
  | .property key _ value _ _ _ => some (key.value, value.scalar)

def args (items : List Item) : List Value :=
  items.filterMap argument?

def props (items : List Item) : Attrs :=
  Table.ofList (items.filterMap property?)

end Item

inductive Symbol where
  | elements
  | node

/-- The trees of the grammar `elements := (NEWLINE | node)*` and
`node := WORD item* ("{" elements "}")?`. -/
inductive Derivation : Symbol → Type
  | done : Derivation .elements
  | newline (t : Token) (h : t.kind = .newline) (others : Derivation .elements) :
    Derivation .elements
  | node (first : Derivation .node) (others : Derivation .elements) : Derivation .elements
  | line (name : Token) (hName : name.kind = .word) (items : List Item) : Derivation .node
  | block (name : Token) (hName : name.kind = .word) (items : List Item) (opening : Token)
      (hOpening : opening.kind = .opening) (inner : Derivation .elements) (closing : Token)
      (hClosing : closing.kind = .closing) :
    Derivation .node

namespace Derivation

def tokens {s : Symbol} : Derivation s → List Token
  | .done => []
  | .newline t _ others => t :: others.tokens
  | .node first others => first.tokens ++ others.tokens
  | .line name _ items => name :: items.flatMap Item.tokens
  | .block name _ items opening _ inner closing _ =>
    name :: (items.flatMap Item.tokens ++ opening :: (inner.tokens ++ [closing]))

/-- The nodes of a tree, each at the place of its name. -/
def nodes {s : Symbol} : Derivation s → List Node
  | .done => []
  | .newline _ _ others => others.nodes
  | .node first others => first.nodes ++ others.nodes
  | .line name _ items => [⟨name.value, name.place, Item.args items, Item.props items, []⟩]
  | .block name _ items _ _ inner _ _ =>
    [⟨name.value, name.place, Item.args items, Item.props items, inner.nodes⟩]

def nesting {s : Symbol} : Derivation s → Nat
  | .done => 0
  | .newline _ _ others => others.nesting
  | .node first others => max first.nesting others.nesting
  | .line .. => 0
  | .block _ _ _ _ _ inner _ _ => inner.nesting + 1

/-- Behind a node without a block comes a newline, a closing brace or the end. The token behind the
whole tree is `next`. -/
def IsSeparated {s : Symbol} (next : Option Token) : Derivation s → Prop
  | .done => True
  | .newline _ _ others => others.IsSeparated next
  | .node first others =>
    first.IsSeparated (others.tokens.head?.or next) ∧ others.IsSeparated next
  | .line .. => ∀ t ∈ next, t.kind = .newline ∨ t.kind = .closing
  | .block _ _ _ _ _ inner closing _ => inner.IsSeparated (some closing)

end Derivation

namespace Node

def EndsItems (ts : List Token) : Prop :=
  ∀ t ∈ ts.head?, endsLine t = true

end Node

section Items

open Node

variable {rest rest' : List Token}

theorem Token.IsScalar.kind_ne_equals {t : Token} (h : t.IsScalar) : t.kind ≠ .equals := by
  obtain hKind | hKind | hKind | hKind := h <;> simp [hKind]

theorem Token.IsScalar.endsLine_eq_false {t : Token} (h : t.IsScalar) : endsLine t = false := by
  obtain hKind | hKind | hKind | hKind := h <;> simp [endsLine, hKind]

theorem endsItems_ne_append {item : Item} {ts : List Token} (h : EndsItems rest) :
    rest ≠ item.tokens ++ ts := by
  rintro rfl
  cases item with
  | argument t hScalar => simpa [hScalar.endsLine_eq_false] using h t rfl
  | property key sign value hKey hSign hValue => simpa [endsLine, hKey] using h key rfl

/-- An equals sign stands only behind the key of a property. -/
theorem kind_ne_equals_of_items (items : List Item) (hEnds : EndsItems rest) :
    ∀ t ∈ (items.flatMap Item.tokens ++ rest).head?, t.kind ≠ .equals := by
  intro t ht
  match items with
  | [] =>
    intro hKind
    simpa [endsLine, hKind] using hEnds t ht
  | .argument first hScalar :: items =>
    cases ht
    exact hScalar.kind_ne_equals
  | .property key sign value hKey hSign hValue :: items =>
    cases ht
    simp [hKey]

theorem items_eq_of_append_eq {items items' : List Item} (hEnds : EndsItems rest)
    (hEnds' : EndsItems rest')
    (h : items.flatMap Item.tokens ++ rest = items'.flatMap Item.tokens ++ rest') :
    items = items' ∧ rest = rest' := by
  induction items generalizing items' with
  | nil =>
    cases items' with
    | nil => exact ⟨rfl, h⟩
    | cons item' items' =>
      rw [List.flatMap_cons, List.append_assoc] at h
      exact absurd h (endsItems_ne_append hEnds)
  | cons item items ih =>
    cases items' with
    | nil =>
      rw [List.flatMap_cons, List.append_assoc] at h
      exact absurd h.symm (endsItems_ne_append hEnds')
    | cons item' items' =>
      rw [List.flatMap_cons, List.flatMap_cons, List.append_assoc, List.append_assoc] at h
      match item, item' with
      | .argument t hScalar, .argument t' hScalar' =>
        simp only [Item.tokens, List.cons_append, List.nil_append, List.cons.injEq] at h
        obtain ⟨rfl, hMore⟩ := h
        obtain ⟨rfl, hEnd⟩ := ih hMore
        exact ⟨rfl, hEnd⟩
      | .argument t hScalar, .property key sign value hKey hSign hValue =>
        simp only [Item.tokens, List.cons_append, List.nil_append, List.cons.injEq] at h
        have hNext := kind_ne_equals_of_items items hEnds
        rw [h.2] at hNext
        exact absurd hSign (hNext sign rfl)
      | .property key sign value hKey hSign hValue, .argument t hScalar =>
        simp only [Item.tokens, List.cons_append, List.nil_append, List.cons.injEq] at h
        have hNext := kind_ne_equals_of_items items' hEnds'
        rw [← h.2] at hNext
        exact absurd hSign (hNext sign rfl)
      | .property key sign value hKey hSign hValue,
          .property key' sign' value' hKey' hSign' hValue' =>
        simp only [Item.tokens, List.cons_append, List.nil_append, List.cons.injEq] at h
        obtain ⟨rfl, rfl, rfl, hMore⟩ := h
        obtain ⟨rfl, hEnd⟩ := ih hMore
        exact ⟨rfl, hEnd⟩

end Items

/-- What may stand behind the tokens of a symbol: a run of nodes ends at a closing brace. -/
def Symbol.Follow : Symbol → List Token → Prop
  | .elements, rest => ∀ t ∈ rest.head?, t.kind = .closing
  | .node, _ => True

section Unique

open Node

variable {rest rest' : List Token}

theorem follow_closing (s : Symbol) {t : Token} (h : t.kind = .closing) : s.Follow (t :: rest) := by
  cases s with
  | elements => exact fun _ ht => Option.some.inj ht ▸ h
  | node => trivial

theorem endsItems_of_isSeparated {name : Token} {hName : name.kind = .word} {items : List Item}
    (h : (Derivation.line name hName items).IsSeparated rest.head?) : EndsItems rest := by
  intro t ht
  obtain hKind | hKind := h t ht <;> simp [endsLine, hKind]

theorem endsItems_opening {opening : Token} (h : opening.kind = .opening) :
    EndsItems (opening :: rest) := by
  intro t ht
  cases ht
  simp [endsLine, h]

theorem Derivation.exists_name (d : Derivation .node) :
    ∃ name ts, d.tokens = name :: ts ∧ name.kind = .word := by
  cases d with
  | line name hName items => exact ⟨name, _, rfl, hName⟩
  | block name hName items opening hOpening inner closing hClosing => exact ⟨name, _, rfl, hName⟩

theorem Derivation.ne_newline {t : Token} {h : t.kind = .newline} {others : Derivation .elements}
    (hRest : Symbol.elements.Follow rest) : rest ≠ (newline t h others).tokens ++ rest' := by
  rintro rfl
  simpa [h] using hRest t rfl

theorem Derivation.ne_node {first : Derivation .node} {others : Derivation .elements}
    (hRest : Symbol.elements.Follow rest) : rest ≠ (node first others).tokens ++ rest' := by
  rintro rfl
  obtain ⟨name, ts, hTokens, hName⟩ := first.exists_name
  simpa [hName] using hRest name (by simp [tokens, hTokens])

theorem Derivation.newline_ne_node {t : Token} {h : t.kind = .newline} {first : Derivation .node}
    {others others' : Derivation .elements} :
    (newline t h others).tokens ++ rest ≠ (node first others').tokens ++ rest' := by
  obtain ⟨name, ts, hTokens, hName⟩ := first.exists_name
  rw [tokens, tokens, hTokens, List.cons_append, List.cons_append, List.cons_append]
  intro hText
  rw [List.cons.injEq] at hText
  simp [hText.1, hName] at h

theorem Derivation.line_ne_block {name name' opening closing : Token} {hName : name.kind = .word}
    {hName' : name'.kind = .word} {items items' : List Item} {hOpening : opening.kind = .opening}
    {inner : Derivation .elements} {hClosing : closing.kind = .closing}
    (hSep : (line name hName items).IsSeparated rest.head?) :
    (line name hName items).tokens ++ rest ≠
      (block name' hName' items' opening hOpening inner closing hClosing).tokens ++ rest' := by
  intro h
  simp only [tokens, List.cons_append, List.append_assoc, List.cons.injEq] at h
  obtain ⟨-, rfl⟩ :=
    items_eq_of_append_eq (endsItems_of_isSeparated hSep) (endsItems_opening hOpening) h.2
  simpa [hOpening] using hSep opening rfl

/-- Tokens alone tell where a separated tree ends and which one it is. -/
theorem Derivation.eq_of_tokens_append_eq {s : Symbol} {d d' : Derivation s} (hRest : s.Follow rest)
    (hRest' : s.Follow rest') (hSep : d.IsSeparated rest.head?)
    (hSep' : d'.IsSeparated rest'.head?) (h : d.tokens ++ rest = d'.tokens ++ rest') :
    d = d' ∧ rest = rest' := by
  -- the first token tells the two trees' constructors apart, except for a line and a block, which
  -- differ only behind their items
  induction d generalizing rest rest' with
  | done =>
    cases d' with
    | done => exact ⟨rfl, h⟩
    | newline t hNewline others => exact absurd h (ne_newline hRest)
    | node first others => exact absurd h (ne_node hRest)
  | newline t hNewline others ih =>
    cases d' with
    | done => exact absurd h.symm (ne_newline hRest')
    | newline t' hNewline' others' =>
      simp only [tokens, List.cons_append, List.cons.injEq] at h
      obtain ⟨rfl, hOthers⟩ := h
      have hAfter' : others'.IsSeparated rest'.head? := hSep'
      obtain ⟨rfl, hEnd⟩ := ih hRest hRest' hSep hAfter' hOthers
      exact ⟨rfl, hEnd⟩
    | node first others => exact absurd h newline_ne_node
  | node first others ihFirst ihOthers =>
    cases d' with
    | done => exact absurd h.symm (ne_node hRest')
    | newline t hNewline others => exact absurd h.symm newline_ne_node
    | node first' others' =>
      obtain ⟨hBefore, hAfter⟩ := hSep
      obtain ⟨hBefore', hAfter'⟩ := hSep'
      rw [← List.head?_append] at hBefore hBefore'
      rw [tokens, tokens, List.append_assoc, List.append_assoc] at h
      obtain ⟨rfl, hMore⟩ := ihFirst trivial trivial hBefore hBefore' h
      obtain ⟨rfl, hEnd⟩ := ihOthers hRest hRest' hAfter hAfter' hMore
      exact ⟨rfl, hEnd⟩
  | line name hName items =>
    cases d' with
    | line name' hName' items' =>
      simp only [tokens, List.cons_append, List.cons.injEq] at h
      obtain ⟨rfl, hMore⟩ := h
      obtain ⟨rfl, hEnd⟩ := items_eq_of_append_eq (endsItems_of_isSeparated hSep)
        (endsItems_of_isSeparated hSep') hMore
      exact ⟨rfl, hEnd⟩
    | block => exact absurd h (line_ne_block hSep)
  | block name hName items opening hOpening inner closing hClosing ih =>
    cases d' with
    | line => exact absurd h.symm (line_ne_block hSep')
    | block name' hName' items' opening' hOpening' inner' closing' hClosing' =>
      simp only [tokens, List.cons_append, List.append_assoc, List.nil_append,
        List.cons.injEq] at h
      obtain ⟨rfl, hMore⟩ := h
      obtain ⟨rfl, hBlock⟩ := items_eq_of_append_eq (endsItems_opening hOpening)
        (endsItems_opening hOpening') hMore
      rw [List.cons.injEq] at hBlock
      obtain ⟨rfl, hInner⟩ := hBlock
      obtain ⟨rfl, hEnd⟩ := ih (follow_closing _ hClosing) (follow_closing _ hClosing') hSep hSep'
        hInner
      rw [List.cons.injEq] at hEnd
      obtain ⟨rfl, hEnd⟩ := hEnd
      exact ⟨rfl, hEnd⟩

/-- No two separated documents have the same tokens. -/
theorem Derivation.eq_of_tokens_eq {d d' : Derivation .elements} (hSep : d.IsSeparated none)
    (hSep' : d'.IsSeparated none) (h : d.tokens = d'.tokens) : d = d' := by
  have hRest : Symbol.elements.Follow [] := fun _ ht => nomatch ht
  have hEnds : d.tokens ++ [] = d'.tokens ++ [] := congrArg (· ++ []) h
  exact (eq_of_tokens_append_eq hRest hRest hSep hSep' hEnds).1

end Unique

end Workflow.Source
