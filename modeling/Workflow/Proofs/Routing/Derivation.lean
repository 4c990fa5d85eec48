import Workflow.Proofs.Routing.Blanks

/-!
# Derivation trees of routing expressions

A derivation tree holds the tokens of an expression as the grammar groups them. Its tokens name it,
so no text has two. The nesting of a token is the number of negations and grouping parentheses
around it; the readers accept what has a tree with no token nested deeper than their limit.
-/

namespace Workflow.Routing

open Workflow.Text

/-- The operators that join operands. -/
inductive Connective where
  | and
  | or

/-- The symbols of the grammar: operands, and operands of one kind joined by a connective. -/
inductive Symbol where
  | operand
  | joined (c : Connective)

namespace Connective

def kind : Connective → Token.Kind
  | .and => .and
  | .or => .or

def join : Connective → Expr → Expr → Expr
  | .and => .and
  | .or => .or

/-- What a connective joins; `||` joins conjunctions, so `&&` binds tighter. -/
def part : Connective → Symbol
  | .and => .operand
  | .or => .joined .and

/-- Joins an expression to one on its left, if there is any. -/
def joinTo (c : Connective) (left : Option Expr) (e : Expr) : Expr :=
  match left with
  | none => e
  | some left => c.join left e

end Connective

/-- The trees of the grammar `joined c := part c (c part c)*` and
`operand := "!" operand | "(" joined "||" ")" | call`. -/
inductive Derivation : Symbol → Type
  | call {phrase : List Token} {e : Expr} (h : IsCall phrase e) : Derivation .operand
  | not (sign : Token) (hSign : sign.kind = .not) (operand : Derivation .operand) :
    Derivation .operand
  | group (opening : Token) (hOpening : opening.kind = .opening) (inner : Derivation (.joined .or))
      (closing : Token) (hClosing : closing.kind = .closing) :
    Derivation .operand
  | one (c : Connective) (only : Derivation c.part) : Derivation (.joined c)
  | more (c : Connective) (first : Derivation c.part) (sign : Token) (hSign : sign.kind = c.kind)
      (others : Derivation (.joined c)) :
    Derivation (.joined c)

namespace Derivation

/-- The tokens of a tree, each with the number of negations and parentheses around it, where
`outer` of them are around the whole tree. -/
def placed {s : Symbol} (outer : Nat) : Derivation s → List (Token × Nat)
  | @call phrase _ _ => phrase.map fun t => (t, outer)
  | .not sign _ operand => (sign, outer) :: operand.placed (outer + 1)
  | .group opening _ inner closing _ =>
    (opening, outer) :: (inner.placed (outer + 1) ++ [(closing, outer)])
  | .one _ only => only.placed outer
  | .more _ first sign _ others => first.placed outer ++ (sign, outer) :: others.placed outer

def tokens {s : Symbol} (d : Derivation s) : List Token :=
  (d.placed 0).map Prod.fst

/-- The expression of a tree, with one on its left that its first operand is joined to, if any. -/
def joinedTo {s : Symbol} (left : Option Expr) : Derivation s → Expr
  | @call _ e _ => e
  | .not _ _ operand => .not (operand.joinedTo none)
  | .group _ _ inner _ _ => inner.joinedTo none
  | .one c only => c.joinTo left (only.joinedTo none)
  | .more c first _ _ others => others.joinedTo (some (c.joinTo left (first.joinedTo none)))

/-- The expression of a tree. Connectives group to the left. -/
def expr {s : Symbol} (d : Derivation s) : Expr :=
  d.joinedTo none

/-- How deep a tree nests. -/
def nesting {s : Symbol} : Derivation s → Nat
  | .call _ => 0
  | .not _ _ operand => operand.nesting + 1
  | .group _ _ inner _ _ => inner.nesting + 1
  | .one _ only => only.nesting
  | .more _ first _ _ others => max first.nesting others.nesting

section Tokens

variable {s : Symbol}

/-- What is around a tree does not change its tokens. -/
theorem map_fst_placed (d : Derivation s) (outer inner : Nat) :
    (d.placed outer).map Prod.fst = (d.placed inner).map Prod.fst := by
  induction d generalizing outer inner with
  | call h => simp [placed, Function.comp_def]
  | not sign hSign operand ih => simp [placed, ih (outer + 1) (inner + 1)]
  | group opening hOpening body closing hClosing ih => simp [placed, ih (outer + 1) (inner + 1)]
  | one c only ih => exact ih outer inner
  | more c first sign hSign others ihFirst ihOthers =>
    simp [placed, ihFirst outer inner, ihOthers outer inner]

@[simp] theorem tokens_call {phrase : List Token} {e : Expr} (h : IsCall phrase e) :
    (call h).tokens = phrase := by
  simp [tokens, placed, Function.comp_def]

@[simp] theorem tokens_not (sign : Token) (hSign : sign.kind = .not)
    (operand : Derivation .operand) :
    (Derivation.not sign hSign operand).tokens = sign :: operand.tokens := by
  simp only [tokens, placed, List.map_cons, operand.map_fst_placed 1 0]

@[simp] theorem tokens_group (opening : Token) (hOpening : opening.kind = .opening)
    (inner : Derivation (.joined .or)) (closing : Token) (hClosing : closing.kind = .closing) :
    (group opening hOpening inner closing hClosing).tokens =
      opening :: (inner.tokens ++ [closing]) := by
  simp only [tokens, placed, List.map_cons, List.map_append, List.map_nil,
    inner.map_fst_placed 1 0]

@[simp] theorem tokens_one (c : Connective) (only : Derivation c.part) :
    (one c only).tokens = only.tokens := rfl

@[simp] theorem tokens_more (c : Connective) (first : Derivation c.part) (sign : Token)
    (hSign : sign.kind = c.kind) (others : Derivation (.joined c)) :
    (more c first sign hSign others).tokens = first.tokens ++ sign :: others.tokens := by
  simp [tokens, placed]

/-- The nesting of a tree is the greatest number placed at its tokens. -/
theorem nesting_placed (d : Derivation s) (outer : Nat) :
    (∀ p ∈ d.placed outer, p.2 ≤ outer + d.nesting) ∧
      ∃ p ∈ d.placed outer, p.2 = outer + d.nesting := by
  induction d generalizing outer with
  | call h =>
    obtain ⟨t, more, rfl, -⟩ := h.exists_cons
    simp [placed, nesting]
  | not sign hSign operand ih =>
    obtain ⟨hAll, p, hp, hDeep⟩ := ih (outer + 1)
    simp only [placed, nesting, List.forall_mem_cons]
    refine ⟨⟨Nat.le_add_right _ _, fun q hq => ?_⟩, p, List.mem_cons_of_mem _ hp, by omega⟩
    exact (hAll q hq).trans (by omega)
  | group opening hOpening inner closing hClosing ih =>
    obtain ⟨hAll, p, hp, hDeep⟩ := ih (outer + 1)
    simp only [placed, nesting, List.forall_mem_cons, List.forall_mem_append]
    refine ⟨⟨Nat.le_add_right _ _, fun q hq => ?_, by simp⟩, p, ?_, by omega⟩
    · exact (hAll q hq).trans (by omega)
    · exact List.mem_cons_of_mem _ (List.mem_append_left _ hp)
  | one c only ih => exact ih outer
  | more c first sign hSign others ihFirst ihOthers =>
    obtain ⟨hFirst, p, hp, hDeep⟩ := ihFirst outer
    obtain ⟨hOthers, q, hq, hDeep'⟩ := ihOthers outer
    simp only [placed, nesting, List.forall_mem_append, List.forall_mem_cons]
    refine ⟨⟨fun r hr => ?_, Nat.le_add_right _ _, fun r hr => ?_⟩, ?_⟩
    · exact (hFirst r hr).trans (by omega)
    · exact (hOthers r hr).trans (by omega)
    · obtain h | h := Nat.le_total first.nesting others.nesting
      · exact ⟨q, List.mem_append_right _ (List.mem_cons_of_mem _ hq), by omega⟩
      · exact ⟨p, List.mem_append_left _ hp, by omega⟩

theorem forall_placed_le_iff (d : Derivation s) (depth : Nat) :
    (∀ p ∈ d.placed 0, p.2 ≤ depth) ↔ d.nesting ≤ depth := by
  obtain ⟨hAll, p, hp, hDeep⟩ := d.nesting_placed 0
  rw [Nat.zero_add] at hAll hDeep
  exact ⟨fun h => hDeep ▸ h p hp, fun h q hq => (hAll q hq).trans h⟩

end Tokens

end Derivation

/-- What may follow a phrase so that it is not read any further. -/
def Symbol.Follow : Symbol → List Token → Prop
  | .operand, rest => Ends rest
  | .joined .and, rest => Ends rest ∧ ∀ t ∈ rest.head?, t.kind ≠ .and
  | .joined .or, rest => Ends rest ∧ ∀ t ∈ rest.head?, t.kind ≠ .and ∧ t.kind ≠ .or

namespace Symbol

variable {rest : List Token}

theorem Follow.part {c : Connective} (h : (Symbol.joined c).Follow rest) : c.part.Follow rest := by
  cases c with
  | and => exact h.1
  | or => exact ⟨h.1, fun t ht => (h.2 t ht).1⟩

theorem Follow.ne_kind {c : Connective} (h : (Symbol.joined c).Follow rest) :
    ∀ t ∈ rest.head?, t.kind ≠ c.kind := by
  cases c with
  | and => exact h.2
  | or => exact fun t ht => (h.2 t ht).2

theorem Follow.ends {s : Symbol} (h : s.Follow rest) : Ends rest := by
  match s, h with
  | .operand, h => exact h
  | .joined .and, h => exact h.1
  | .joined .or, h => exact h.1

theorem follow_nil (s : Symbol) : s.Follow [] := by
  match s with
  | .operand | .joined .and | .joined .or => simp [Follow, Ends]

theorem follow_closing (s : Symbol) {t : Token} (h : t.kind = .closing) : s.Follow (t :: rest) := by
  match s with
  | .operand | .joined .and | .joined .or => simp [Follow, Ends, h]

theorem follow_sign {c : Connective} {sign : Token} (h : sign.kind = c.kind) :
    c.part.Follow (sign :: rest) := by
  cases c <;> simp [Connective.part, Connective.kind, Follow, Ends] at h ⊢ <;> simp [h]

end Symbol

section Unique

variable {rest rest' : List Token}

theorem Reads.unique {α : Type} {p : List Token → Prop}
    {reading : Except Fault (α × { rest // p rest })} {a a' : α} (h : Reads reading a rest)
    (h' : Reads reading a' rest') : a = a' ∧ rest = rest' := by
  obtain ⟨_, hRead⟩ := h
  obtain ⟨_, hRead'⟩ := h'
  cases hRead.symm.trans hRead'
  exact ⟨rfl, rfl⟩

theorem IsCall.eq_of_append_eq {phrase phrase' : List Token} {e e' : Expr} (h : IsCall phrase e)
    (h' : IsCall phrase' e') (hRest : Ends rest) (hRest' : Ends rest')
    (hText : phrase ++ rest = phrase' ++ rest') : phrase = phrase' ∧ e = e' ∧ rest = rest' := by
  obtain ⟨t, more, rfl, -⟩ := h.exists_cons
  obtain ⟨t', more', rfl, -⟩ := h'.exists_cons
  rw [List.cons_append, List.cons_append, List.cons.injEq] at hText
  obtain ⟨rfl, hMore⟩ := hText
  have hRead := reads_word_of_isCall h hRest
  rw [hMore] at hRead
  obtain ⟨hExpr, rfl⟩ := hRead.unique (reads_word_of_isCall h' hRest')
  exact ⟨congrArg _ (List.append_cancel_right hMore), hExpr, rfl⟩

theorem cons_ne_cons_of_kind {t t' : Token} {ts ts' : List Token} {kind kind' : Token.Kind}
    (h : t.kind = kind) (h' : t'.kind = kind') (hKind : kind ≠ kind') : t :: ts ≠ t' :: ts' := by
  intro hText
  rw [List.cons.injEq] at hText
  exact hKind (h.symm.trans ((congrArg Token.kind hText.1).trans h'))

/-- Tokens alone tell where a tree ends and which one it is. -/
theorem Derivation.eq_of_tokens_append_eq {s : Symbol} {d d' : Derivation s} (hRest : s.Follow rest)
    (hRest' : s.Follow rest') (h : d.tokens ++ rest = d'.tokens ++ rest') :
    d = d' ∧ rest = rest' := by
  induction d generalizing rest rest' with
  | call hCall =>
    obtain ⟨t, more, rfl, hKind⟩ := hCall.exists_cons
    cases d' with
    | call hCall' =>
      rw [tokens_call, tokens_call] at h
      obtain ⟨rfl, rfl, hEnd⟩ := hCall.eq_of_append_eq hCall' hRest hRest' h
      exact ⟨rfl, hEnd⟩
    | not sign hSign operand => exact absurd h (cons_ne_cons_of_kind hKind hSign (by decide))
    | group opening hOpening inner closing hClosing =>
      exact absurd h (cons_ne_cons_of_kind hKind hOpening (by decide))
  | not sign hSign operand ih =>
    cases d' with
    | call hCall =>
      obtain ⟨t, more, rfl, hKind⟩ := hCall.exists_cons
      exact absurd h (cons_ne_cons_of_kind hSign hKind (by decide))
    | not sign' hSign' operand' =>
      simp only [tokens_not, List.cons_append, List.cons.injEq] at h
      obtain ⟨rfl, hOperand⟩ := h
      obtain ⟨rfl, hEnd⟩ := ih hRest hRest' hOperand
      exact ⟨rfl, hEnd⟩
    | group opening hOpening inner closing hClosing =>
      exact absurd h (cons_ne_cons_of_kind hSign hOpening (by decide))
  | group opening hOpening inner closing hClosing ih =>
    cases d' with
    | call hCall =>
      obtain ⟨t, more, rfl, hKind⟩ := hCall.exists_cons
      exact absurd h (cons_ne_cons_of_kind hOpening hKind (by decide))
    | not sign hSign operand => exact absurd h (cons_ne_cons_of_kind hOpening hSign (by decide))
    | group opening' hOpening' inner' closing' hClosing' =>
      simp only [tokens_group, List.cons_append, List.append_assoc, List.nil_append,
        List.cons.injEq] at h
      obtain ⟨rfl, hInner⟩ := h
      obtain ⟨rfl, hEnd⟩ := ih (Symbol.follow_closing _ hClosing)
        (Symbol.follow_closing _ hClosing') hInner
      rw [List.cons.injEq] at hEnd
      obtain ⟨rfl, hEnd⟩ := hEnd
      exact ⟨rfl, hEnd⟩
  | one c only ih =>
    cases d' with
    | one _ only' =>
      obtain ⟨rfl, hEnd⟩ := ih hRest.part hRest'.part h
      exact ⟨rfl, hEnd⟩
    | more _ first sign hSign others =>
      rw [tokens_more, List.append_assoc, List.cons_append] at h
      obtain ⟨-, rfl⟩ := ih hRest.part (Symbol.follow_sign hSign) h
      exact absurd hSign (hRest.ne_kind sign rfl)
  | more c first sign hSign others ihFirst ihOthers =>
    cases d' with
    | one _ only =>
      rw [tokens_more, List.append_assoc, List.cons_append] at h
      obtain ⟨-, rfl⟩ := ihFirst (Symbol.follow_sign hSign) hRest'.part h
      exact absurd hSign (hRest'.ne_kind sign rfl)
    | more _ first' sign' hSign' others' =>
      simp only [tokens_more, List.append_assoc, List.cons_append] at h
      obtain ⟨rfl, hMore⟩ := ihFirst (Symbol.follow_sign hSign) (Symbol.follow_sign hSign') h
      rw [List.cons.injEq] at hMore
      obtain ⟨rfl, hMore⟩ := hMore
      obtain ⟨rfl, hEnd⟩ := ihOthers hRest hRest' hMore
      exact ⟨rfl, hEnd⟩

theorem Derivation.eq_of_tokens_eq {s : Symbol} {d d' : Derivation s} (h : d.tokens = d'.tokens) :
    d = d' := by
  have hEnds : d.tokens ++ [] = d'.tokens ++ [] := congrArg (· ++ []) h
  exact (eq_of_tokens_append_eq s.follow_nil s.follow_nil hEnds).1

end Unique

section Layers

def Layer.symbol : Layer → Symbol
  | .operand => .operand
  | .conjunction => .joined .and
  | .alternatives => .joined .or

def Symbol.layer : Symbol → Layer
  | .operand => .operand
  | .joined .and => .conjunction
  | .joined .or => .alternatives

/-- Connectives grow to the right in trees and group to the left in expressions. -/
theorem Derivation.exists_snoc {s : Symbol} (d : Derivation s) :
    ∀ c, s = .joined c → ∀ {sign : Token}, sign.kind = c.kind → ∀ last : Derivation c.part,
      ∃ d' : Derivation (.joined c), d'.tokens = d.tokens ++ sign :: last.tokens ∧
        (∀ left, d'.joinedTo left = c.join (d.joinedTo left) last.expr) ∧
        d'.nesting = max d.nesting last.nesting := by
  induction d with
  | call | not | group => exact nofun
  | one c only ih =>
    intro _ hSymbol sign hSign last
    cases hSymbol
    exact ⟨.more c only sign hSign (.one c last), by simp, fun left => rfl, rfl⟩
  | more c first sign' hSign' others ihFirst ihOthers =>
    intro _ hSymbol sign hSign last
    cases hSymbol
    obtain ⟨d', hTokens, hExpr, hNesting⟩ := ihOthers c rfl hSign last
    exact ⟨.more c first sign' hSign' d', by simp [hTokens], fun left => hExpr _,
      by simp [nesting, hNesting, Nat.max_assoc]⟩

theorem Derives.exists_derivation {depth : Nat} {layer : Layer} {ts : List Token} {e : Expr}
    (h : Derives depth layer ts e) :
    ∃ d : Derivation layer.symbol, d.tokens = ts ∧ d.expr = e ∧ d.nesting ≤ depth := by
  induction h with
  | call h => exact ⟨.call h, Derivation.tokens_call h, rfl, Nat.zero_le _⟩
  | not hKind _ ih =>
    obtain ⟨d, rfl, rfl, hDepth⟩ := ih
    exact ⟨.not _ hKind d, Derivation.tokens_not _ hKind d, rfl, Nat.succ_le_succ hDepth⟩
  | group hOpening _ hClosing ih =>
    obtain ⟨d, rfl, rfl, hDepth⟩ := ih
    exact ⟨.group _ hOpening d _ hClosing, Derivation.tokens_group _ hOpening d _ hClosing, rfl,
      Nat.succ_le_succ hDepth⟩
  | one _ ih =>
    obtain ⟨d, rfl, rfl, hDepth⟩ := ih
    exact ⟨.one .and d, rfl, rfl, hDepth⟩
  | and _ hKind _ ihLeft ihRight =>
    obtain ⟨left, rfl, rfl, hLeft⟩ := ihLeft
    obtain ⟨right, rfl, rfl, hRight⟩ := ihRight
    obtain ⟨d, hTokens, hExpr, hNesting⟩ := left.exists_snoc _ rfl hKind right
    exact ⟨d, hTokens, hExpr none, hNesting ▸ Nat.max_le.mpr ⟨hLeft, hRight⟩⟩
  | only _ ih =>
    obtain ⟨d, rfl, rfl, hDepth⟩ := ih
    exact ⟨.one .or d, rfl, rfl, hDepth⟩
  | or _ hKind _ ihLeft ihRight =>
    obtain ⟨left, rfl, rfl, hLeft⟩ := ihLeft
    obtain ⟨right, rfl, rfl, hRight⟩ := ihRight
    obtain ⟨d, hTokens, hExpr, hNesting⟩ := left.exists_snoc _ rfl hKind right
    exact ⟨d, hTokens, hExpr none, hNesting ▸ Nat.max_le.mpr ⟨hLeft, hRight⟩⟩

variable {depth : Nat} {c : Connective}

theorem Derives.joined_one {ts : List Token} {e : Expr} (h : Derives depth c.part.layer ts e) :
    Derives depth (Symbol.joined c).layer ts e := by
  cases c with
  | and => exact .one h
  | or => exact .only h

theorem Derives.joined_join {ls rs : List Token} {sign : Token} {left right : Expr}
    (hLeft : Derives depth (Symbol.joined c).layer ls left) (hSign : sign.kind = c.kind)
    (hRight : Derives depth c.part.layer rs right) :
    Derives depth (Symbol.joined c).layer (ls ++ sign :: rs) (c.join left right) := by
  cases c with
  | and => exact .and hLeft hSign hRight
  | or => exact .or hLeft hSign hRight

/-- A tree is derived by itself, and behind a connective it adds its parts to what is derived
before it. -/
theorem Derivation.derives {s : Symbol} (d : Derivation s) (hDepth : d.nesting ≤ depth) :
    Derives depth s.layer d.tokens d.expr ∧
      ∀ c, s = .joined c → ∀ {ls : List Token} {sign : Token} {left : Expr},
        Derives depth s.layer ls left → sign.kind = c.kind →
        Derives depth s.layer (ls ++ sign :: d.tokens) (d.joinedTo (some left)) := by
  induction d generalizing depth with
  | call h => exact ⟨by rw [tokens_call]; exact .call h, nofun⟩
  | not sign hSign operand ih =>
    cases depth with
    | zero => cases hDepth
    | succ depth =>
      rw [tokens_not]
      exact ⟨.not hSign (ih (Nat.le_of_succ_le_succ hDepth)).1, nofun⟩
  | group opening hOpening inner closing hClosing ih =>
    cases depth with
    | zero => cases hDepth
    | succ depth =>
      rw [tokens_group]
      exact ⟨.group hOpening (ih (Nat.le_of_succ_le_succ hDepth)).1 hClosing, nofun⟩
  | one c only ih =>
    refine ⟨(ih hDepth).1.joined_one, fun _ hSymbol _ _ _ hLeft hSign => ?_⟩
    cases hSymbol
    exact hLeft.joined_join hSign (ih hDepth).1
  | more c first sign hSign others ihFirst ihOthers =>
    obtain ⟨hFirst, hOthers⟩ := Nat.max_le.mp hDepth
    rw [tokens_more]
    refine ⟨(ihOthers hOthers).2 c rfl (ihFirst hFirst).1.joined_one hSign,
      fun _ hSymbol ls sign' left hLeft hSign' => ?_⟩
    cases hSymbol
    have hGrown := hLeft.joined_join hSign' (ihFirst hFirst).1
    have hAll := (ihOthers hOthers).2 c rfl hGrown hSign
    rwa [List.append_assoc, List.cons_append] at hAll

end Layers

theorem Expr.ofTokens_eq_ok_iff_exists_derivation {ts : List Token} {e : Expr} :
    Expr.ofTokens ts = .ok e ↔
      ts.countP Token.joins < operandLimit ∧
        ∃ d : Derivation (.joined .or), d.tokens = ts ∧ d.nesting ≤ nestingLimit ∧ d.expr = e := by
  rw [ofTokens_eq_ok_iff]
  refine and_congr_right fun _ => ⟨fun h => ?_, ?_⟩
  · obtain ⟨d, hTokens, hExpr, hDepth⟩ := h.exists_derivation
    exact ⟨d, hTokens, hDepth, hExpr⟩
  · rintro ⟨d, rfl, hDepth, rfl⟩
    exact (d.derives hDepth).1

theorem Token.scan_of_allBlank {text : String} (h : allBlank text = true) :
    Token.scan text = .ok [] :=
  Token.scanFrom_blanks 0 0 (List.all_eq_true.mp h)

/-- A text whose tokens have a tree is not blank. -/
theorem allBlank_eq_false_of_tokens {text : String} {s : Symbol} {d : Derivation s}
    (h : Token.scan text = .ok d.tokens) : allBlank text = false := by
  rw [← Bool.not_eq_true]
  intro hBlank
  obtain ⟨-, p, hp, -⟩ := d.nesting_placed 0
  have hNone : d.tokens = [] := Except.ok.inj (h.symm.trans (Token.scan_of_allBlank hBlank))
  exact List.not_mem_nil (List.map_eq_nil_iff.mp hNone ▸ hp)

/-- A text with tokens is read exactly if they have a derivation tree of at most 255 connectives
with no token deeper than 64. The tree is the only one of its tokens, and what is read is the
expression of the tree. -/
theorem Expr.parse_eq_ok_iff_derivation {text : String} {ts : List Token}
    (hScan : Token.scan text = .ok ts) :
    (∀ e, Expr.parse text = .ok e ↔
      ts.countP Token.joins ≤ 255 ∧
        ∃ d : Derivation (.joined .or), d.tokens = ts ∧ (∀ p ∈ d.placed 0, p.2 ≤ 64) ∧ d.expr = e) ∧
    (∀ d d' : Derivation (.joined .or), d.tokens = ts → d'.tokens = ts → d = d') ∧
    ((∀ e, Expr.parse text ≠ .ok e) → ∃ fault, Expr.parse text = .error ⟨fault, text⟩) := by
  refine ⟨fun e => ?_, fun d d' hTokens hTokens' => ?_, fun hNone => ?_⟩
  · rw [Expr.parse, Except.mapError_eq_ok_iff, Expr.read_eq_ok_iff]
    simp only [Derivation.forall_placed_le_iff]
    constructor
    · rintro ⟨-, ts', hScan', hTokens⟩
      cases hScan.symm.trans hScan'
      obtain ⟨hFew, hTree⟩ := Expr.ofTokens_eq_ok_iff_exists_derivation.mp hTokens
      exact ⟨Nat.le_of_lt_succ hFew, hTree⟩
    · rintro ⟨hFew, d, rfl, hTree⟩
      refine ⟨allBlank_eq_false_of_tokens hScan, _, hScan, ?_⟩
      exact Expr.ofTokens_eq_ok_iff_exists_derivation.mpr ⟨Nat.lt_succ_of_le hFew, d, rfl, hTree⟩
  · exact Derivation.eq_of_tokens_eq (hTokens.trans hTokens'.symm)
  · cases hRead : Expr.read text with
    | ok e => exact absurd (Except.mapError_eq_ok_iff.mpr hRead) (hNone e)
    | error fault => exact ⟨fault, by rw [Expr.parse, hRead]; rfl⟩

theorem Expr.parse_eq_ok_iff_derivation_at_negation :
    ∃ ts, Token.scan "!(exists(\"a\") || true) && output(\"b\") != 1 && false" = .ok ts ∧
      ∃ d : Derivation (.joined .or), d.tokens = ts ∧ (∀ p ∈ d.placed 0, p.2 ≤ 64) ∧
        (∀ d' : Derivation (.joined .or), d'.tokens = ts → d' = d) ∧
        d.expr = .and (.and (.not (.or (.present "a") (.literal true)))
          (.compare .output "b" .differ "1")) (.literal false) := by
  have hParse : Expr.parse "!(exists(\"a\") || true) && output(\"b\") != 1 && false" =
      .ok (.and (.and (.not (.or (.present "a") (.literal true)))
        (.compare .output "b" .differ "1")) (.literal false)) := by decide +kernel
  obtain ⟨-, ts, hScan, -⟩ := Expr.read_eq_ok_iff.mp (Except.mapError_eq_ok_iff.mp hParse)
  obtain ⟨hRead, hUnique, -⟩ := Expr.parse_eq_ok_iff_derivation hScan
  obtain ⟨-, d, hTokens, hDeep, hExpr⟩ := (hRead _).mp hParse
  exact ⟨ts, hScan, d, hTokens, hDeep, fun d' hTokens' => hUnique d' d hTokens' hTokens, hExpr⟩

end Workflow.Routing
