import Workflow.Proofs.Except
import Workflow.Proofs.Source.Grammar

/-!
# What the readers of nodes do at the front of the tokens

One equation for each front that a reader tells apart. The bound on the rest, which the readers
carry for their recursion, is dropped by `Reading.result`.
-/

namespace Workflow.Source

section Values

variable {t : Token} {v : Value}

theorem readNumber_of_pointed {text : String} (h : '.' ∈ text.toList) :
    Node.readNumber text = .ok (.float (Number.ofPointed text.toList)) := by
  simp [Node.readNumber, h]

theorem readNumber_of_short {text : String} (h : '.' ∉ text.toList)
    (hShort : (Number.splitSign text.toList).2.length ≤ 4300) :
    Node.readNumber text = .ok (.int (Number.ofNumeral text.toList)) := by
  have hFew : ¬ Number.digitLimit < (Number.splitSign text.toList).2.length :=
    Nat.not_lt_of_le hShort
  simp [Node.readNumber, h, hFew]

theorem readNumber_of_long {text : String} (h : '.' ∉ text.toList)
    (hLong : ¬ (Number.splitSign text.toList).2.length ≤ 4300) :
    Node.readNumber text = .error (.tooManyDigits (Number.splitSign text.toList).2.length) := by
  have hMany : Number.digitLimit < (Number.splitSign text.toList).2.length :=
    Nat.lt_of_not_le hLong
  simp [Node.readNumber, h, hMany]

theorem readValue_of_short (hScalar : t.IsScalar) (hShort : t.IsShort) :
    Node.readValue t = .ok t.scalar := by
  obtain hKind | hKind | hKind | hKind := hScalar
  · simp [Node.readValue, Token.scalar, hKind]
  · by_cases hPoint : '.' ∈ t.value.toList
    · simp [Node.readValue, Token.scalar, hKind, hPoint, readNumber_of_pointed hPoint]
    · simp [Node.readValue, Token.scalar, hKind, hPoint,
        readNumber_of_short hPoint (hShort hKind hPoint)]
  · simp [Node.readValue, Token.scalar, hKind]
  · simp [Node.readValue, Token.scalar, hKind]

theorem readValue_of_long (hLong : ¬ t.IsShort) :
    Node.readValue t = .error (.tooManyDigits t.digits) := by
  simp only [Token.IsShort, Classical.not_imp] at hLong
  obtain ⟨hKind, hPoint, hMany⟩ := hLong
  rw [Node.readValue, hKind]
  exact readNumber_of_long hPoint hMany

theorem readValue_of_not_scalar (h : ¬ t.IsScalar) :
    Node.readValue t = .error (.grammar (.expectedValue (some t)) (some t)) := by
  simp only [Token.IsScalar, not_or] at h
  cases hKind : t.kind <;> simp [hKind] at h <;> simp [Node.readValue, hKind]

theorem readValue_eq_ok_iff :
    Node.readValue t = .ok v ↔ t.IsScalar ∧ t.IsShort ∧ t.scalar = v := by
  by_cases hScalar : t.IsScalar
  · by_cases hShort : t.IsShort
    · simp [readValue_of_short hScalar hShort, hScalar, hShort]
    · simp [readValue_of_long hShort, hShort]
  · simp [readValue_of_not_scalar hScalar, hScalar]

end Values

namespace Node

/-- What a reader gives, without the bound on the rest. -/
def Reading.result {α : Type} {ts : List Token} (reading : Reading α ts) :
    Except TreeError (α × List Token) :=
  reading.map fun read => (read.1, read.2.val)

theorem Reading.length_le {α : Type} {ts rest : List Token} {reading : Reading α ts} {a : α}
    (h : reading.result = .ok (a, rest)) : rest.length ≤ ts.length := by
  obtain ⟨⟨_, rest', hRest⟩, -, hEq⟩ := Except.map_eq_ok_iff.mp h
  cases hEq
  exact hRest

section Items

variable {args : List Value} {props : Attrs} {t sign value : Token} {ts : List Token}

theorem result_readItems_of_ends (h : EndsItems ts) :
    (readItems args props ts).result = .ok ((args.reverse, props), ts) := by
  rw [readItems.eq_def]
  cases ts with
  | nil => rfl
  | cons t ts =>
    simp only [h t rfl, if_true]
    rfl

theorem result_readItems_dangling (hKey : t.kind = .word) (hSign : sign.kind = .equals) :
    (readItems args props [t, sign]).result =
      .error (.grammar (.expectedValue none) none) := by
  have hLine : endsLine t = false := by simp [endsLine, hKey]
  rw [readItems.eq_def]
  simp only [hLine, hKey, hSign, and_self, if_true, Bool.false_eq_true, if_false]
  rfl

theorem result_readItems_property (hKey : t.kind = .word) (hSign : sign.kind = .equals) :
    (readItems args props (t :: sign :: value :: ts)).result =
      readValue value >>= fun v => (readItems args (props.insert t.value v) ts).result := by
  have hLine : endsLine t = false := by simp [endsLine, hKey]
  rw [readItems.eq_def]
  simp only [hLine, hKey, hSign, and_self, if_true, Bool.false_eq_true, if_false]
  cases readValue value with
  | error e => rfl
  | ok v =>
    cases h : readItems args (props.insert t.value v) ts <;>
      simp [bind, Except.bind, h, Reading.result, Except.map]

theorem result_readItems_argument (hLine : endsLine t = false)
    (hNext : ∀ sign ∈ ts.head?, t.kind = .word → sign.kind ≠ .equals) :
    (readItems args props (t :: ts)).result =
      readValue t >>= fun v => (readItems (v :: args) props ts).result := by
  rw [readItems.eq_def]
  cases ts with
  | nil =>
    simp only [hLine, Bool.false_eq_true, if_false]
    cases readValue t with
    | error e => rfl
    | ok v => simp [bind, Except.bind, readItems, Reading.result, Except.map]
  | cons sign ts =>
    have hNot : ¬ (t.kind = .word ∧ sign.kind = .equals) := fun h => hNext sign rfl h.1 h.2
    simp only [hLine, hNot, Bool.false_eq_true, if_false]
    cases readValue t with
    | error e => rfl
    | ok v =>
      cases h : readItems (v :: args) props (sign :: ts) <;>
        simp [bind, Except.bind, h, Reading.result, Except.map]

end Items

/-- The fronts that the reader of items tells apart. -/
inductive ItemsFront : List Token → Prop
  | ends {ts : List Token} (h : EndsItems ts) : ItemsFront ts
  | dangling {t sign : Token} (hKey : t.kind = .word) (hSign : sign.kind = .equals) :
    ItemsFront [t, sign]
  | property {t sign value : Token} {ts : List Token} (hKey : t.kind = .word)
      (hSign : sign.kind = .equals) :
    ItemsFront (t :: sign :: value :: ts)
  | argument {t : Token} {ts : List Token} (hLine : endsLine t = false)
      (hNext : ∀ sign ∈ ts.head?, t.kind = .word → sign.kind ≠ .equals) :
    ItemsFront (t :: ts)

theorem itemsFront (ts : List Token) : ItemsFront ts := by
  match ts with
  | [] => exact .ends nofun
  | t :: ts =>
    cases hLine : endsLine t with
    | true => exact .ends fun _ h => Option.some.inj h ▸ hLine
    | false =>
      by_cases hNext : ∀ sign ∈ ts.head?, t.kind = .word → sign.kind ≠ .equals
      · exact .argument hLine hNext
      · push Not at hNext
        obtain ⟨sign, hHead, hKey, hSign⟩ := hNext
        match ts with
        | [] => cases hHead
        | [_] => exact .dangling hKey (Option.some.inj hHead ▸ hSign)
        | _ :: _ :: _ => exact .property hKey (Option.some.inj hHead ▸ hSign)

section Nodes

variable {inBlock : Bool} {reader : (t : Token) → (ts : List Token) → Reading Node ts}
  {t b : Token} {ts rest : List Token} {depth : Nat} {args : List Value} {props : Attrs}

theorem result_readNodes_nil :
    (readNodes inBlock reader []).result =
      if inBlock then .error (.grammar .unexpectedEnd none) else .ok ([], []) := by
  rw [readNodes]
  cases inBlock <;> rfl

theorem result_readNodes_newline (h : t.kind = .newline) :
    (readNodes inBlock reader (t :: ts)).result = (readNodes inBlock reader ts).result := by
  rw [readNodes, if_pos h]
  cases readNodes inBlock reader ts <;> rfl

theorem result_readNodes_closing (h : t.kind = .closing) :
    (readNodes inBlock reader (t :: ts)).result =
      if inBlock then .ok ([], ts) else .error (.grammar .unexpectedClosing (some t)) := by
  rw [readNodes, if_neg (by simp [h]), if_pos h]
  cases inBlock <;> rfl

theorem result_readNodes_node (hNewline : t.kind ≠ .newline) (hClosing : t.kind ≠ .closing) :
    (readNodes inBlock reader (t :: ts)).result =
      (reader t ts).result >>= fun first =>
        (readNodes inBlock reader first.2).result >>= fun others =>
          .ok (first.1 :: others.1, others.2) := by
  rw [readNodes, if_neg hNewline, if_neg hClosing]
  cases reader t ts with
  | error e => rfl
  | ok first =>
    obtain ⟨node, rest, h⟩ := first
    cases hRead : readNodes inBlock reader rest <;>
      simp [bind, Except.bind, Reading.result, Except.map, hRead]

theorem result_readNode_of_not_word (h : t.kind ≠ .word) :
    (readNode depth t ts).result = .error (.grammar (.expectedWord (some t)) (some t)) := by
  rw [readNode.eq_def, if_pos h]
  rfl

/-- Reads what follows the items of a node. -/
def readBody (depth : Nat) (t : Token) (items : (List Value × Attrs) × List Token) :
    Except TreeError (Node × List Token) :=
  match items.2 with
  | [] => .ok (⟨t.value, t.place, items.1.1, items.1.2, []⟩, [])
  | b :: block =>
    if b.kind = .opening then
      match depth with
      | 0 => .error (.grammar .nestedTooDeeply (some b))
      | depth + 1 =>
        (readNodes true (readNode depth) block).result >>= fun inner =>
          .ok (⟨t.value, t.place, items.1.1, items.1.2, inner.1⟩, inner.2)
    else .ok (⟨t.value, t.place, items.1.1, items.1.2, []⟩, b :: block)

theorem readBody_of_not_opening (h : ∀ b ∈ ts.head?, b.kind ≠ .opening) :
    readBody depth t ((args, props), ts) = .ok (⟨t.value, t.place, args, props, []⟩, ts) := by
  cases ts with
  | nil => rfl
  | cons b block => simp [readBody, h b rfl]

theorem readBody_zero (h : b.kind = .opening) :
    readBody 0 t ((args, props), b :: ts) = .error (.grammar .nestedTooDeeply (some b)) := by
  simp [readBody, h]

theorem readBody_succ (h : b.kind = .opening) :
    readBody (depth + 1) t ((args, props), b :: ts) =
      (readNodes true (readNode depth) ts).result >>= fun inner =>
        .ok (⟨t.value, t.place, args, props, inner.1⟩, inner.2) := by
  simp [readBody, h]

theorem result_readNode (h : t.kind = .word) :
    (readNode depth t ts).result =
      (readItems [] Table.empty ts).result >>= readBody depth t := by
  rw [readNode.eq_def, if_neg (by simp [h])]
  cases readItems [] Table.empty ts with
  | error e => rfl
  | ok read =>
    obtain ⟨⟨args, props⟩, rest, hRest⟩ := read
    match rest with
    | [] => rfl
    | b :: block =>
      by_cases hOpening : b.kind = .opening
      · match depth with
        | 0 => simp [bind, Except.bind, Reading.result, Except.map, readBody, hOpening]
        | depth + 1 =>
          cases hInner : readNodes true (readNode depth) block <;>
            simp [bind, Except.bind, Reading.result, Except.map, readBody, hOpening, hInner]
      · simp [bind, Except.bind, Reading.result, Except.map, readBody, hOpening]

theorem ofTokens_eq_map_result :
    ofTokens ts = (readNodes false (readNode nestingLimit) ts).result.map Prod.fst := by
  rw [ofTokens]
  cases readNodes false (readNode nestingLimit) ts <;> rfl

end Nodes

end Node

end Workflow.Source
