import Workflow.Proofs.Except
import Workflow.Routing.Parse

/-!
# The grammar of routing expressions

`Derives` is the grammar, with the number of negations and parentheses that may still be opened.
Conjunctions and alternatives grow at their right end, so they group to the left. The readers
accept exactly what the grammar derives.
-/

namespace Workflow.Routing

/-- The layers of the grammar, from the weakest binding to the strongest. -/
inductive Layer where
  | alternatives
  | conjunction
  | operand

/-- The kind of the token that spells a relation. -/
def Token.Kind.ofRelation : Relation → Token.Kind
  | .equal => .equal
  | .differ => .differ

def Token.IsLiteral (t : Token) : Prop :=
  t.kind = .string ∨ t.kind = .number ∨ (t.kind = .word ∧ (t.value = "true" ∨ t.value = "false"))

/-- The tokens of an argument: a string between parentheses. -/
inductive IsArgument : List Token → String → Prop
  | intro {opening text closing : Token} (hOpening : opening.kind = .opening)
      (hText : text.kind = .string) (hClosing : closing.kind = .closing) :
    IsArgument [opening, text, closing] text.value

theorem IsArgument.length_eq {argument : List Token} {name : String}
    (h : IsArgument argument name) : argument.length = 3 := by
  cases h
  rfl

/-- The operands that begin with a word. -/
inductive IsCall : List Token → Expr → Prop
  | literal {t : Token} (value : Bool) (hKind : t.kind = .word)
      (hValue : t.value = if value then "true" else "false") :
    IsCall [t] (.literal value)
  | present {t : Token} {argument : List Token} {path : String} (hKind : t.kind = .word)
      (hValue : t.value = "exists") (hArgument : IsArgument argument path) :
    IsCall (t :: argument) (.present path)
  | compare {t sign word : Token} {argument : List Token} {name : String} {subject : Subject}
      {relation : Relation} (hKind : t.kind = .word) (hValue : t.value = subject.word)
      (hArgument : IsArgument argument name) (hSign : sign.kind = .ofRelation relation)
      (hWord : word.IsLiteral) :
    IsCall (t :: (argument ++ [sign, word])) (.compare subject name relation word.value)

theorem IsCall.exists_cons {phrase : List Token} {e : Expr} (h : IsCall phrase e) :
    ∃ t more, phrase = t :: more ∧ t.kind = .word := by
  cases h with
  | literal value hKind hValue => exact ⟨_, _, rfl, hKind⟩
  | present hKind hValue hArgument => exact ⟨_, _, rfl, hKind⟩
  | compare hKind hValue hArgument hSign hWord => exact ⟨_, _, rfl, hKind⟩

inductive Derives : Nat → Layer → List Token → Expr → Prop
  | call {depth : Nat} {ts : List Token} {e : Expr} (h : IsCall ts e) :
    Derives depth .operand ts e
  | not {depth : Nat} {t : Token} {ts : List Token} {e : Expr} (hKind : t.kind = .not)
      (h : Derives depth .operand ts e) :
    Derives (depth + 1) .operand (t :: ts) (.not e)
  | group {depth : Nat} {opening closing : Token} {ts : List Token} {e : Expr}
      (hOpening : opening.kind = .opening) (h : Derives depth .alternatives ts e)
      (hClosing : closing.kind = .closing) :
    Derives (depth + 1) .operand (opening :: (ts ++ [closing])) e
  | one {depth : Nat} {ts : List Token} {e : Expr} (h : Derives depth .operand ts e) :
    Derives depth .conjunction ts e
  | and {depth : Nat} {t : Token} {ls rs : List Token} {left right : Expr}
      (hLeft : Derives depth .conjunction ls left) (hKind : t.kind = .and)
      (hRight : Derives depth .operand rs right) :
    Derives depth .conjunction (ls ++ t :: rs) (.and left right)
  | only {depth : Nat} {ts : List Token} {e : Expr} (h : Derives depth .conjunction ts e) :
    Derives depth .alternatives ts e
  | or {depth : Nat} {t : Token} {ls rs : List Token} {left right : Expr}
      (hLeft : Derives depth .alternatives ls left) (hKind : t.kind = .or)
      (hRight : Derives depth .conjunction rs right) :
    Derives depth .alternatives (ls ++ t :: rs) (.or left right)

/-- A reader gives a value and leaves a rest. -/
def Reads {α : Type} {p : List Token → Prop} (reading : Except Fault (α × { rest // p rest }))
    (a : α) (rest : List Token) : Prop :=
  ∃ h, reading = .ok (a, ⟨rest, h⟩)

section Readers

variable {α β : Type} {p q : List Token → Prop} {ts rest : List Token}

theorem reads_ok_iff {a b : α} {more : List Token} {h : p more} :
    Reads (.ok (a, ⟨more, h⟩)) b rest ↔ a = b ∧ more = rest := by
  constructor
  · rintro ⟨_, hEq⟩
    cases hEq
    exact ⟨rfl, rfl⟩
  · rintro ⟨rfl, rfl⟩
    exact ⟨h, rfl⟩

theorem not_reads_misplaced {expected : Expectation} {a : α} :
    ¬ Reads (p := p) (misplaced expected ts) a rest := by
  rintro ⟨_, h⟩
  cases h

theorem reads_bind_iff {reading : Except Fault (α × { rest // p rest })}
    {next : α × { rest // p rest } → Except Fault (β × { rest // q rest })} {b : β} :
    Reads (reading >>= next) b rest ↔
      ∃ a more, ∃ h : p more, Reads reading a more ∧ Reads (next (a, ⟨more, h⟩)) b rest := by
  constructor
  · rintro ⟨h, hEq⟩
    obtain ⟨⟨a, more, hMore⟩, hReading, hNext⟩ := Except.bind_eq_ok_iff.mp hEq
    exact ⟨a, more, hMore, ⟨hMore, hReading⟩, h, hNext⟩
  · rintro ⟨a, more, hMore, ⟨_, hReading⟩, h, hNext⟩
    exact ⟨h, Except.bind_eq_ok_iff.mpr ⟨_, hReading, hNext⟩⟩

theorem reads_check_iff {check : Except Fault Unit} {reading : Except Fault (α × { rest // p rest })}
    {a : α} :
    Reads (check >>= fun _ => reading) a rest ↔ check = .ok () ∧ Reads reading a rest := by
  cases check with
  | error fault => simp [Reads, bind, Except.bind]
  | ok _ => simp [bind, Except.bind]

theorem reads_map_iff {reading : Except Fault (α × { rest // p rest })}
    {longer : ∀ read : α × { rest // p rest }, q read.2.val} {a : α} :
    Reads (reading.map fun read => (read.1, ⟨read.2.val, longer read⟩)) a rest ↔
      Reads reading a rest := by
  constructor
  · rintro ⟨_, hEq⟩
    obtain ⟨⟨_, _, h⟩, hReading, hPair⟩ := Except.map_eq_ok_iff.mp hEq
    cases hPair
    exact ⟨h, hReading⟩
  · rintro ⟨h, rfl⟩
    exact ⟨longer (a, ⟨rest, h⟩), rfl⟩

theorem reads_expect_iff {kind : Token.Kind} {expected : Expectation} {t : Token} :
    Reads (expect kind expected ts) t rest ↔ ts = t :: rest ∧ t.kind = kind := by
  cases ts with
  | nil => simp [expect, not_reads_misplaced]
  | cons first ts =>
    rw [expect]
    split
    · rename_i hKind
      rw [reads_ok_iff, List.cons.injEq]
      exact ⟨fun h => ⟨h, h.1 ▸ hKind⟩, fun h => h.1⟩
    · rename_i hKind
      refine iff_of_false not_reads_misplaced ?_
      rintro ⟨hCons, hEq⟩
      exact hKind ((List.cons.inj hCons).1 ▸ hEq)

theorem reads_argument_iff {name : String} :
    Reads (readArgument ts) name rest ↔
      ∃ argument, IsArgument argument name ∧ ts = argument ++ rest := by
  simp only [readArgument, reads_bind_iff, reads_expect_iff, reads_ok_iff]
  constructor
  · rintro ⟨opening, _, -, ⟨rfl, hOpening⟩, text, _, -, ⟨rfl, hText⟩, closing, _, -,
      ⟨rfl, hClosing⟩, rfl, rfl⟩
    exact ⟨[opening, text, closing], .intro hOpening hText hClosing, rfl⟩
  · rintro ⟨_, @⟨opening, text, closing, hOpening, hText, hClosing⟩, rfl⟩
    exact ⟨opening, _, by simp, ⟨rfl, hOpening⟩, text, _, by simp, ⟨rfl, hText⟩, closing, rest,
      by simp, ⟨rfl, hClosing⟩, rfl, rfl⟩

theorem reads_relation_iff {subject : Subject} {relation : Relation} :
    Reads (readRelation subject ts) relation rest ↔
      ∃ sign, ts = sign :: rest ∧ sign.kind = .ofRelation relation := by
  cases ts with
  | nil => simp [readRelation, not_reads_misplaced]
  | cons sign ts =>
    simp only [readRelation, List.cons.injEq]
    cases relation <;> cases hKind : sign.kind <;>
      simp [hKind, not_reads_misplaced, reads_ok_iff, Token.Kind.ofRelation]

theorem reads_literalValue_iff {value : String} :
    Reads (readLiteralValue ts) value rest ↔
      ∃ word, ts = word :: rest ∧ word.IsLiteral ∧ word.value = value := by
  cases ts with
  | nil => simp [readLiteralValue, not_reads_misplaced]
  | cons word ts =>
    simp only [readLiteralValue, List.cons.injEq]
    split
    · rename_i hLiteral
      simp only [reads_ok_iff, and_assoc, exists_eq_left', Token.IsLiteral, hLiteral, true_and]
      exact and_comm
    · rename_i hLiteral
      simp [not_reads_misplaced, Token.IsLiteral, hLiteral]

theorem reads_comparison_iff {subject : Subject} {e : Expr} :
    Reads (readComparison subject ts) e rest ↔
      ∃ argument name sign relation word, ts = argument ++ [sign, word] ++ rest ∧
        IsArgument argument name ∧ sign.kind = .ofRelation relation ∧ word.IsLiteral ∧
        e = .compare subject name relation word.value := by
  simp only [readComparison, reads_bind_iff, reads_argument_iff, reads_relation_iff,
    reads_literalValue_iff, reads_ok_iff]
  constructor
  · rintro ⟨name, _, -, ⟨argument, hArgument, rfl⟩, relation, _, -, ⟨sign, rfl, hSign⟩, _, _, -,
      ⟨word, rfl, hWord, rfl⟩, rfl, rfl⟩
    exact ⟨argument, name, sign, relation, word, by simp, hArgument, hSign, hWord, rfl⟩
  · rintro ⟨argument, name, sign, relation, word, rfl, hArgument, hSign, hWord, rfl⟩
    exact ⟨name, sign :: word :: rest, by simp [hArgument.length_eq], ⟨argument, hArgument, by simp⟩,
      relation, word :: rest, by simp, ⟨sign, rfl, hSign⟩, word.value, rest, by simp,
      ⟨word, rfl, hWord, rfl⟩, rfl, rfl⟩

theorem refuseRelation_eq_ok_iff :
    refuseRelation ts = .ok () ↔
      ∀ t ∈ ts.head?, t.kind ≠ .assign ∧ t.kind ≠ .equal ∧ t.kind ≠ .differ := by
  cases ts with
  | nil => simp [refuseRelation]
  | cons t ts => cases hKind : t.kind <;> simp [refuseRelation, hKind, misplaced]

theorem reads_presence_iff {e : Expr} :
    Reads (readPresence ts) e rest ↔
      ∃ argument path, ts = argument ++ rest ∧ IsArgument argument path ∧
        (∀ t ∈ rest.head?, t.kind ≠ .assign ∧ t.kind ≠ .equal ∧ t.kind ≠ .differ) ∧
        e = .present path := by
  simp only [readPresence, reads_bind_iff, reads_check_iff, reads_argument_iff,
    refuseRelation_eq_ok_iff, reads_ok_iff]
  constructor
  · rintro ⟨path, _, -, ⟨argument, hArgument, rfl⟩, hRest, rfl, rfl⟩
    exact ⟨argument, path, rfl, hArgument, hRest, rfl⟩
  · rintro ⟨argument, path, rfl, hArgument, hRest, rfl⟩
    exact ⟨path, rest, by simp [hArgument.length_eq], ⟨argument, hArgument, rfl⟩, hRest,
      rfl, rfl⟩

/-- What may follow an operand. -/
def Ends (rest : List Token) : Prop :=
  ∀ t ∈ rest.head?, t.kind = .and ∨ t.kind = .or ∨ t.kind = .closing

theorem isCall_of_reads_comparison (subject : Subject) {t : Token} {e : Expr}
    (hKind : t.kind = .word) (hValue : t.value = subject.word)
    (h : Reads (readComparison subject ts) e rest) :
    ∃ phrase, IsCall phrase e ∧ t :: ts = phrase ++ rest := by
  obtain ⟨argument, name, sign, relation, word, rfl, hArgument, hSign, hWord, rfl⟩ :=
    reads_comparison_iff.mp h
  exact ⟨_, .compare hKind hValue hArgument hSign hWord, by simp⟩

theorem isCall_of_reads_word {t : Token} {e : Expr} (hKind : t.kind = .word)
    (h : Reads (readWord t ts) e rest) : ∃ phrase, IsCall phrase e ∧ t :: ts = phrase ++ rest := by
  unfold readWord at h
  simp only at h
  split at h
  · rename_i hValue
    obtain ⟨rfl, rfl⟩ := reads_ok_iff.mp h
    exact ⟨[t], .literal true hKind hValue, rfl⟩
  split at h
  · rename_i hValue
    obtain ⟨rfl, rfl⟩ := reads_ok_iff.mp h
    exact ⟨[t], .literal false hKind hValue, rfl⟩
  split at h
  · rename_i hValue
    exact isCall_of_reads_comparison .outcome hKind hValue (reads_map_iff.mp h)
  split at h
  · rename_i hValue
    exact isCall_of_reads_comparison .output hKind hValue (reads_map_iff.mp h)
  split at h
  · rename_i hValue
    obtain ⟨argument, path, rfl, hArgument, -, rfl⟩ :=
      reads_presence_iff.mp (reads_map_iff.mp h)
    exact ⟨_, .present hKind hValue hArgument, by simp⟩
  · exact absurd h not_reads_misplaced

theorem reads_word_of_isCall {t : Token} {more : List Token} {e : Expr} (h : IsCall (t :: more) e)
    (hRest : Ends rest) : Reads (readWord t (more ++ rest)) e rest := by
  cases h with
  | literal value hKind hValue =>
    cases value <;> simp [readWord, hValue, reads_ok_iff]
  | @present _ _ path hKind hValue hArgument =>
    have hReads : Reads (readPresence (more ++ rest)) (.present path) rest := by
      refine reads_presence_iff.mpr ⟨more, path, rfl, hArgument, fun t ht => ?_, rfl⟩
      obtain h | h | h := hRest t ht <;> simp [h]
    simpa [readWord, hValue] using reads_map_iff.mpr hReads
  | @compare _ sign word argument name subject relation hKind hValue hArgument hSign hWord =>
    have hReads : Reads (readComparison subject (argument ++ [sign, word] ++ rest))
        (.compare subject name relation word.value) rest :=
      reads_comparison_iff.mpr
        ⟨argument, name, sign, relation, word, rfl, hArgument, hSign, hWord, rfl⟩
    cases subject <;>
      simpa [readWord, hValue, Subject.word] using reads_map_iff.mpr hReads

section Chains

variable {kind : Token.Kind} {join : Expr → Expr → Expr}
  {operand : (ts : List Token) → Reading Expr ts} {first all : Expr}

theorem reads_chain_iff :
    Reads (chain kind join operand first ts) all rest ↔
      (first = all ∧ ts = rest ∧ ∀ t ∈ ts.head?, t.kind ≠ kind) ∨
      ∃ t more second after, ts = t :: more ∧ t.kind = kind ∧ Reads (operand more) second after ∧
        Reads (chain kind join operand (join first second) after) all rest := by
  cases ts with
  | nil =>
    rw [chain, reads_ok_iff]
    simp
  | cons t ts =>
    rw [chain]
    split
    · rename_i hKind
      simp only [reads_bind_iff, reads_ok_iff]
      constructor
      · rintro ⟨second, after, -, hSecond, _, _, -, hAll, rfl, rfl⟩
        exact Or.inr ⟨t, ts, second, after, rfl, hKind, hSecond, hAll⟩
      · rintro (⟨-, -, hOther⟩ | ⟨_, _, second, after, hCons, -, hSecond, hAll⟩)
        · exact absurd hKind (hOther t rfl)
        · cases hCons
          exact ⟨second, after, hSecond.choose, hSecond, all, rest, hAll.choose, hAll, rfl, rfl⟩
    · rename_i hKind
      rw [reads_ok_iff]
      simp [hKind]

theorem reads_chain_self (hRest : ∀ t ∈ rest.head?, t.kind ≠ kind) :
    Reads (chain kind join operand first rest) first rest :=
  reads_chain_iff.mpr (Or.inl ⟨rfl, rfl, hRest⟩)

theorem reads_joined_iff :
    Reads (joined kind join operand ts) all rest ↔
      ∃ first more, Reads (operand ts) first more ∧
        Reads (chain kind join operand first more) all rest := by
  simp only [joined, reads_bind_iff, reads_ok_iff]
  constructor
  · rintro ⟨first, more, -, hFirst, _, _, -, hAll, rfl, rfl⟩
    exact ⟨first, more, hFirst, hAll⟩
  · rintro ⟨first, more, hFirst, hAll⟩
    exact ⟨first, more, hFirst.choose, hFirst, all, rest, hAll.choose, hAll, rfl, rfl⟩

end Chains

theorem reads_operand_cons_iff {depth : Nat} {t : Token} {e : Expr} :
    Reads (readOperand depth (t :: ts)) e rest ↔
      (t.kind = .not ∧ ∃ deep operand, depth = deep + 1 ∧
        Reads (readOperand deep ts) operand rest ∧ e = .not operand) ∨
      (t.kind = .opening ∧ ∃ deep closing, depth = deep + 1 ∧
        Reads (alternatives (readOperand deep) ts) e (closing :: rest) ∧ closing.kind = .closing) ∨
      (t.kind = .word ∧ Reads (readWord t ts) e rest) := by
  rw [readOperand.eq_def]
  simp only
  split
  · rename_i hKind
    cases depth with
    | zero => simp [hKind, not_reads_misplaced]
    | succ deep =>
      simp only [reads_bind_iff, reads_ok_iff, hKind, true_and, reduceCtorEq, false_and, or_false,
        Nat.add_right_cancel_iff]
      constructor
      · rintro ⟨operand, _, -, hOperand, rfl, rfl⟩
        exact ⟨deep, operand, rfl, hOperand, rfl⟩
      · rintro ⟨_, operand, rfl, hOperand, rfl⟩
        exact ⟨operand, rest, hOperand.choose, hOperand, rfl, rfl⟩
  split
  · rename_i hKind
    cases depth with
    | zero => simp [hKind, not_reads_misplaced]
    | succ deep =>
      simp only [reads_bind_iff, reads_expect_iff, reads_ok_iff, hKind, true_and, reduceCtorEq,
        false_and, or_false, false_or, Nat.add_right_cancel_iff]
      constructor
      · rintro ⟨_, _, -, hInner, closing, _, -, ⟨rfl, hClosing⟩, rfl, rfl⟩
        exact ⟨deep, closing, rfl, hInner, hClosing⟩
      · rintro ⟨_, closing, rfl, hInner, hClosing⟩
        exact ⟨e, _, hInner.choose, hInner, closing, rest, by simp, ⟨rfl, hClosing⟩, rfl, rfl⟩
  split
  · rename_i hKind
    simp [hKind]
  · rename_i hNot hOpening hWord
    simp [hNot, hOpening, hWord, not_reads_misplaced]

theorem not_reads_operand_nil {depth : Nat} {e : Expr} : ¬ Reads (readOperand depth []) e rest := by
  rw [readOperand.eq_def]
  exact not_reads_misplaced

end Readers

section Soundness

variable {kind : Token.Kind} {join : Expr → Expr → Expr}
  {operand : (ts : List Token) → Reading Expr ts} {whole part : List Token → Expr → Prop}
  {ts rest : List Token} {e : Expr}

/-- A chain is derived if one operand is and if every further one may be joined to it. -/
theorem derives_of_reads_chain
    (hGrow : ∀ {ls rs t left right}, whole ls left → t.kind = kind → part rs right →
      whole (ls ++ t :: rs) (join left right))
    (hPart : ∀ {ts e rest}, Reads (operand ts) e rest → ∃ phrase, part phrase e ∧ ts = phrase ++ rest)
    {front : List Token} {first : Expr} (hFirst : whole front first)
    (h : Reads (chain kind join operand first ts) e rest) :
    ∃ phrase, whole (front ++ phrase) e ∧ ts = phrase ++ rest := by
  induction ts using (measure List.length).wf.induction generalizing front first with
  | h ts ih =>
    obtain ⟨rfl, rfl, -⟩ | ⟨t, more, second, after, rfl, hKind, hSecond, hAll⟩ := reads_chain_iff.mp h
    · exact ⟨[], by rwa [List.append_nil], rfl⟩
    · obtain ⟨phrase, hPhrase, rfl⟩ := hPart hSecond
      have hShorter : after.length < (t :: (phrase ++ after)).length := by
        rw [List.length_cons, List.length_append]
        omega
      obtain ⟨others, hOthers, rfl⟩ := ih after hShorter (hGrow hFirst hKind hPhrase) hAll
      exact ⟨t :: phrase ++ others, by simpa using hOthers, by simp⟩

theorem derives_of_reads_joined (hOne : ∀ {ts e}, part ts e → whole ts e)
    (hGrow : ∀ {ls rs t left right}, whole ls left → t.kind = kind → part rs right →
      whole (ls ++ t :: rs) (join left right))
    (hPart : ∀ {ts e rest}, Reads (operand ts) e rest → ∃ phrase, part phrase e ∧ ts = phrase ++ rest)
    (h : Reads (joined kind join operand ts) e rest) :
    ∃ phrase, whole phrase e ∧ ts = phrase ++ rest := by
  obtain ⟨first, more, hFirst, hAll⟩ := reads_joined_iff.mp h
  obtain ⟨front, hFront, rfl⟩ := hPart hFirst
  obtain ⟨phrase, hPhrase, rfl⟩ := derives_of_reads_chain hGrow hPart (hOne hFront) hAll
  exact ⟨front ++ phrase, hPhrase, by simp⟩

theorem derives_of_reads_alternatives {depth : Nat}
    (hOperand : ∀ {ts e rest}, Reads (readOperand depth ts) e rest →
      ∃ phrase, Derives depth .operand phrase e ∧ ts = phrase ++ rest)
    (h : Reads (alternatives (readOperand depth) ts) e rest) :
    ∃ phrase, Derives depth .alternatives phrase e ∧ ts = phrase ++ rest :=
  derives_of_reads_joined .only .or (derives_of_reads_joined .one .and hOperand) h

theorem derives_of_reads_operand {depth : Nat} (h : Reads (readOperand depth ts) e rest) :
    ∃ phrase, Derives depth .operand phrase e ∧ ts = phrase ++ rest := by
  induction depth generalizing ts e rest with
  | zero =>
    cases ts with
    | nil => exact absurd h not_reads_operand_nil
    | cons t ts =>
      obtain ⟨-, _, _, hDepth, -⟩ | ⟨-, _, _, hDepth, -⟩ | ⟨hKind, hWord⟩ :=
        reads_operand_cons_iff.mp h
      · cases hDepth
      · cases hDepth
      · obtain ⟨phrase, hCall, hTokens⟩ := isCall_of_reads_word hKind hWord
        exact ⟨phrase, .call hCall, hTokens⟩
  | succ depth ih =>
    cases ts with
    | nil => exact absurd h not_reads_operand_nil
    | cons t ts =>
      obtain ⟨hKind, _, operand, hDepth, hOperand, rfl⟩ | ⟨hKind, _, closing, hDepth, hInner, hClosing⟩ |
        ⟨hKind, hWord⟩ := reads_operand_cons_iff.mp h
      · cases hDepth
        obtain ⟨phrase, hPhrase, rfl⟩ := ih hOperand
        exact ⟨t :: phrase, .not hKind hPhrase, rfl⟩
      · cases hDepth
        obtain ⟨phrase, hPhrase, rfl⟩ := derives_of_reads_alternatives ih hInner
        exact ⟨_, .group hKind hPhrase hClosing, by simp⟩
      · obtain ⟨phrase, hCall, hTokens⟩ := isCall_of_reads_word hKind hWord
        exact ⟨phrase, .call hCall, hTokens⟩

end Soundness

/-- How the readers take a phrase, whatever may follow it. -/
def Accepts (depth : Nat) (layer : Layer) (phrase : List Token) (e : Expr) : Prop :=
  match layer with
  | .operand => ∀ {rest}, Ends rest → Reads (readOperand depth (phrase ++ rest)) e rest
  | .conjunction => ∀ {rest all out}, Ends rest →
    Reads (chain .and .and (readOperand depth) e rest) all out →
    Reads (joined .and .and (readOperand depth) (phrase ++ rest)) all out
  | .alternatives => ∀ {rest all out}, Ends rest → (∀ t ∈ rest.head?, t.kind ≠ .and) →
    Reads (chain .or .or (joined .and .and (readOperand depth)) e rest) all out →
    Reads (alternatives (readOperand depth) (phrase ++ rest)) all out

theorem Derives.accepts {depth : Nat} {layer : Layer} {phrase : List Token} {e : Expr}
    (h : Derives depth layer phrase e) : Accepts depth layer phrase e := by
  induction h with
  | @call depth ts e h =>
    intro rest hRest
    obtain ⟨t, more, rfl, hKind⟩ := h.exists_cons
    exact reads_operand_cons_iff.mpr (Or.inr (Or.inr ⟨hKind, reads_word_of_isCall h hRest⟩))
  | @not depth t ts e hKind h ih =>
    intro rest hRest
    exact reads_operand_cons_iff.mpr (Or.inl ⟨hKind, depth, e, rfl, ih hRest, rfl⟩)
  | @group depth opening closing ts e hOpening h hClosing ih =>
    intro rest hRest
    have hEnd : Ends (closing :: rest) := fun t ht =>
      Or.inr (Or.inr (Option.some.inj ht ▸ hClosing))
    have hInner := ih hEnd (by simp [hClosing]) (reads_chain_self (by simp [hClosing]))
    rw [List.cons_append, List.append_assoc]
    exact reads_operand_cons_iff.mpr
      (Or.inr (Or.inl ⟨hOpening, depth, closing, rfl, hInner, hClosing⟩))
  | one h ih =>
    intro rest all out hRest hAll
    exact reads_joined_iff.mpr ⟨_, rest, ih hRest, hAll⟩
  | @and depth t ls rs left right hLeft hKind hRight ihLeft ihRight =>
    intro rest all out hRest hAll
    rw [List.append_assoc, List.cons_append]
    refine ihLeft (fun _ ht => Or.inl (Option.some.inj ht ▸ hKind)) (reads_chain_iff.mpr (Or.inr ?_))
    exact ⟨t, _, right, rest, rfl, hKind, ihRight hRest, hAll⟩
  | only h ih =>
    intro rest all out hRest hAnd hAll
    exact reads_joined_iff.mpr ⟨_, rest, ih hRest (reads_chain_self hAnd), hAll⟩
  | @or depth t ls rs left right hLeft hKind hRight ihLeft ihRight =>
    intro rest all out hRest hAnd hAll
    rw [List.append_assoc, List.cons_append]
    refine ihLeft (fun _ ht => Or.inr (Or.inl (Option.some.inj ht ▸ hKind))) (by simp [hKind])
      (reads_chain_iff.mpr (Or.inr ?_))
    exact ⟨t, _, right, rest, rfl, hKind, ihRight hRest (reads_chain_self hAnd), hAll⟩

/-- The readers accept exactly what the grammar derives. -/
theorem Expr.ofTokens_eq_ok_iff {ts : List Token} {e : Expr} :
    Expr.ofTokens ts = .ok e ↔
      ts.countP Token.joins < operandLimit ∧ Derives nestingLimit .alternatives ts e := by
  unfold Expr.ofTokens
  split
  · rename_i hMany
    simp only [reduceCtorEq, false_iff]
    omega
  · rename_i hFew
    rw [and_iff_right (Nat.lt_of_not_le hFew), Except.bind_eq_ok_iff]
    constructor
    · rintro ⟨⟨read, rest, hRest⟩, hReading, hEnd⟩
      obtain ⟨phrase, hPhrase, rfl⟩ := derives_of_reads_alternatives derives_of_reads_operand
        ⟨hRest, hReading⟩
      cases rest with
      | nil =>
        cases hEnd
        rwa [List.append_nil]
      | cons t rest => cases hEnd
    · intro h
      have hRest : Ends [] := fun t ht => by cases ht
      have hReads := h.accepts hRest (by simp) (reads_chain_self (by simp))
      rw [List.append_nil] at hReads
      obtain ⟨hShort, hReading⟩ := hReads
      exact ⟨_, hReading, rfl⟩

end Workflow.Routing
