import Mathlib.Data.List.TakeDrop
import Mathlib.Data.List.TakeWhile
import Workflow.Proofs.Except
import Workflow.Proofs.Number.Numeral
import Workflow.Source.Token

/-!
# How tokens are spelled

Which texts the scanner takes for a word, a number, a string or a sign, whatever stands behind them,
and what its words and numbers look like. A text spells tokens if scanning it gives them and goes on
behind it; spellings one behind the other spell their tokens one behind the other.
-/

namespace Workflow.Source.Token

open Workflow.Text

def isWordStart (c : Char) : Bool :=
  !isDigit c && (isLetter c || c == '_')

/-- A text that is a word where nothing of a word follows. -/
def IsWord (text : String) : Prop :=
  match text.toList with
  | [] => False
  | c :: cs =>
    isWordStart c = true ∧ cs.all isWordRest = true ∧ text ≠ "true" ∧ text ≠ "false"

instance (text : String) : Decidable (IsWord text) := by
  unfold IsWord
  split <;> infer_instance

/-- The characters that begin something else than a word or a number. -/
def signs : List Char :=
  ['/', ' ', '\t', '\r', '\n', ';', '\x7b', '\x7d', '=', '"']

section Fronts

variable {c : Char} {cs rest : List Char}

theorem front_of_notMem_signs (h : c ∉ signs) :
    front c cs =
      if isDigit c || c == '-' then frontNumber c cs
      else if isLetter c || c == '_' then frontWord c cs
      else .fault (.unexpectedChar c) := by
  simp only [signs, List.mem_cons, List.not_mem_nil, or_false, not_or] at h
  obtain ⟨hSlash, hSpace, hTab, hReturn, hFeed, hSemicolon, hOpening, hClosing, hEquals, hQuote⟩ := h
  unfold front
  split
  · exact absurd rfl hSlash
  · exact absurd rfl hSlash
  · simp [hSpace, hTab, hReturn, hFeed, hSemicolon, hOpening, hClosing, hEquals, hQuote]

theorem notMem_signs_of_isWordStart (h : isWordStart c = true) : c ∉ signs := by
  have hSigns : (signs.all fun d => !isWordStart d) = true := by decide +kernel
  intro hMem
  have hNot := List.all_eq_true.mp hSigns c hMem
  rw [h] at hNot
  cases hNot

theorem front_of_isWordStart (h : isWordStart c = true) : front c cs = frontWord c cs := by
  rw [front_of_notMem_signs (notMem_signs_of_isWordStart h)]
  simp only [isWordStart, Bool.and_eq_true, Bool.not_eq_true'] at h
  have hMinus : c ≠ '-' := by
    rintro rfl
    exact absurd h.2 (by decide)
  simp [h.1, h.2, hMinus]

theorem front_of_isDigit (h : c.isDigit = true ∨ c = '-') : front c cs = frontNumber c cs := by
  have hSigns : c ∉ signs := by
    have hSigns : (signs.all fun d => !(d.isDigit || d == '-')) = true := by decide +kernel
    intro hMem
    have hNot := List.all_eq_true.mp hSigns c hMem
    obtain hDigit | rfl := h
    · rw [hDigit] at hNot
      cases hNot
    · cases hNot
  rw [front_of_notMem_signs hSigns]
  obtain hDigit | rfl := h
  · simp [isDigit_of_ascii hDigit]
  · simp

theorem takeWhile_append_of_head {p : Char → Bool} (h : ∀ c ∈ cs, p c = true)
    (hRest : ∀ c ∈ rest.head?, p c = false) : (cs ++ rest).takeWhile p = cs := by
  rw [List.takeWhile_append_of_pos h]
  cases rest with
  | nil => simp
  | cons c rest => simp [hRest c rfl]

end Fronts

structure IsLexical (t : Token) : Prop where
  word : t.kind = .word → IsWord t.value
  digits : t.kind = .number → '.' ∉ t.value.toList →
    ∀ c ∈ (Number.splitSign t.value.toList).2, c.isDigit = true

section Lexical

variable {c : Char} {cs : List Char} {kind : Kind} {value : List Char} {more : Nat} {place : Place}

theorem isDecimalText_of_digits (hSome : cs ≠ []) (h : ∀ c ∈ cs, c.isDigit = true) :
    isDecimalText cs = true := by
  have hTake : cs.takeWhile Char.isDigit = cs := List.takeWhile_eq_self_iff.mpr h
  have hDrop : cs.dropWhile Char.isDigit = [] := List.dropWhile_eq_nil_iff.mpr h
  simp [isDecimalText, List.span_eq_takeWhile_dropWhile, hTake, hDrop, hSome]

theorem digits_of_isDecimalText (h : isDecimalText cs = true) (hPoint : '.' ∉ cs) :
    ∀ c ∈ cs, c.isDigit = true := by
  rw [isDecimalText, List.span_eq_takeWhile_dropWhile, Bool.and_eq_true] at h
  cases hRest : cs.dropWhile Char.isDigit with
  | nil => exact List.dropWhile_eq_nil_iff.mp hRest
  | cons c fraction =>
    have hMem : c ∈ cs := (List.dropWhile_sublist _).subset (hRest ▸ List.mem_cons_self)
    have hTail := h.2
    simp only [hRest, Bool.and_eq_true, beq_iff_eq] at hTail
    exact absurd (hTail.1.1 ▸ hMem) hPoint

theorem isLexical_of_frontWord (h : isWordStart c = true)
    (hFront : frontWord c cs = .token kind value more) :
    IsLexical ⟨kind, String.ofList value, place⟩ := by
  simp only [frontWord, Front.token.injEq] at hFront
  obtain ⟨rfl, rfl, -⟩ := hFront
  split
  · exact ⟨nofun, nofun⟩
  · rename_i hBoolean
    rw [not_or] at hBoolean
    refine ⟨fun _ => ?_, nofun⟩
    change IsWord (String.ofList (c :: cs.takeWhile isWordRest))
    rw [IsWord, String.toList_ofList]
    exact ⟨h, List.all_takeWhile, hBoolean.1, hBoolean.2⟩

theorem isLexical_of_frontNumber (hFront : frontNumber c cs = .token kind value more) :
    IsLexical ⟨kind, String.ofList value, place⟩ := by
  obtain ⟨digits, hDigits⟩ : ∃ digits, digits = if c == '-'
      then cs.takeWhile fun d => isDigit d || d == '.'
      else c :: cs.takeWhile fun d => isDigit d || d == '.' := ⟨_, rfl⟩
  simp only [frontNumber, ← hDigits] at hFront
  split at hFront
  · rename_i hDecimal
    simp only [Front.token.injEq] at hFront
    obtain ⟨rfl, rfl, -⟩ := hFront
    refine ⟨nofun, fun _ hPoint => ?_⟩
    simp only [String.toList_ofList] at hPoint ⊢
    by_cases hMinus : c = '-'
    · subst hMinus hDigits
      exact digits_of_isDecimalText hDecimal fun h => hPoint (List.mem_cons_of_mem _ h)
    · rw [if_neg (by simpa using hMinus)] at hDigits
      subst hDigits
      have hAll := digits_of_isDecimalText hDecimal hPoint
      rwa [Number.splitSign_of_digits hAll]
  · cases hFront

/-- Signs and strings are neither words nor numbers. -/
theorem kind_ne_of_mem_signs (h : c ∈ signs) (hFront : front c cs = .token kind value more) :
    kind ≠ .word ∧ kind ≠ .number := by
  have hSigns : (signs.all fun d => !(isDigit d || d == '-') && !(isLetter d || d == '_')) = true := by
    decide +kernel
  have hNeither := List.all_eq_true.mp hSigns c h
  simp only [Bool.and_eq_true, Bool.not_eq_true'] at hNeither
  obtain ⟨hDigit, hLetter⟩ := hNeither
  unfold front at hFront
  split at hFront
  · cases hFront
  · split at hFront <;> cases hFront
  · simp only [hDigit, hLetter, Bool.false_eq_true, if_false] at hFront
    repeat' split at hFront
    all_goals cases hFront
    all_goals decide

theorem isLexical_of_front (hFront : front c cs = .token kind value more) :
    IsLexical ⟨kind, String.ofList value, place⟩ := by
  by_cases hSigns : c ∈ signs
  · obtain ⟨hWord, hNumber⟩ := kind_ne_of_mem_signs hSigns hFront
    exact ⟨fun h => absurd h hWord, fun h => absurd h hNumber⟩
  · rw [front_of_notMem_signs hSigns] at hFront
    split at hFront
    · exact isLexical_of_frontNumber hFront
    · rename_i hDigit
      split at hFront
      · rename_i hStart
        refine isLexical_of_frontWord ?_ hFront
        simp only [Bool.or_eq_true, not_or, Bool.not_eq_true] at hDigit
        simp [isWordStart, hDigit.1, hStart]
      · cases hFront

theorem isLexical_of_scanFrom {skip : Nat} {ts : List Token} (h : scanFrom place skip cs = .ok ts) :
    ∀ t ∈ ts, t.IsLexical := by
  induction cs generalizing place skip ts with
  | nil =>
    cases skip <;>
    · cases h
      exact nofun
  | cons c cs ih =>
    cases skip with
    | succ skip => exact ih h
    | zero =>
      rw [scanFrom] at h
      cases hFront : front c cs with
      | gap more =>
        rw [hFront] at h
        exact ih h
      | token kind value more =>
        rw [hFront] at h
        obtain ⟨others, hOthers, h⟩ := Except.bind_eq_ok_iff.mp h
        cases h
        exact List.forall_mem_cons.mpr ⟨isLexical_of_front hFront, ih hOthers⟩
      | fault fault =>
        rw [hFront] at h
        cases h

theorem isLexical_of_scan {source : String} {ts : List Token} (h : scan source = .ok ts) :
    ∀ t ∈ ts, t.IsLexical :=
  isLexical_of_scanFrom h

end Lexical

/-- Scanning `cs` gives tokens with a property and goes on behind it, wherever it stands and
whatever stands behind it, so long as `Follow` holds of that. -/
def Spells (Follow : List Char → Prop) (cs : List Char) (IsSpelled : List Token → Prop) : Prop :=
  ∀ place rest, Follow rest → ∃ ts, IsSpelled ts ∧
    scanFrom place 0 (cs ++ rest) = (scanFrom (place.after cs) 0 rest).map (ts ++ ·)

/-- Behind a word or a number has to come a blank, an equals sign or the end. -/
def Delimited (rest : List Char) : Prop :=
  ∀ c ∈ rest.head?, c ∈ [' ', '\n', '=']

section Spellings

variable {Follow Follow' : List Char → Prop} {IsSpelled IsSpelled' P : List Token → Prop}
  {c : Char} {cs ds rest : List Char} {kind : Kind} {value : List Char}

theorem scanFrom_skip (place : Place) (cs rest : List Char) :
    scanFrom place cs.length (cs ++ rest) = scanFrom (place.after cs) 0 rest := by
  induction cs generalizing place with
  | nil => rfl
  | cons c cs ih => exact ih (place.next c)

theorem scanFrom_of_gap (h : front c (cs ++ rest) = .gap cs.length) (place : Place) :
    scanFrom place 0 (c :: (cs ++ rest)) = scanFrom (place.after (c :: cs)) 0 rest := by
  rw [scanFrom, h]
  exact scanFrom_skip (place.next c) cs rest

theorem scanFrom_of_token (h : front c (cs ++ rest) = .token kind value cs.length)
    (place : Place) : scanFrom place 0 (c :: (cs ++ rest)) =
      (scanFrom (place.after (c :: cs)) 0 rest).map (⟨kind, String.ofList value, place⟩ :: ·) := by
  rw [scanFrom, h]
  simp only [scanFrom_skip, Place.after_cons]
  cases scanFrom ((place.next c).after cs) 0 rest <;> rfl

theorem Spells.mono (h : Spells Follow cs IsSpelled) (hFollow : ∀ rest, Follow' rest → Follow rest)
    (hSpelled : ∀ ts, IsSpelled ts → IsSpelled' ts) : Spells Follow' cs IsSpelled' := by
  intro place rest hRest
  obtain ⟨ts, hTokens, hScan⟩ := h place rest (hFollow rest hRest)
  exact ⟨ts, hSpelled ts hTokens, hScan⟩

theorem Spells.append (h : Spells Follow cs IsSpelled) (h' : Spells Follow' ds IsSpelled')
    (hFollow : ∀ rest, Follow' rest → Follow (ds ++ rest))
    (hJoin : ∀ ts us, IsSpelled ts → IsSpelled' us → P (ts ++ us)) :
    Spells Follow' (cs ++ ds) P := by
  intro place rest hRest
  obtain ⟨ts, hTokens, hScan⟩ := h place (ds ++ rest) (hFollow rest hRest)
  obtain ⟨us, hTokens', hScan'⟩ := h' (place.after cs) rest hRest
  refine ⟨ts ++ us, hJoin ts us hTokens hTokens', ?_⟩
  rw [List.append_assoc, hScan, hScan', Place.after_append]
  cases scanFrom ((place.after cs).after ds) 0 rest <;> simp [Except.map]

theorem spells_nil : Spells Follow [] (· = []) := by
  intro place rest _
  refine ⟨[], rfl, ?_⟩
  cases h : scanFrom place 0 rest <;> simp [Except.map, h]

theorem spells_of_gap (h : ∀ rest, Follow rest → front c (cs ++ rest) = .gap cs.length) :
    Spells Follow (c :: cs) (· = []) := by
  intro place rest hRest
  refine ⟨[], rfl, ?_⟩
  rw [List.cons_append, scanFrom_of_gap (h rest hRest)]
  cases scanFrom (place.after (c :: cs)) 0 rest <;> simp [Except.map]

theorem spells_of_token
    (h : ∀ rest, Follow rest → front c (cs ++ rest) = .token kind value cs.length) :
    Spells Follow (c :: cs) fun ts => ∃ t, ts = [t] ∧ t.kind = kind ∧ t.value.toList = value := by
  intro place rest hRest
  refine ⟨[⟨kind, String.ofList value, place⟩], ⟨_, rfl, rfl, String.toList_ofList⟩, ?_⟩
  exact scanFrom_of_token (h rest hRest) place

/-- A text that spells tokens is scanned as them if it is a whole source. -/
theorem Spells.exists_scan (h : Spells Follow cs IsSpelled) (hEnd : Follow []) :
    ∃ ts, IsSpelled ts ∧ scan (String.ofList cs) = .ok ts := by
  obtain ⟨ts, hTokens, hScan⟩ := h .start [] hEnd
  refine ⟨ts, hTokens, ?_⟩
  rw [List.append_nil] at hScan
  rw [scan, String.toList_ofList, hScan]
  simp [scanFrom, Except.map]

theorem delimited_cons (h : c ∈ [' ', '\n', '=']) : Delimited (c :: rest) :=
  fun _ hc => Option.some.inj hc ▸ h

theorem spells_blank : Spells (fun _ => True) [' '] (· = []) :=
  spells_of_gap fun _ _ => rfl

theorem Spells.behind_blank (h : Spells Follow cs IsSpelled) :
    Spells Follow (' ' :: cs) IsSpelled := by
  refine spells_blank.append h (fun _ _ => trivial) ?_
  rintro ts us rfl hTokens
  exact hTokens

theorem spells_sign (c : Char) (kind : Kind) (h : (c, kind) ∈ [('\n', .newline),
    ('\x7b', .opening), ('\x7d', .closing), ('=', .equals)]) :
    Spells (fun _ => True) [c] fun ts => ∃ t, ts = [t] ∧ t.kind = kind := by
  simp only [List.mem_cons, Prod.mk.injEq, List.not_mem_nil, or_false] at h
  have hFront : ∀ rest, front c rest = .token kind [c] 0 := by
    obtain ⟨rfl, rfl⟩ | ⟨rfl, rfl⟩ | ⟨rfl, rfl⟩ | ⟨rfl, rfl⟩ := h <;> exact fun _ => rfl
  refine (spells_of_token fun rest _ => hFront rest).mono (fun _ => id) ?_
  rintro ts ⟨t, rfl, hKind, -⟩
  exact ⟨t, rfl, hKind⟩

theorem spells_string (cs : List Char) :
    Spells (fun _ => True) ('"' :: (Text.escape cs ++ ['"'])) fun ts =>
      ∃ t, ts = [t] ∧ t.kind = .string ∧ t.value.toList = cs := by
  refine spells_of_token fun rest _ => ?_
  have hRead : readLiteral (Text.escape cs ++ '"' :: rest) = some (cs, rest) :=
    readLiteral_escape cs rest
  simp [front, hRead]
  omega

theorem spells_frontWord (hStart : isWordStart c = true) (hMore : ∀ d ∈ cs, isWordRest d = true)
    (hKind : kind = if String.ofList (c :: cs) = "true" ∨ String.ofList (c :: cs) = "false"
      then .boolean else .word) :
    Spells Delimited (c :: cs) fun ts =>
      ∃ t, ts = [t] ∧ t.kind = kind ∧ t.value.toList = c :: cs := by
  have hEnds : ([' ', '\n', '='].all fun d => !isWordRest d) = true := by decide +kernel
  refine spells_of_token fun rest hRest => ?_
  have hTake : (cs ++ rest).takeWhile isWordRest = cs :=
    takeWhile_append_of_head hMore fun d hd => by
      simpa using List.all_eq_true.mp hEnds d (hRest d hd)
  rw [front_of_isWordStart hStart, frontWord, hTake, hKind]
  rfl

theorem spells_word {text : String} (h : IsWord text) :
    Spells Delimited text.toList fun ts => ∃ t, ts = [t] ∧ t.kind = .word ∧ t.value = text := by
  unfold IsWord at h
  split at h
  · exact h.elim
  · rename_i c cs hText
    obtain ⟨hStart, hMore, hTrue, hFalse⟩ := h
    have hList : String.ofList (c :: cs) = text := by rw [← hText, String.ofList_toList]
    have hKind : Kind.word = if String.ofList (c :: cs) = "true" ∨ String.ofList (c :: cs) = "false"
        then .boolean else .word := by
      rw [hList, if_neg (by simp [hTrue, hFalse])]
    rw [hText]
    refine (spells_frontWord hStart (List.all_eq_true.mp hMore) hKind).mono (fun _ => id) ?_
    rintro ts ⟨t, rfl, hWord, hValue⟩
    exact ⟨t, rfl, hWord, String.toList_inj.mp (hValue.trans hText.symm)⟩

theorem spells_boolean (b : Bool) :
    Spells Delimited (toString b).toList fun ts =>
      ∃ t, ts = [t] ∧ t.kind = .boolean ∧ t.value = toString b := by
  have hSpells : Spells Delimited (toString b).toList fun ts =>
      ∃ t, ts = [t] ∧ t.kind = .boolean ∧ t.value.toList = (toString b).toList := by
    cases b
    · exact spells_frontWord (by decide +kernel) (List.all_eq_true.mp (by decide +kernel))
        (by decide +kernel)
    · exact spells_frontWord (by decide +kernel) (List.all_eq_true.mp (by decide +kernel))
        (by decide +kernel)
  refine hSpells.mono (fun _ => id) ?_
  rintro ts ⟨t, rfl, hKind, hValue⟩
  exact ⟨t, rfl, hKind, String.toList_inj.mp hValue⟩

theorem spells_frontNumber (hFirst : c.isDigit = true ∨ c = '-' ∧ cs ≠ [])
    (hMore : ∀ d ∈ cs, d.isDigit = true) :
    Spells Delimited (c :: cs) fun ts =>
      ∃ t, ts = [t] ∧ t.kind = .number ∧ t.value.toList = c :: cs := by
  have hEnds : ([' ', '\n', '='].all fun d => !(isDigit d || d == '.')) = true := by decide +kernel
  refine spells_of_token fun rest hRest => ?_
  have hAll : ∀ d ∈ cs, (isDigit d || d == '.') = true := fun d hd => by
    simp [isDigit_of_ascii (hMore d hd)]
  have hTake : ((cs ++ rest).takeWhile fun d => isDigit d || d == '.') = cs :=
    takeWhile_append_of_head hAll fun d hd => by
      simpa using List.all_eq_true.mp hEnds d (hRest d hd)
  have hDecimal : isDecimalText (if c == '-' then cs else c :: cs) = true := by
    obtain hDigit | ⟨rfl, hSome⟩ := hFirst
    · have hMinus : c ≠ '-' := by
        rintro rfl
        cases hDigit
      rw [if_neg (by simpa using hMinus)]
      exact isDecimalText_of_digits (List.cons_ne_nil _ _) (List.forall_mem_cons.mpr ⟨hDigit, hMore⟩)
    · exact isDecimalText_of_digits hSome hMore
  rw [front_of_isDigit (hFirst.imp_right And.left)]
  simp only [frontNumber, hTake, hDecimal, if_true]

theorem spells_numeral (n : Int) :
    Spells Delimited (Number.numeral n) fun ts =>
      ∃ t, ts = [t] ∧ t.kind = .number ∧ t.value.toList = Number.numeral n := by
  have hDigits : ∀ c ∈ Nat.toDigits 10 n.natAbs, c.isDigit = true := fun c =>
    Number.isDigit_of_mem_toDigits
  rw [Number.numeral]
  split
  · exact spells_frontNumber (Or.inr ⟨rfl, Nat.toDigits_ne_nil⟩) hDigits
  · obtain ⟨c, cs, hText⟩ := List.exists_cons_of_ne_nil (Nat.toDigits_ne_nil (n := n.natAbs) (b := 10))
    rw [hText, List.forall_mem_cons] at hDigits
    rw [hText]
    exact spells_frontNumber (Or.inl hDigits.1) hDigits.2

end Spellings

end Workflow.Source.Token
