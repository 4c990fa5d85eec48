import Workflow.Proofs.Routing.Edges
import Workflow.Proofs.Source.Spelling

/-!
# Comparisons with truth values and numbers

A comparison keeps the spelling of its literal, and a run compares that spelling with the plain text
of the value at the path. So a literal of another value is unequal, and of the literals of an
integer only its numeral as it is written is equal.
-/

namespace Workflow.Routing

open Workflow.Text Workflow.Number

/-- The value that a run context has at a path. -/
def foundAt (lookup : String → Value) (path : String) : Value :=
  match lookup ("context." ++ path) with
  | .none => lookup path
  | value => value

theorem plain_foundAt (lookup : String → Value) (path : String) :
    (foundAt lookup path).plain = valueAt lookup path := by
  cases h : lookup ("context." ++ path) <;> simp [foundAt, valueAt, h]

/-- A literal that is no string: a truth value or a number. -/
def IsBareLiteral (literal : String) : Prop :=
  literal = "true" ∨ literal = "false" ∨ isDecimalText literal.toList = true

/-- A literal spells a truth value, or an integer with leading zeros or a fraction of zeros. -/
def Denotes (literal : String) : Value → Prop
  | .bool b => literal = toString b
  | .int n =>
    let digits := literal.toList.span Char.isDigit
    let fraction := digits.2.drop 1
    isDecimalText literal.toList = true ∧
      (ofDigits (digits.1 ++ fraction) : Int) = n * 10 ^ fraction.length
  | _ => False

instance (literal : String) (v : Value) : Decidable (Denotes literal v) := by
  cases v <;> unfold Denotes <;> infer_instance

/-- The characters of paths; those of bare literals are among them. -/
def isPathChar (c : Char) : Bool :=
  isWordChar c || c == '.' || c == '-'

section PathChar

variable {c d : Char} {cs : List Char}

theorem isBlank_eq_false_of_isPathChar (h : isPathChar c = true) : isBlank c = false := by
  rw [← Bool.not_eq_true]
  intro hBlank
  have hPoint : c ≠ '.' := ne_of_isBlank hBlank (by decide)
  have hHyphen : c ≠ '-' := ne_of_isBlank hBlank (by decide)
  simp [isPathChar, isWordChar_eq_false_of_isBlank hBlank, hPoint, hHyphen] at h

theorem notMem_of_isPathChar (h : ∀ c ∈ cs, isPathChar c = true) (hd : isPathChar d = false) :
    d ∉ cs := fun hMem => by
  rw [h d hMem] at hd
  cases hd

theorem isPathChar_of_isDigit (h : c.isDigit = true) : isPathChar c = true := by
  simp [isPathChar, isWordChar, isAlphanumeric, isNumeral, h]

theorem exists_cons_of_isDecimalText (h : isDecimalText cs = true) :
    ∃ c more, cs = c :: more ∧ c.isDigit = true ∧ ∀ d ∈ more, d.isDigit = true ∨ d = '.' := by
  rw [isDecimalText, List.span_eq_takeWhile_dropWhile, Bool.and_eq_true] at h
  have hWhole : ∀ c ∈ cs.takeWhile Char.isDigit, c.isDigit = true := fun c =>
    List.mem_takeWhile_imp
  have hTail : ∀ c ∈ cs.dropWhile Char.isDigit, c.isDigit = true ∨ c = '.' := by
    cases hRest : cs.dropWhile Char.isDigit with
    | nil => exact List.forall_mem_nil _
    | cons point fraction =>
      have hFraction := h.2
      simp only [hRest, Bool.and_eq_true, beq_iff_eq, List.all_eq_true] at hFraction
      exact List.forall_mem_cons.mpr ⟨Or.inr hFraction.1.1, fun c hc => Or.inl (hFraction.2 c hc)⟩
  cases hFirst : cs.takeWhile Char.isDigit with
  | nil => simp [hFirst] at h
  | cons c whole =>
    rw [hFirst, List.forall_mem_cons] at hWhole
    refine ⟨c, whole ++ cs.dropWhile Char.isDigit, ?_, hWhole.1, ?_⟩
    · rw [← List.cons_append, ← hFirst, List.takeWhile_append_dropWhile]
    · exact List.forall_mem_append.mpr ⟨fun d hd => Or.inl (hWhole.2 d hd), hTail⟩

theorem isPathChar_of_isDecimalText (h : isDecimalText cs = true) :
    ∀ c ∈ cs, isPathChar c = true := by
  obtain ⟨c, more, rfl, hFirst, hMore⟩ := exists_cons_of_isDecimalText h
  refine List.forall_mem_cons.mpr ⟨isPathChar_of_isDigit hFirst, fun d hd => ?_⟩
  obtain hDigit | rfl := hMore d hd
  · exact isPathChar_of_isDigit hDigit
  · decide +kernel

theorem IsBareLiteral.isPathChar {literal : String} (h : IsBareLiteral literal) :
    ∀ c ∈ literal.toList, isPathChar c = true := by
  obtain rfl | rfl | hNumber := h
  · exact List.all_eq_true.mp (by decide +kernel)
  · exact List.all_eq_true.mp (by decide +kernel)
  · exact isPathChar_of_isDecimalText hNumber

theorem escape_eq_self (hQuote : '"' ∉ cs) (hSlash : '\\' ∉ cs) : escape cs = cs := by
  induction cs with
  | nil => rfl
  | cons c cs ih =>
    rw [List.mem_cons, not_or] at hQuote hSlash
    rw [escape, if_neg (by simp [Ne.symm hQuote.1, Ne.symm hSlash.1]), ih hQuote.2 hSlash.2]

theorem not_occurs_of_isPathChar {part text : String} (h : ∀ c ∈ text.toList, isPathChar c = true)
    (hd : d ∈ part.toList) (hSign : isPathChar d = false) : ¬ Occurs part text := fun hOccurs =>
  notMem_of_isPathChar h hSign (hOccurs.subset hd)

end PathChar

section Comparison

variable {path literal : String}

theorem Leaf.readsBack_of_isPathChar (hPath : ∀ c ∈ path.toList, isPathChar c = true)
    (hLiteral : ∀ c ∈ literal.toList, isPathChar c = true) (relation : Relation) :
    (Leaf.compare .output path relation literal).ReadsBack where
  argument_join := not_occurs_of_isPathChar hPath (d := '&') (by decide) (by decide +kernel)
  literal_join := not_occurs_of_isPathChar hLiteral (d := '&') (by decide) (by decide +kernel)
  literal_begin c hc := isBlank_eq_false_of_isPathChar (hLiteral c (List.mem_of_mem_head? hc))
  literal_end c hc := isBlank_eq_false_of_isPathChar (hLiteral c (List.mem_of_mem_getLast? hc))
  argument_end _ c hc := isBlank_eq_false_of_isPathChar (hPath c (List.mem_of_mem_getLast? hc))
  differ_first _ := not_occurs_of_isPathChar hPath (d := '=') (by decide) (by decide +kernel)
  equal_first _ := by
    refine ⟨not_occurs_of_isPathChar hPath (d := '=') (by decide) (by decide +kernel),
      not_occurs_of_isPathChar hLiteral (d := '=') (by decide) (by decide +kernel), fun _ hLast => ?_⟩
    exact notMem_of_isPathChar hPath (d := '!') (by decide +kernel)
      (List.mem_of_mem_getLast? hLast)

/-- The edge of a comparison compares the plain text of the value with the literal. -/
theorem exists_condition_of_comparison (hPath : ∀ c ∈ path.toList, isPathChar c = true)
    (hLiteral : ∀ c ∈ literal.toList, isPathChar c = true) {relation : Relation} {text : String}
    (h : Expr.parse text = .ok (.compare .output path relation literal)) :
    ∃ condition, edgeConditions (some text) = .ok [condition] ∧ ∀ outcome lookup,
      Condition.holds condition outcome lookup =
        relation.holds (foundAt lookup path).plain literal := by
  have hCompile : Guard.compile text =
      .ok (.anyOf [(Leaf.compare .output path relation literal).condition]) :=
    Guard.compile_eq_ok_iff.mpr ⟨_, h, rfl⟩
  have hReadsBack := Leaf.readsBack_of_isPathChar hPath hLiteral relation
  refine ⟨_, edgeConditions_of_compile hCompile, fun outcome lookup => ?_⟩
  rw [(Leaf.holds_condition_iff _).mpr hReadsBack, plain_foundAt]
  rfl

end Comparison

section Written

/-- A comparison with the value at a path, as it is written. -/
def comparisonText (path : String) (relation : Relation) (literal : String) : String :=
  "output(\"" ++ path ++ "\") " ++ relation.operator ++ " " ++ literal

variable {c : Char} {cs rest : List Char} {kind : Token.Kind} {value : List Char} {position : Nat}
  {ts : List Token} {path literal : String}

theorem Token.scanFrom_length_append :
    Token.scanFrom position cs.length (cs ++ rest) =
      Token.scanFrom (position + cs.length) 0 rest := by
  induction cs generalizing position with
  | nil => rfl
  | cons c cs ih =>
    rw [List.length_cons, List.cons_append, scanFrom, ih, Nat.add_assoc, Nat.add_comm 1]

theorem Token.scanFrom_of_token (h : Token.front c (cs ++ rest) = .token kind value cs.length)
    (position : Nat) : Token.scanFrom position 0 (c :: (cs ++ rest)) =
      (Token.scanFrom (position + (cs.length + 1)) 0 rest).map
        (⟨kind, String.ofList value, position⟩ :: ·) := by
  have hPosition : position + 1 + cs.length = position + (cs.length + 1) := by omega
  rw [scanFrom, h]
  simp only [scanFrom_length_append, hPosition]
  cases scanFrom (position + (cs.length + 1)) 0 rest <;> rfl

/-- Wherever a text stands, it scans to tokens with a property. -/
def Scans (cs : List Char) (tokens : List Token → Prop) : Prop :=
  ∀ position, ∃ ts, Token.scanFrom position 0 cs = .ok ts ∧ tokens ts

theorem scans_nil : Scans [] (· = []) := fun _ => ⟨[], rfl, rfl⟩

theorem Scans.blank {tokens : List Token → Prop} (h : Scans rest tokens) :
    Scans (' ' :: rest) tokens := fun position => h (position + 1)

theorem Scans.token {tokens : List Token → Prop} (h : Scans rest tokens)
    (hFront : Token.front c (cs ++ rest) = .token kind value cs.length) :
    Scans (c :: (cs ++ rest)) fun ts => ∃ t more, ts = t :: more ∧ t.kind = kind ∧
      t.value = String.ofList value ∧ tokens more := by
  intro position
  obtain ⟨ts, hScan, hTokens⟩ := h (position + (cs.length + 1))
  refine ⟨⟨kind, String.ofList value, position⟩ :: ts, ?_, _, ts, rfl, rfl, rfl, hTokens⟩
  rw [Token.scanFrom_of_token hFront, hScan]
  rfl

theorem scans_bareLiteral (h : IsBareLiteral literal) :
    Scans literal.toList fun ts => ∃ t : Token, ts = [t] ∧ t.IsLiteral ∧ t.value = literal := by
  intro position
  obtain rfl | rfl | hNumber := h
  · exact ⟨_, rfl, ⟨.word, "true", position⟩, rfl, by simp [Token.IsLiteral], rfl⟩
  · exact ⟨_, rfl, ⟨.word, "false", position⟩, rfl, by simp [Token.IsLiteral], rfl⟩
  · obtain ⟨c, more, hText, hFirst, hMore⟩ := exists_cons_of_isDecimalText hNumber
    have hInk := isBlank_eq_false_of_isPathChar (isPathChar_of_isDigit hFirst)
    have hQuote : c ≠ '"' := by
      rintro rfl
      cases hFirst
    have hAll : (more.takeWhile fun d => Text.isDigit d || d == '.') = more := by
      refine List.takeWhile_eq_self_iff.mpr fun d hd => ?_
      obtain hDigit | rfl := hMore d hd
      · simp [isDigit_of_ascii hDigit]
      · simp
    have hFront : Token.front c (more ++ []) = .token .number (c :: more) more.length := by
      rw [hText] at hNumber
      rw [List.append_nil, Token.front]
      simp [hInk, hQuote, isDigit_of_ascii hFirst, hAll, hNumber]
    obtain ⟨_, hScan, t, _, rfl, hKind, hValue, rfl⟩ := scans_nil.token hFront position
    rw [List.append_nil, ← hText] at hScan
    refine ⟨_, hScan, t, rfl, Or.inr (Or.inl hKind), ?_⟩
    rw [hValue, ← hText, String.ofList_toList]

theorem scans_relation {tokens : List Token → Prop} (relation : Relation) (h : Scans rest tokens) :
    Scans (relation.operator.toList ++ rest) fun ts => ∃ t more, ts = t :: more ∧
      t.kind = .ofRelation relation ∧ tokens more := by
  intro position
  cases relation with
  | equal =>
    have hFront : Token.front '=' (['='] ++ rest) = .token .equal ['=', '='] 1 := rfl
    obtain ⟨_, hScan, t, more, rfl, hKind, -, hMore⟩ := h.token hFront position
    exact ⟨_, hScan, t, more, rfl, hKind, hMore⟩
  | differ =>
    have hFront : Token.front '!' (['='] ++ rest) = .token .differ ['!', '='] 1 := rfl
    obtain ⟨_, hScan, t, more, rfl, hKind, -, hMore⟩ := h.token hFront position
    exact ⟨_, hScan, t, more, rfl, hKind, hMore⟩

theorem scans_string {tokens : List Token → Prop} (text : String) (h : Scans rest tokens) :
    Scans ('"' :: (escape text.toList ++ '"' :: rest)) fun ts => ∃ t more, ts = t :: more ∧
      t.kind = .string ∧ t.value = text ∧ tokens more := by
  have hFront : Token.front '"' ((escape text.toList ++ ['"']) ++ rest) =
      .token .string text.toList (escape text.toList ++ ['"']).length := by
    rw [List.append_assoc, List.singleton_append, Token.front_quote, readLiteral_escape]
    simp
    omega
  have hScans := h.token hFront
  rw [List.append_assoc, String.ofList_toList] at hScans
  exact hScans

theorem scans_argument {tokens : List Token → Prop} (path : String) (h : Scans rest tokens) :
    Scans ('(' :: '"' :: (escape path.toList ++ '"' :: ')' :: rest)) fun ts => ∃ argument more,
      ts = argument ++ more ∧ IsArgument argument path ∧ tokens more := by
  have hClosing : Token.front ')' ([] ++ rest) = .token .closing [')'] 0 := rfl
  have hOpening : ∀ more, Token.front '(' ([] ++ more) = .token .opening ['('] 0 := fun _ => rfl
  intro position
  obtain ⟨_, hScan, opening, _, rfl, hOpening, -, text, _, rfl, hText, rfl, closing, more, rfl,
    hClosing, -, hMore⟩ := (scans_string path (h.token hClosing)).token (hOpening _) position
  exact ⟨_, hScan, [opening, text, closing], more, rfl, .intro hOpening hText hClosing, hMore⟩

theorem IsCall.countP_joins {ts : List Token} {e : Expr} (h : IsCall ts e) :
    ts.countP Token.joins = 0 := by
  have hArgument : ∀ {argument : List Token} {name : String}, IsArgument argument name →
      ∀ t ∈ argument, ¬ Token.joins t = true := by
    rintro _ _ ⟨hOpening, hText, hClosing⟩
    simp [Token.joins, hOpening, hText, hClosing]
  rw [List.countP_eq_zero]
  cases h with
  | literal value hKind hValue => simp [Token.joins, hKind]
  | present hKind hValue hPath =>
    exact List.forall_mem_cons.mpr ⟨by simp [Token.joins, hKind], hArgument hPath⟩
  | @compare t sign word argument name subject relation hKind hValue hName hSign hWord =>
    have hRelation : ¬ Token.joins sign = true := by
      cases relation <;> simp [Token.joins, hSign, Token.Kind.ofRelation]
    have hLiteral : ¬ Token.joins word = true := by
      obtain hString | hNumber | ⟨hTruth, -⟩ := hWord <;> simp [Token.joins, *]
    refine List.forall_mem_cons.mpr ⟨by simp [Token.joins, hKind], ?_⟩
    exact List.forall_mem_append.mpr ⟨hArgument hName, by simp [hRelation, hLiteral]⟩

/-- A comparison is read whatever its path holds, as long as the path is escaped. -/
theorem parse_of_scans_literal {text : String} {relation : Relation}
    (hText : text.toList = 'o' :: ("utput".toList ++ '(' :: '"' :: (escape path.toList ++
      '"' :: ')' :: ' ' :: (relation.operator.toList ++ ' ' :: cs))))
    (hLiteral : Scans cs fun ts => ∃ t : Token, ts = [t] ∧ t.IsLiteral ∧ t.value = literal) :
    Expr.parse text = .ok (.compare .output path relation literal) := by
  have hFront : ∀ more, Token.front 'o' ("utput".toList ++ '(' :: more) =
      .token .word "output".toList "utput".toList.length := fun _ => rfl
  have hScans := (scans_argument path (scans_relation relation hLiteral.blank).blank).token
    (hFront _)
  obtain ⟨_, hScan, word, _, rfl, hWord, hValue, argument, _, rfl, hArgument, sign, _, rfl, hSign, t,
    rfl, hIsLiteral, rfl⟩ := hScans 0
  have hCall : IsCall _ (.compare .output path relation t.value) :=
    .compare hWord hValue hArgument hSign hIsLiteral
  have hBlank : allBlank text = false := by
    simp [allBlank, hText, show isBlank 'o' = false by decide]
  rw [← hText] at hScan
  have hFew : (word :: (argument ++ [sign, t])).countP Token.joins < operandLimit := by
    rw [hCall.countP_joins]
    decide
  have hTokens := Expr.ofTokens_eq_ok_iff.mpr ⟨hFew, .only (.one (.call hCall))⟩
  exact Except.mapError_eq_ok_iff.mpr (Expr.read_eq_ok_iff.mpr ⟨hBlank, _, hScan, hTokens⟩)

theorem parse_comparisonText (hPath : ∀ c ∈ path.toList, isPathChar c = true)
    (hLiteral : IsBareLiteral literal) (relation : Relation) :
    Expr.parse (comparisonText path relation literal) =
      .ok (.compare .output path relation literal) := by
  have hEscape : escape path.toList = path.toList :=
    escape_eq_self (notMem_of_isPathChar hPath (by decide +kernel))
      (notMem_of_isPathChar hPath (by decide +kernel))
  refine parse_of_scans_literal ?_ (scans_bareLiteral hLiteral)
  rw [hEscape]
  simp [comparisonText]

end Written

section Values

variable {literal : String}

theorem denotes_numeral (n : Nat) : Denotes (toString n) (.int n) := by
  have hDigits : (toString n).toList = Nat.toDigits 10 n := by
    rw [Nat.toString_eq_ofList_toDigits, String.toList_ofList]
  have hAll : ∀ c ∈ Nat.toDigits 10 n, c.isDigit = true := fun c => isDigit_of_mem_toDigits
  have hWhole : (Nat.toDigits 10 n).takeWhile Char.isDigit = Nat.toDigits 10 n :=
    List.takeWhile_eq_self_iff.mpr hAll
  have hRest : (Nat.toDigits 10 n).dropWhile Char.isDigit = [] :=
    List.dropWhile_eq_nil_iff.mpr hAll
  rw [Denotes, hDigits, List.span_eq_takeWhile_dropWhile, hWhole, hRest]
  refine ⟨Source.Token.isDecimalText_of_digits Nat.toDigits_ne_nil hAll, ?_⟩
  simp [ofDigits_toDigits]

/-- The truth values and the non-negative integers. -/
def IsTruthOrNat (v : Value) : Prop :=
  (∃ b, v = .bool b) ∨ ∃ n : Nat, v = .int n

/-- A literal whose spelling is the plain text of a value denotes it, and is its numeral. -/
theorem eq_numeral_of_plain_eq {v : Value} (hLiteral : IsBareLiteral literal)
    (hValue : IsTruthOrNat v) (h : v.plain = literal) :
    ∃ n : Nat, v = .int n ∧ literal = toString n := by
  obtain ⟨b, rfl⟩ | ⟨n, rfl⟩ := hValue
  · subst h
    have hNone : ¬ IsBareLiteral (Value.bool b).plain := by
      cases b <;> simp [IsBareLiteral, Value.plain, Value.text, Value.boolText, isDecimalText]
    exact absurd hLiteral hNone
  · exact ⟨n, rfl, h.symm⟩

end Values

/-- A comparison with a bare literal is one edge, which compares the spelling of the literal with
the plain text of the value. It tells every other value apart, and an integer is equal to its
numeral alone. -/
theorem holds_comparison {path literal : String}
    (hPath : ∀ c ∈ path.toList, isPathChar c = true) (hLiteral : IsBareLiteral literal)
    (relation : Relation) :
    Expr.parse (comparisonText path relation literal) =
      .ok (.compare .output path relation literal) ∧
    ∀ text, Expr.parse text = .ok (.compare .output path relation literal) →
      ∃ condition, edgeConditions (some text) = .ok [condition] ∧ ∀ outcome lookup,
        Condition.holds condition outcome lookup =
          relation.holds (foundAt lookup path).plain literal ∧
        (IsTruthOrNat (foundAt lookup path) → ¬ Denotes literal (foundAt lookup path) →
          Condition.holds condition outcome lookup = decide (relation = .differ)) ∧
        ∀ n : Nat, foundAt lookup path = .int n →
          (literal = toString n → Denotes literal (.int n) ∧
            Condition.holds condition outcome lookup = decide (relation = .equal)) ∧
          (literal ≠ toString n →
            Condition.holds condition outcome lookup = decide (relation = .differ)) := by
  refine ⟨parse_comparisonText hPath hLiteral relation, fun text hText => ?_⟩
  obtain ⟨condition, hEdges, hHolds⟩ :=
    exists_condition_of_comparison hPath hLiteral.isPathChar hText
  have hEqual : ∀ plain, plain = literal →
      relation.holds plain literal = decide (relation = .equal) := by
    rintro plain rfl
    cases relation <;> simp [Relation.holds]
  have hDiffer : ∀ plain, plain ≠ literal →
      relation.holds plain literal = decide (relation = .differ) := by
    intro plain hNe
    cases relation <;> simp [Relation.holds, hNe]
  refine ⟨condition, hEdges, fun outcome lookup => ⟨hHolds outcome lookup, ?_, ?_⟩⟩
  · intro hValue hOther
    rw [hHolds]
    refine hDiffer _ fun hPlain => ?_
    obtain ⟨n, hn, rfl⟩ := eq_numeral_of_plain_eq hLiteral hValue hPlain
    exact hOther (hn ▸ denotes_numeral n)
  · intro n hn
    rw [hHolds, hn]
    refine ⟨?_, fun hNe => hDiffer _ (Ne.symm hNe)⟩
    rintro rfl
    exact ⟨denotes_numeral n, hEqual _ rfl⟩

theorem holds_comparison_at_twelve :
    (∀ c ∈ "build.count".toList, isPathChar c = true) ∧ IsBareLiteral "12" ∧
    ∃ condition, edgeConditions (some "output(\"build.count\") != 12") = .ok [condition] ∧
      ∀ outcome lookup,
        (foundAt lookup "build.count" = .int 12 →
          Condition.holds condition outcome lookup = false) ∧
        (foundAt lookup "build.count" = .int 120 →
          Condition.holds condition outcome lookup = true) ∧
        (foundAt lookup "build.count" = .bool true →
          Condition.holds condition outcome lookup = true) := by
  have hPath : ∀ c ∈ "build.count".toList, isPathChar c = true :=
    List.all_eq_true.mp (by decide +kernel)
  have hLiteral : IsBareLiteral "12" := Or.inr (Or.inr (by decide +kernel))
  obtain ⟨hParse, hEdges⟩ := holds_comparison hPath hLiteral .differ
  obtain ⟨condition, hEdges, hHolds⟩ := hEdges _ hParse
  refine ⟨hPath, hLiteral, condition, hEdges, fun outcome lookup => ?_⟩
  obtain ⟨-, hOther, hInt⟩ := hHolds outcome lookup
  refine ⟨fun h => ?_, fun h => ?_, fun h => ?_⟩
  · exact ((hInt 12 h).1 (by decide)).2
  · exact (hInt 120 h).2 (by decide)
  · exact hOther (Or.inl ⟨true, h⟩) (h ▸ by decide)

/-- Neither the truth value that `true` denotes nor the integer that `07` denotes is equal to it:
a run has other texts for them. -/
theorem exists_denoted_unequal :
    (∃ lookup condition, foundAt lookup "flag" = .bool true ∧ Denotes "true" (.bool true) ∧
      edgeConditions (some "output(\"flag\") == true") = .ok [condition] ∧
      ∀ outcome, Condition.holds condition outcome lookup = false) ∧
    ∃ lookup condition, foundAt lookup "n" = .int 7 ∧ Denotes "07" (.int 7) ∧
      edgeConditions (some "output(\"n\") == 07") = .ok [condition] ∧
      ∀ outcome, Condition.holds condition outcome lookup = false := by
  have hUnequal : ∀ (path literal : String) (v : Value), (path.toList.all isPathChar) = true →
      IsBareLiteral literal → v.plain ≠ literal →
      ∃ lookup condition, foundAt lookup path = v ∧
        edgeConditions (some (comparisonText path .equal literal)) = .ok [condition] ∧
        ∀ outcome, Condition.holds condition outcome lookup = false := by
    intro path literal v hPath hLiteral hPlain
    have hChars := List.all_eq_true.mp hPath
    obtain ⟨condition, hEdges, hHolds⟩ := exists_condition_of_comparison hChars
      hLiteral.isPathChar (parse_comparisonText hChars hLiteral .equal)
    have hFound : foundAt (fun _ => v) path = v := by
      cases v <;> rfl
    refine ⟨fun _ => v, condition, hFound, hEdges, fun outcome => ?_⟩
    rw [hHolds, hFound]
    simpa [Relation.holds] using hPlain
  obtain ⟨runFlag, conditionFlag, hFlag, hFlagEdges, hFlagHolds⟩ := hUnequal "flag" "true"
    (.bool true) (by decide +kernel) (Or.inl rfl) (by decide)
  obtain ⟨runN, conditionN, hN, hNEdges, hNHolds⟩ := hUnequal "n" "07" (.int 7)
    (by decide +kernel) (Or.inr (Or.inr (by decide +kernel))) (by decide)
  exact ⟨⟨runFlag, conditionFlag, hFlag, by decide, hFlagEdges, hFlagHolds⟩,
    runN, conditionN, hN, by decide, hNEdges, hNHolds⟩

end Workflow.Routing
