import Workflow.Proofs.Routing.Blanks
import Workflow.Proofs.Source.Layout
import Workflow.Proofs.Text.Cut

/-!
# The stages that an expression names

References are collected from the tree of an expression, and a tree keeps none of the signs and
parentheses that it was read from. All the same there is one reference for each call among the
tokens, and the references stand in the order of the calls.
-/

namespace Workflow.Routing

open Workflow.Text

namespace Token

/-- Whether a token is the name of a function. -/
def isCall (t : Token) : Bool :=
  t.kind = .word && (t.value = "outcome" || t.value = "output" || t.value = "exists")

/-- The reference of a call with some argument. -/
def reference (t : Token) (argument : String) : StageRef :=
  ⟨t.value, if t.value = "outcome" then argument else pathHead argument⟩

/-- In a text the token is a string with quotes around it, read without its escapes. -/
def IsStringIn (cs : List Char) (t : Token) : Prop :=
  ∃ front body back, cs = front ++ '"' :: (body ++ '"' :: back) ∧ t.position = front.length ∧
    Source.Token.Decodes body t.value.toList

theorem isCall_eq_false_of_kind {t : Token} (h : t.kind ≠ .word) : t.isCall = false := by
  simp [isCall, h]

theorem isCall_eq_false_of_isLiteral {t : Token} (h : t.IsLiteral) : t.isCall = false := by
  obtain hKind | hKind | ⟨-, hTrue | hFalse⟩ := h
  · exact isCall_eq_false_of_kind (by simp [hKind])
  · exact isCall_eq_false_of_kind (by simp [hKind])
  · simp [isCall, hTrue]
  · simp [isCall, hFalse]

theorem isCall_of_word {t : Token} {subject : Subject} (hKind : t.kind = .word)
    (hValue : t.value = subject.word) : t.isCall = true := by
  cases subject <;> simp [isCall, hKind, hValue, Subject.word]

theorem decodes_of_front {c : Char} {cs value : List Char} {more : Nat}
    (h : front c cs = .token .string value more) :
    ∃ body back, c :: cs = '"' :: (body ++ '"' :: back) ∧ Source.Token.Decodes body value := by
  by_cases hQuote : c = '"'
  · subst hQuote
    rw [front_quote] at h
    split at h
    · cases h
    · next text rest hRead =>
      cases h
      obtain ⟨body, rfl, hDecodes⟩ := Source.Token.decodes_of_readLiteral hRead
      exact ⟨body, rest, rfl, hDecodes⟩
  · exfalso
    have hOther : (c == '"') = false := beq_false_of_ne hQuote
    simp only [front, frontSymbol, hOther] at h
    repeat' split at h
    all_goals first | contradiction | cases h

theorem isStringIn_of_scanFrom {before cs : List Char} {skip : Nat} {ts : List Token}
    (h : scanFrom before.length skip cs = .ok ts) :
    ∀ t ∈ ts, t.kind = .string → t.IsStringIn (before ++ cs) := by
  -- what the scanner has passed over grows by one character with each call, also inside a token
  induction cs generalizing before skip ts with
  | nil =>
    cases h
    exact nofun
  | cons c cs ih =>
    have hNext {skip : Nat} {ts : List Token} (h : scanFrom (before.length + 1) skip cs = .ok ts) :
        ∀ t ∈ ts, t.kind = .string → t.IsStringIn (before ++ c :: cs) := by
      have hLength : before.length + 1 = (before ++ [c]).length := by simp
      rw [hLength] at h
      simpa using ih h
    cases skip with
    | succ skip => exact hNext h
    | zero =>
      rw [scanFrom] at h
      cases hFront : front c cs with
      | blank =>
        rw [hFront] at h
        exact hNext h
      | fault describe =>
        rw [hFront] at h
        cases h
      | token kind value more =>
        rw [hFront] at h
        obtain ⟨others, hOthers, hEq⟩ := Except.bind_eq_ok_iff.mp h
        cases hEq
        refine List.forall_mem_cons.mpr ⟨fun hKind => ?_, hNext hOthers⟩
        obtain rfl : kind = .string := hKind
        obtain ⟨body, back, hText, hDecodes⟩ := decodes_of_front hFront
        exact ⟨before, body, back, by rw [hText], rfl, by rwa [String.toList_ofList]⟩

theorem isStringIn_of_scan {text : String} {ts : List Token} (h : scan text = .ok ts) :
    ∀ t ∈ ts, t.kind = .string → t.IsStringIn text.toList := by
  have hStart : scanFrom ([] : List Char).length 0 text.toList = .ok ts := h
  exact isStringIn_of_scanFrom hStart

end Token

theorem pathHead_eq (path : String) :
    pathHead path = String.ofList (path.toList.takeWhile (· ≠ '.')) := by
  have hPoint : ".".toList = ['.'] := rfl
  have hAll {cs : List Char} (h : '.' ∉ cs) : ∀ c ∈ cs, decide (c ≠ '.') = true := fun c hc =>
    decide_eq_true fun hEq => h (hEq ▸ hc)
  unfold pathHead
  split
  · next head back hCut =>
    obtain ⟨rfl, hHead⟩ := (cut?_eq_some_iff (by simp)).mp hCut
    have hFirst : '.' ∉ head.toList := by simpa [hPoint, singleton_infix_iff] using hHead
    rw [String.toList_append, String.toList_append, List.append_assoc,
      List.takeWhile_append_of_pos (hAll hFirst), hPoint]
    simp
  · next hCut =>
    have hNone : '.' ∉ path.toList := by
      simpa [hPoint, Occurs, singleton_infix_iff] using (cut?_eq_none_iff (by simp)).mp hCut
    rw [List.takeWhile_eq_self_iff.mpr (hAll hNone), String.ofList_toList]

/-- The references of the calls among some tokens, from left to right. -/
inductive Refers : List Token → List StageRef → Prop
  | nil : Refers [] []
  | skip {t : Token} {ts : List Token} {refs : List StageRef} (hOther : t.isCall = false)
      (h : Refers ts refs) : Refers (t :: ts) refs
  | call {t : Token} {argument ts : List Token} {name : String} {refs : List StageRef}
      (hCall : t.isCall = true) (hArgument : IsArgument argument name)
      (h : Refers (argument ++ ts) refs) :
    Refers (t :: (argument ++ ts)) (t.reference name :: refs)

section Refers

variable {ts ts' argument : List Token} {refs refs' : List StageRef} {name : String} {e : Expr}

theorem Refers.append (h : Refers ts refs) (h' : Refers ts' refs') :
    Refers (ts ++ ts') (refs ++ refs') := by
  induction h with
  | nil => exact h'
  | skip hOther _ ih => exact .skip hOther ih
  | call hCall hArgument _ ih =>
    rw [List.append_assoc] at ih
    rw [List.cons_append, List.append_assoc]
    exact .call hCall hArgument ih

theorem refers_nil_of_forall (h : ∀ t ∈ ts, t.isCall = false) : Refers ts [] := by
  induction ts with
  | nil => exact .nil
  | cons t ts ih =>
    rw [List.forall_mem_cons] at h
    exact .skip h.1 (ih h.2)

theorem IsArgument.isCall_eq_false (h : IsArgument argument name) :
    ∀ t ∈ argument, t.isCall = false := by
  cases h with
  | intro hOpening hText hClosing =>
    simp only [List.forall_mem_cons]
    exact ⟨Token.isCall_eq_false_of_kind (by simp [hOpening]),
      Token.isCall_eq_false_of_kind (by simp [hText]),
      Token.isCall_eq_false_of_kind (by simp [hClosing]), List.forall_mem_nil _⟩

theorem IsCall.refers (h : IsCall ts e) : Refers ts e.stageRefs := by
  cases h with
  | @literal t value hKind hValue =>
    refine .skip ?_ .nil
    cases value <;> simp [Token.isCall, hValue]
  | @present t argument path hKind hValue hArgument =>
    have hCall : t.isCall = true := by simp [Token.isCall, hKind, hValue]
    have hRef : t.reference path = ⟨"exists", pathHead path⟩ := by simp [Token.reference, hValue]
    rw [Expr.stageRefs, ← hRef, ← List.append_nil argument]
    exact .call hCall hArgument (refers_nil_of_forall (by simpa using hArgument.isCall_eq_false))
  | @compare t sign word argument name subject relation hKind hValue hArgument hSign hWord =>
    have hRef : (Expr.compare subject name relation word.value).stageRefs = [t.reference name] := by
      cases subject <;> simp [Expr.stageRefs, Token.reference, hValue, Subject.word]
    have hSignOther : sign.isCall = false :=
      Token.isCall_eq_false_of_kind (by rw [hSign]; cases relation <;> simp [Token.Kind.ofRelation])
    rw [hRef]
    refine .call (Token.isCall_of_word hKind hValue) hArgument (refers_nil_of_forall ?_)
    rw [List.forall_mem_append]
    refine ⟨hArgument.isCall_eq_false, ?_⟩
    simp [hSignOther, Token.isCall_eq_false_of_isLiteral hWord]

/-- No rule of the grammar loses, repeats or moves a call. -/
theorem Derives.refers {depth : Nat} {layer : Layer} (h : Derives depth layer ts e) :
    Refers ts e.stageRefs := by
  have hSkip {t : Token} {kind : Token.Kind} (hKind : t.kind = kind) (hWord : kind ≠ .word) :
      t.isCall = false :=
    Token.isCall_eq_false_of_kind (hKind ▸ hWord)
  induction h with
  | call h => exact h.refers
  | not hNot _ ih => exact .skip (hSkip hNot (by decide)) ih
  | @group depth opening closing ts e hOpening _ hClosing ih =>
    have hEnd : Refers [closing] [] := .skip (hSkip hClosing (by decide)) .nil
    rw [← List.append_nil e.stageRefs]
    exact .skip (hSkip hOpening (by decide)) (ih.append hEnd)
  | one _ ih => exact ih
  | and _ hAnd _ ihLeft ihRight => exact ihLeft.append (.skip (hSkip hAnd (by decide)) ihRight)
  | only _ ih => exact ih
  | or _ hOr _ ihLeft ihRight => exact ihLeft.append (.skip (hSkip hOr (by decide)) ihRight)

theorem Refers.length_eq (h : Refers ts refs) : refs.length = ts.countP Token.isCall := by
  induction h with
  | nil => rfl
  | skip hOther _ ih => rw [List.countP_cons_of_neg (by simp [hOther]), ih]
  | call hCall _ _ ih => rw [List.countP_cons_of_pos hCall, List.length_cons, ih]

theorem Refers.getElem?_eq {before after : List Token} {call : Token}
    (h : Refers (before ++ call :: after) refs) (hCall : call.isCall = true) :
    ∃ argument name rest, IsArgument argument name ∧ after = argument ++ rest ∧
      refs[before.countP Token.isCall]? = some (call.reference name) := by
  -- each call before this one gives one of the references before its own
  generalize hTokens : before ++ call :: after = ts at h
  induction h generalizing before with
  | nil => simp at hTokens
  | @skip t ts refs hOther _ ih =>
    cases before with
    | nil =>
      rw [List.nil_append, List.cons.injEq] at hTokens
      rw [hTokens.1, hOther] at hCall
      cases hCall
    | cons first before =>
      rw [List.cons_append, List.cons.injEq] at hTokens
      obtain ⟨rfl, hMore⟩ := hTokens
      rw [List.countP_cons_of_neg (by simp [hOther])]
      exact ih hMore
  | @call t argument ts name refs hFirst hArgument _ ih =>
    cases before with
    | nil =>
      rw [List.nil_append, List.cons.injEq] at hTokens
      obtain ⟨rfl, rfl⟩ := hTokens
      exact ⟨argument, name, ts, hArgument, rfl, rfl⟩
    | cons first before =>
      rw [List.cons_append, List.cons.injEq] at hTokens
      obtain ⟨rfl, hMore⟩ := hTokens
      rw [List.countP_cons_of_pos hFirst, List.getElem?_cons_succ]
      exact ih hMore

end Refers

theorem Expr.derives_of_parse {text : String} {e : Expr} (h : Expr.parse text = .ok e) :
    ∃ ts, Token.scan text = .ok ts ∧ Derives nestingLimit .alternatives ts e := by
  obtain ⟨-, ts, hScan, hTokens⟩ := read_eq_ok_iff.mp (Except.mapError_eq_ok_iff.mp h)
  exact ⟨ts, hScan, (ofTokens_eq_ok_iff.mp hTokens).2⟩

/-- An expression has one reference for each call of its text, in the same order. The reference of
a call names its function, and the stage is the string behind its parenthesis, whole for an outcome
and up to the first point for the others. -/
theorem Expr.stageRefs_of_parse {text : String} {e : Expr} (h : Expr.parse text = .ok e) :
    ∃ ts, Token.scan text = .ok ts ∧ e.stageRefs.length = ts.countP Token.isCall ∧
      ∀ before call after, ts = before ++ call :: after → call.isCall = true →
        ∃ opening argument rest, after = opening :: argument :: rest ∧
          opening.kind = .opening ∧ argument.kind = .string ∧ argument.IsStringIn text.toList ∧
          e.stageRefs[before.countP Token.isCall]? = some ⟨call.value,
            if call.value = "outcome" then argument.value
            else String.ofList (argument.value.toList.takeWhile (· ≠ '.'))⟩ := by
  obtain ⟨ts, hScan, hDerives⟩ := derives_of_parse h
  refine ⟨ts, hScan, hDerives.refers.length_eq, ?_⟩
  rintro before call after rfl hCall
  obtain ⟨_, _, rest, @⟨opening, argument, closing, hOpening, hText, -⟩, rfl, hRef⟩ :=
    hDerives.refers.getElem?_eq hCall
  have hString := Token.isStringIn_of_scan hScan argument (by simp) hText
  refine ⟨opening, argument, closing :: rest, rfl, hOpening, hText, hString, ?_⟩
  rw [hRef, Token.reference, pathHead_eq]

theorem Expr.stageRefs_of_parse_at_negation :
    ∃ e, Expr.parse "!(exists(\"a.b\") || outcome(\"a.b\") == \"exists\")" = .ok e ∧
      e.stageRefs.length = 2 ∧ e.stageRefs[0]? = some ⟨"exists", "a"⟩ ∧
      e.stageRefs[1]? = some ⟨"outcome", "a.b"⟩ := by
  have hParse : Expr.parse "!(exists(\"a.b\") || outcome(\"a.b\") == \"exists\")" =
      .ok (.not (.or (.present "a.b") (.compare .outcome "a.b" .equal "exists"))) := by
    decide +kernel
  let first : List Token := [⟨.not, "!", 0⟩, ⟨.opening, "(", 1⟩]
  let second : List Token := first ++ [⟨.word, "exists", 2⟩, ⟨.opening, "(", 8⟩,
    ⟨.string, "a.b", 9⟩, ⟨.closing, ")", 14⟩, ⟨.or, "||", 16⟩]
  have hTokens : Token.scan "!(exists(\"a.b\") || outcome(\"a.b\") == \"exists\")" =
      .ok (second ++ ⟨.word, "outcome", 19⟩ :: [⟨.opening, "(", 26⟩, ⟨.string, "a.b", 27⟩,
        ⟨.closing, ")", 32⟩, ⟨.equal, "==", 34⟩, ⟨.string, "exists", 37⟩, ⟨.closing, ")", 45⟩]) := by
    decide +kernel
  obtain ⟨ts, hScan, hLength, hEach⟩ := Expr.stageRefs_of_parse hParse
  cases hTokens.symm.trans hScan
  obtain ⟨_, _, _, ⟨⟩, -, -, -, hFirst⟩ := hEach first _ _ rfl rfl
  obtain ⟨_, _, _, ⟨⟩, -, -, -, hSecond⟩ := hEach second _ _ rfl rfl
  refine ⟨_, hParse, hLength.trans (by decide +kernel), hFirst.trans (by decide +kernel), hSecond⟩

end Workflow.Routing
