import Workflow.Proofs.Routing.Grammar
import Workflow.Proofs.Routing.Literal
import Workflow.Proofs.Text.Trim
import Workflow.Routing.Guard

/-!
# Blanks around routing expressions

Blanks behind an expression give no tokens, and blanks before it only move its tokens. The grammar
looks at kinds and values, so a text and the trimmed text are the same expression.
-/

namespace Workflow.Routing

open Workflow.Text

namespace Token

variable {blanks : List Char}

theorem frontSymbol_append_blanks (c : Char) (cs : List Char)
    (hBlanks : ∀ b ∈ blanks, isBlank b = true) :
    frontSymbol c (cs ++ blanks) = frontSymbol c cs := by
  cases cs with
  | cons d cs => unfold frontSymbol; split <;> simp_all
  | nil =>
    cases blanks with
    | nil => rfl
    | cons b blanks =>
      have hBlank := hBlanks b List.mem_cons_self
      have hAnd : b ≠ '&' := ne_of_isBlank hBlank (by decide)
      have hOr : b ≠ '|' := ne_of_isBlank hBlank (by decide)
      have hEqual : b ≠ '=' := ne_of_isBlank hBlank (by decide)
      unfold frontSymbol
      split <;> simp_all

theorem readString_append_of_forall_ne (hQuotes : ∀ b ∈ blanks, b ≠ '"') (read : List Char)
    (index : Nat) (cs : List Char) :
    readString read index (cs ++ blanks) = readString read index cs := by
  rw [readString_eq, readString_eq]
  cases hRead : readLiteral cs with
  | none =>
    rw [readLiteral_append_of_forall_ne hRead hQuotes]
    rfl
  | some r =>
    rw [readLiteral_append hRead]
    simp only [Option.map_some, List.length_append, Nat.add_sub_add_right]

theorem front_append_blanks (c : Char) (cs : List Char)
    (hBlanks : ∀ b ∈ blanks, isBlank b = true) : front c (cs ++ blanks) = front c cs := by
  have hQuotes : ∀ b ∈ blanks, b ≠ '"' := fun b hb => ne_of_isBlank (hBlanks b hb) (by decide)
  have hDigits : ∀ b ∈ blanks, (isDigit b || b == '.') = false := by
    intro b hb
    have hPoint : b ≠ '.' := ne_of_isBlank (hBlanks b hb) (by decide)
    simp [isDigit_eq_false_of_isBlank (hBlanks b hb), hPoint]
  have hWords : ∀ b ∈ blanks, isWordChar b = false := fun b hb =>
    isWordChar_eq_false_of_isBlank (hBlanks b hb)
  unfold front
  simp only [takeWhile_append_of_forall_neg hDigits, takeWhile_append_of_forall_neg hWords,
    frontSymbol_append_blanks c cs hBlanks, readString_append_of_forall_ne hQuotes]

theorem scanFrom_blanks (position skip : Nat) (hBlanks : ∀ b ∈ blanks, isBlank b = true) :
    scanFrom position skip blanks = .ok [] := by
  induction blanks generalizing position skip with
  | nil => rfl
  | cons b blanks ih =>
    rw [List.forall_mem_cons] at hBlanks
    cases skip with
    | zero => simp only [scanFrom, front, hBlanks.1, if_true, ih _ _ hBlanks.2]
    | succ skip => rw [scanFrom, ih _ _ hBlanks.2]

theorem scanFrom_append_blanks (position skip : Nat) (cs : List Char)
    (hBlanks : ∀ b ∈ blanks, isBlank b = true) :
    scanFrom position skip (cs ++ blanks) = scanFrom position skip cs := by
  induction cs generalizing position skip with
  | nil => exact scanFrom_blanks position skip hBlanks
  | cons c cs ih =>
    cases skip with
    | zero => simp only [List.cons_append, scanFrom, front_append_blanks c cs hBlanks, ih]
    | succ skip => rw [List.cons_append, scanFrom, scanFrom, ih]

theorem scanFrom_blanks_append (position : Nat) (cs : List Char)
    (hBlanks : ∀ b ∈ blanks, isBlank b = true) :
    scanFrom position 0 (blanks ++ cs) = scanFrom (position + blanks.length) 0 cs := by
  induction blanks generalizing position with
  | nil => rfl
  | cons b blanks ih =>
    rw [List.forall_mem_cons] at hBlanks
    simp only [List.cons_append, scanFrom, front, hBlanks.1, if_true, ih _ hBlanks.2,
      List.length_cons]
    congr 1
    omega

/-- The token further on in the text. -/
def moved (distance : Nat) (t : Token) : Token :=
  { t with position := t.position + distance }

def movedBack (distance : Nat) (t : Token) : Token :=
  { t with position := t.position - distance }

theorem map_movedBack_map_moved (distance : Nat) (ts : List Token) :
    (ts.map (moved distance)).map (movedBack distance) = ts := by
  rw [List.map_map]
  refine (List.map_congr_left fun t _ => ?_).trans (List.map_id ts)
  simp [moved, movedBack]

theorem scanFrom_add_eq_ok {position distance skip : Nat} {cs : List Char} {ts : List Token}
    (h : scanFrom (position + distance) skip cs = .ok ts) :
    ∃ ts', scanFrom position skip cs = .ok ts' ∧ ts = ts'.map (moved distance) := by
  induction cs generalizing position skip ts with
  | nil =>
    cases h
    exact ⟨[], rfl, rfl⟩
  | cons c cs ih =>
    cases skip with
    | succ skip =>
      rw [scanFrom, Nat.add_right_comm] at h
      exact ih h
    | zero =>
      simp only [scanFrom, Nat.add_right_comm position distance 1] at h ⊢
      cases hFront : front c cs with
      | blank =>
        rw [hFront] at h
        exact ih h
      | token kind value more =>
        rw [hFront] at h
        obtain ⟨after, hAfter, hEq⟩ := Except.bind_eq_ok_iff.mp h
        cases hEq
        obtain ⟨ts', hScan, rfl⟩ := ih hAfter
        exact ⟨⟨kind, String.ofList value, position⟩ :: ts', by simp [hScan, bind, Except.bind], rfl⟩
      | fault describe =>
        rw [hFront] at h
        cases h

theorem IsLiteral.of_same {t t' : Token} (hKind : t'.kind = t.kind) (hValue : t'.value = t.value)
    (h : t.IsLiteral) : t'.IsLiteral := by
  unfold IsLiteral
  rwa [hKind, hValue]

end Token

section Same

variable {f : Token → Token} (hKind : ∀ t, (f t).kind = t.kind) (hValue : ∀ t, (f t).value = t.value)
include hKind hValue

theorem IsArgument.map {argument : List Token} {name : String} (h : IsArgument argument name) :
    IsArgument (argument.map f) name := by
  cases h with
  | @intro opening text closing hOpening hText hClosing =>
    rw [← hValue text]
    exact .intro ((hKind _).trans hOpening) ((hKind _).trans hText) ((hKind _).trans hClosing)

theorem IsCall.map {phrase : List Token} {e : Expr} (h : IsCall phrase e) :
    IsCall (phrase.map f) e := by
  cases h with
  | literal value hWord hName =>
    exact .literal value ((hKind _).trans hWord) ((hValue _).trans hName)
  | present hWord hName hArgument =>
    exact .present ((hKind _).trans hWord) ((hValue _).trans hName) (hArgument.map hKind hValue)
  | @compare t sign word argument name subject relation hWord hName hArgument hSign hLiteral =>
    rw [← hValue word, List.map_cons, List.map_append]
    exact .compare ((hKind _).trans hWord) ((hValue _).trans hName) (hArgument.map hKind hValue)
      ((hKind _).trans hSign) (hLiteral.of_same (hKind _) (hValue _))

/-- The grammar looks at kinds and values alone. -/
theorem Derives.map {depth : Nat} {layer : Layer} {phrase : List Token} {e : Expr}
    (h : Derives depth layer phrase e) : Derives depth layer (phrase.map f) e := by
  induction h with
  | call h => exact .call (h.map hKind hValue)
  | not hNot _ ih => exact .not ((hKind _).trans hNot) ih
  | group hOpening _ hClosing ih =>
    rw [List.map_cons, List.map_append]
    exact .group ((hKind _).trans hOpening) ih ((hKind _).trans hClosing)
  | one _ ih => exact .one ih
  | and _ hAnd _ ihLeft ihRight =>
    rw [List.map_append]
    exact .and ihLeft ((hKind _).trans hAnd) ihRight
  | only _ ih => exact .only ih
  | or _ hOr _ ihLeft ihRight =>
    rw [List.map_append]
    exact .or ihLeft ((hKind _).trans hOr) ihRight

theorem Expr.ofTokens_map {ts : List Token} {e : Expr} (h : Expr.ofTokens ts = .ok e) :
    Expr.ofTokens (ts.map f) = .ok e := by
  obtain ⟨hFew, hDerives⟩ := ofTokens_eq_ok_iff.mp h
  refine ofTokens_eq_ok_iff.mpr ⟨?_, hDerives.map hKind hValue⟩
  have hJoins : Token.joins ∘ f = Token.joins := funext fun t => by simp [Token.joins, hKind]
  rwa [List.countP_map, hJoins]

end Same

theorem Token.scan_trim {text : String} {ts : List Token} (h : Token.scan text = .ok ts) :
    ∃ distance ts', Token.scan (trim text) = .ok ts' ∧ ts = ts'.map (Token.moved distance) := by
  obtain ⟨before, after, hText, hBefore, hAfter⟩ := exists_blank_sides text.toList
  rw [scan, hText, List.append_assoc, scanFrom_blanks_append _ _ hBefore,
    scanFrom_append_blanks _ _ _ hAfter] at h
  obtain ⟨ts', hScan, rfl⟩ := scanFrom_add_eq_ok h
  exact ⟨before.length, ts', by rwa [scan, trim, String.toList_ofList], rfl⟩

theorem allBlank_trim (text : String) : allBlank (trim text) = allBlank text := by
  have hIff : allBlank (trim text) = true ↔ allBlank text = true := by
    simp only [allBlank, List.all_eq_true, ← trimChars_eq_nil_iff, trim, String.toList_ofList,
      trimChars_trimChars]
  exact Bool.eq_iff_iff.mpr hIff

theorem Expr.read_eq_ok_iff {text : String} {e : Expr} :
    Expr.read text = .ok e ↔
      allBlank text = false ∧ ∃ ts, Token.scan text = .ok ts ∧ Expr.ofTokens ts = .ok e := by
  unfold Expr.read
  split
  · rename_i hBlank
    simp [hBlank]
  · rename_i hBlank
    cases Token.scan text <;> simp [hBlank]

theorem Expr.parse_trim {text : String} {e : Expr} (h : Expr.parse text = .ok e) :
    Expr.parse (trim text) = .ok e := by
  obtain ⟨hSome, ts, hScan, hTokens⟩ := read_eq_ok_iff.mp (Except.mapError_eq_ok_iff.mp h)
  obtain ⟨distance, ts', hScan', rfl⟩ := Token.scan_trim hScan
  refine Except.mapError_eq_ok_iff.mpr (read_eq_ok_iff.mpr ⟨?_, ts', hScan', ?_⟩)
  · rwa [allBlank_trim]
  · rw [← Token.map_movedBack_map_moved distance ts']
    exact ofTokens_map (f := Token.movedBack distance) (fun _ => rfl) (fun _ => rfl) hTokens

theorem Guard.compile_eq_ok_iff {text : String} {guard : Guard} :
    Guard.compile text = .ok guard ↔ ∃ e, Expr.parse text = .ok e ∧ e.guard = .ok guard := by
  simp only [Guard.compile, Except.bind_eq_ok_iff, Except.mapError_eq_ok_iff]

theorem Guard.compile_trim {text : String} {guard : Guard} (h : Guard.compile text = .ok guard) :
    Guard.compile (trim text) = .ok guard := by
  obtain ⟨e, hParse, hGuard⟩ := compile_eq_ok_iff.mp h
  exact compile_eq_ok_iff.mpr ⟨e, Expr.parse_trim hParse, hGuard⟩

theorem Guard.compile_empty : Guard.compile "" = .error ⟨.empty, ""⟩ := rfl

theorem Guard.compile_true : Guard.compile "true" = .ok .always := by
  decide +kernel

/-- The short cut for blank and true texts gives what compiling gives. -/
theorem edgeConditions_of_compile {text : String} {guard : Guard}
    (h : Guard.compile text = .ok guard) : edgeConditions (some text) = .ok guard.conditions := by
  have hTrim := Guard.compile_trim h
  simp only [edgeConditions]
  split
  · rename_i hShort
    obtain hEmpty | hTrue := hShort
    · rw [hEmpty, Guard.compile_empty] at hTrim
      cases hTrim
    · rw [hTrue, Guard.compile_true] at hTrim
      cases hTrim
      rfl
  · rw [hTrim]
    rfl

end Workflow.Routing
