import Workflow.Proofs.Lowering
import Workflow.Proofs.Source.Written

/-!
# Why a source does not compile

A source that does not compile is malformed or has errors that validation finds, or else reading it
stops at an integer with too many digits. Lowering itself does not fail.
-/

namespace Workflow

open Workflow.Source Token

namespace Definition

variable {source : String} {ts : List Token}

def StopsAtLong (source : String) (count : Nat) : Prop :=
  parse source = .error (.tooManyDigits count) ∧ ∃ ts, scan source = .ok ts ∧ HasLong count ts

theorem parse_error_cases {e : ReadError} (h : parse source = .error e) :
    (∃ p, e = .malformed p) ∨ ∃ count, e = .tooManyDigits count ∧ StopsAtLong source count := by
  have hParse := h
  simp only [parse, Except.bind_eq_error_iff, Except.mapError_eq_error_iff,
    Except.mapError_eq_ok_iff] at h
  obtain ⟨fault, -, rfl⟩ | ⟨ts, hScan, ⟨treeFault, hRead, rfl⟩ | ⟨nodes, -, fault, -, rfl⟩⟩ := h
  · exact Or.inl ⟨_, rfl⟩
  · cases treeFault with
    | grammar fault found => cases found <;> exact Or.inl ⟨_, rfl⟩
    | tooManyDigits count =>
      exact Or.inr ⟨count, rfl, hParse, ts, hScan, hasLong_of_ofTokens hRead⟩
  · exact Or.inl ⟨_, rfl⟩

theorem compile_error_cases {d : Definition} (hPriorities : d.HasPriorities) {e : LoweringError}
    (h : d.compile = .error e) : ∃ errors, e = .rejected errors := by
  by_cases hAccepted : d.IsAccepted
  · obtain ⟨graph, hCompile⟩ := hAccepted.exists_compile_eq_ok hPriorities
    cases hCompile.symm.trans h
  · cases (compile_eq_error hAccepted).symm.trans h
    exact ⟨_, rfl⟩

theorem parse_eq_tooManyDigits_iff {d : Derivation .elements} (hScan : scan source = .ok ts)
    (hDocument : d.IsDocument ts) :
    (∃ count, parse source = .error (.tooManyDigits count)) ↔ ∃ t ∈ ts, ¬ t.IsShort := by
  constructor
  · rintro ⟨count, h⟩
    obtain ⟨p, hMalformed⟩ | ⟨_, -, -, ts', hScan', t, hMem, hLong, -⟩ := parse_error_cases h
    · cases hMalformed
    · cases hScan.symm.trans hScan'
      exact ⟨t, hMem, hLong⟩
  · rintro ⟨t, hMem, hLong⟩
    obtain ⟨count, hRead⟩ := hDocument.givesIf.2 fun hShort => hLong (hShort t hMem)
    refine ⟨count, ?_⟩
    rw [parse, hScan]
    simp only [Except.mapError, bind, Except.bind, hRead]
    rfl

end Definition

theorem compile_source_error_cases {source : String} {e : CompileError}
    (h : compile source = .error e) :
    (∃ p, e = .unreadable (.malformed p)) ∨ (∃ errors, e = .unlowered (.rejected errors)) ∨
      ∃ count, e = .unreadable (.tooManyDigits count) ∧ Definition.StopsAtLong source count := by
  cases hParse : Definition.parse source with
  | error readError =>
    rw [compile, hParse] at h
    cases h
    obtain ⟨p, rfl⟩ | ⟨count, rfl, hStops⟩ := Definition.parse_error_cases hParse
    · exact Or.inl ⟨p, rfl⟩
    · exact Or.inr (Or.inr ⟨count, rfl, hStops⟩)
  | ok d =>
    rw [compile_eq_of_parse hParse] at h
    cases hCompile : d.compile with
    | ok c =>
      rw [hCompile] at h
      cases h
    | error loweringError =>
      rw [hCompile] at h
      cases h
      have hPriorities := Definition.hasPriorities_parse hParse
      obtain ⟨errors, rfl⟩ := Definition.compile_error_cases hPriorities hCompile
      exact Or.inr (Or.inl ⟨errors, rfl⟩)

/-- Reading and compiling fail for reasons of their own, except where an integer of the source has
more than 4300 digits. In a document nothing else is needed for that. -/
theorem error_is_own_or_at_long_integer (source : String) :
    (∀ e, Definition.parse source = .error e →
      (∃ p, e = .malformed p) ∨
        ∃ count, e = .tooManyDigits count ∧ Definition.StopsAtLong source count) ∧
    (∀ e, compile source = .error e →
      (∃ p, e = .unreadable (.malformed p)) ∨ (∃ errors, e = .unlowered (.rejected errors)) ∨
        ∃ count, e = .unreadable (.tooManyDigits count) ∧ Definition.StopsAtLong source count) ∧
    ∀ ts, ∀ d : Derivation .elements, scan source = .ok ts → d.IsDocument ts →
      ((∃ count, Definition.parse source = .error (.tooManyDigits count)) ↔
        ∃ t ∈ ts, ¬ t.IsShort) :=
  ⟨fun _ => Definition.parse_error_cases, fun _ => compile_source_error_cases,
    fun _ _ => Definition.parse_eq_tooManyDigits_iff⟩

/-- A number of 4301 digits behind a word is enough. -/
theorem parse_eq_tooManyDigits_at_version :
    Definition.parse (String.ofList ("version ".toList ++ List.replicate 4301 '1')) =
        .error (.tooManyDigits 4301) ∧
      compile (String.ofList ("version ".toList ++ List.replicate 4301 '1')) =
        .error (.unreadable (.tooManyDigits 4301)) := by
  have hDigits : ∀ c ∈ List.replicate 4301 '1', c.isDigit = true := fun c hc =>
    (List.eq_of_mem_replicate hc) ▸ rfl
  have hNumber := spells_frontNumber (c := '1') (Or.inl rfl) fun c hc =>
    hDigits c (List.mem_cons_of_mem _ hc)
  have hWord : Token.IsWord "version" := by decide +kernel
  have hText := (spells_word hWord).append hNumber.behind_blank
    (P := fun ts => ∃ name number : Token, ts = [name, number] ∧ name.kind = .word ∧
      number.kind = .number ∧ number.value.toList = List.replicate 4301 '1')
    (fun _ _ => delimited_cons (by simp)) (by
      rintro ts us ⟨name, rfl, hName, -⟩ ⟨number, rfl, hNumber⟩
      exact ⟨name, number, rfl, hName, hNumber⟩)
  obtain ⟨_, ⟨name, number, rfl, hName, hKind, hValue⟩, hScan⟩ := hText.exists_scan nofun
  have hCount : number.digits = 4301 := by
    rw [Token.digits, hValue, Number.splitSign_of_digits hDigits, List.length_replicate]
  have hLong : ¬ number.IsShort := by
    intro hShort
    have hPoint : '.' ∉ number.value.toList := by
      rw [hValue]
      exact fun hMem => absurd (List.eq_of_mem_replicate hMem) (by decide)
    have hFew := hShort hKind hPoint
    omega
  let d : Derivation .elements :=
    .node (.line name hName [.argument number (Or.inr (Or.inl hKind))]) .done
  have hDocument : d.IsDocument [name, number] :=
    ⟨rfl, by simp [d, Derivation.IsSeparated, Derivation.tokens], Nat.zero_le _⟩
  obtain ⟨count, hParse⟩ := (Definition.parse_eq_tooManyDigits_iff hScan hDocument).mpr
    ⟨number, by simp, hLong⟩
  obtain ⟨p, hMalformed⟩ | ⟨_, hEq, -, ts, hScan', t, hMem, hLongToken, hDigits⟩ :=
    Definition.parse_error_cases hParse
  · cases hMalformed
  cases hEq
  cases hScan.symm.trans hScan'
  have hNumber : t = number := by
    obtain rfl | hNumber := List.mem_cons.mp hMem
    · exact absurd (Token.isShort_of_kind_ne (by simp [hName])) hLongToken
    · exact List.mem_singleton.mp hNumber
  rw [hNumber, hCount] at hDigits
  subst hDigits
  have hSource : "version ".toList ++ List.replicate 4301 '1' =
      "version".toList ++ ' ' :: '1' :: List.replicate 4300 '1' := rfl
  rw [hSource]
  exact ⟨hParse, by rw [compile, hParse]; rfl⟩

end Workflow
