import Workflow.Context
import Workflow.Proofs.Condition.Separation

/-!
# Keys in conditions

The key of an option stands unquoted in the condition of its edge. After an answer with that key
the condition holds in every context exactly if the key is readable there: trimming leaves it
alone, and it contains neither `&&` nor `!=`.
-/

namespace Workflow

open Workflow.Text

theorem Context.exists_resolve_eq (outcome : Outcome) {key : String} (hOutcome : key ≠ "outcome")
    (hLabel : key ≠ "preferred_label") (text : String) :
    ∃ context : Context, Clause.resolve outcome context.lookup key = text := by
  refine ⟨ofAttrs (Table.empty.insert key (.str text)), ?_⟩
  have hLookup : (ofAttrs (Table.empty.insert key (.str text))).lookup key = .str text := by
    simp [lookup, ofAttrs, Table.attr]
  unfold Clause.resolve
  rw [if_neg hOutcome, if_neg hLabel, hLookup]
  split <;> rfl

/-- The clause that the condition of an option asks for. -/
def keyClause (key : String) : Clause :=
  ⟨"preferred_label", .equal, key⟩

theorem text_keyClause (key : String) : (keyClause key).text = "preferred_label=" ++ key := by
  rw [Clause.text, keyClause, ← String.toList_inj]
  simp [Relation.sign]

/-- The key can be read from the condition of its edge. -/
structure IsReadableKey (key : String) : Prop where
  begins : BeginsUnblank key.toList
  ends : EndsUnblank key.toList
  join : ¬ Occurs "&&" key
  differ : ¬ Occurs "!=" key

theorem isReadableKey_iff {key : String} : IsReadableKey key ↔
    BeginsUnblank key.toList ∧ EndsUnblank key.toList ∧ ¬ Occurs "&&" key ∧ ¬ Occurs "!=" key :=
  ⟨fun ⟨h₁, h₂, h₃, h₄⟩ => ⟨h₁, h₂, h₃, h₄⟩, fun ⟨h₁, h₂, h₃, h₄⟩ => ⟨h₁, h₂, h₃, h₄⟩⟩

instance (key : String) : Decidable (IsReadableKey key) :=
  decidable_of_iff' _ isReadableKey_iff

theorem clauses_key_iff {key : String} :
    Condition.clauses ("preferred_label=" ++ key) = [keyClause key] ↔ IsReadableKey key := by
  have hFirst : (keyClause key).key.toList = 'p' :: "referred_label".toList := by
    simp [keyClause]
  have hJoin : Occurs "&&" (keyClause key).text ↔ Occurs "&&" key := by
    rw [text_keyClause]
    simp [Occurs, pair_infix_cons_iff]
  have hDiffer : Occurs "!=" (keyClause key).text ↔ Occurs "!=" key := by
    rw [text_keyClause]
    simp [Occurs, pair_infix_cons_iff]
  rw [← text_keyClause, Condition.clauses_text_eq_iff hFirst (by decide) (by decide), hJoin]
  constructor
  · rintro ⟨hNone, -, hValue, hSign⟩
    obtain ⟨hBegin, hEnd⟩ := trim_eq_self_iff.mp hValue
    exact ⟨hBegin, hEnd, hNone, fun hOccurs => hSign.2 (hDiffer.mpr hOccurs)⟩
  · rintro ⟨hBegin, hEnd, hNone, hNever⟩
    have hEqual : ¬ Occurs "=" (keyClause key).key := by
      simp [keyClause, Occurs, singleton_infix_iff]
    exact ⟨hNone, (by decide : trim "preferred_label" = "preferred_label"), trim_eq_self_iff.mpr ⟨hBegin, hEnd⟩, hEqual,
      fun hOccurs => hNever (hDiffer.mp hOccurs)⟩

theorem exists_toList_trim_eq_cons {text : String} {first : Char} {rest : List Char}
    (hText : text.toList = first :: rest) (hInk : isBlank first = false) :
    ∃ more, (trim text).toList = first :: more := by
  rw [trim, String.toList_ofList, hText]
  exact exists_trimChars_eq_cons hInk rest

/-- A text that begins with neither a blank nor a sign reads as a clause whose key begins so. -/
theorem Clause.key_parse_trim_begins {text : String} {first : Char} {rest : List Char}
    (hText : text.toList = first :: rest) (hInk : isBlank first = false) (hDiffer : first ≠ '!')
    (hEqual : first ≠ '=') : ∃ more, (parse (trim text)).key.toList = first :: more := by
  obtain ⟨more, hTrim⟩ := exists_toList_trim_eq_cons hText hInk
  have hKey : ∀ {key : String} {signs : List Char} {sign : Char},
      (trim text).toList = key.toList ++ sign :: signs → first ≠ sign →
        ∃ more, (trim key).toList = first :: more := by
    intro key signs sign hCut hSign
    cases hChars : key.toList with
    | nil =>
      rw [hTrim, hChars, List.nil_append] at hCut
      exact absurd (List.cons.inj hCut).1 hSign
    | cons c cs =>
      rw [hTrim, hChars, List.cons_append] at hCut
      rw [← (List.cons.inj hCut).1] at hChars
      exact exists_toList_trim_eq_cons hChars hInk
  obtain ⟨key, value, hCut, -, hParse⟩ | ⟨-, key, value, hCut, -, hParse⟩ | ⟨-, -, hParse⟩ :=
    parse_cases (trim text)
  · rw [hParse]
    exact hKey (by simpa using congrArg String.toList hCut) hDiffer
  · rw [hParse]
    exact hKey (by simpa using congrArg String.toList hCut) hEqual
  · rw [hParse, trim_trim]
    exact ⟨more, hTrim⟩

variable {outcome : Outcome} {key : String}

theorem holds_keyClause {other : String} (h : outcome.preferredLabel.getD "" = other)
    (lookup : String → Value) :
    (keyClause key).holds outcome lookup = (other == key) := by
  simp [Clause.holds, keyClause, Clause.resolve, h, Relation.holds]

theorem exists_context_refuting {read : Clause} (hLabel : outcome.preferredLabel.getD "" = key)
    (hRead : read ≠ keyClause key) (hOutcome : read.key ≠ "outcome")
    (hSign : read.key = "preferred_label" → read.relation = .equal) :
    ∃ context : Context, read.holds outcome context.lookup = false := by
  obtain ⟨first, relation, value⟩ := read
  by_cases hKey : first = "preferred_label"
  · subst hKey
    obtain rfl : relation = .equal := hSign rfl
    have hValue : key ≠ value := fun hEq => hRead (by rw [keyClause, hEq])
    refine ⟨{}, ?_⟩
    exact (holds_keyClause hLabel _).trans (beq_false_of_ne hValue)
  · obtain ⟨text, hText⟩ := relation.exists_holds value false
    obtain ⟨context, hContext⟩ := Context.exists_resolve_eq outcome hOutcome hKey text
    exact ⟨context, by rw [Clause.holds, hContext, hText]⟩

/-- Where a key is not readable, the first clause of its condition is another one. It may ask for
another label, but it cannot ask for any label but one. -/
theorem exists_clauses_eq_cons (hNot : ¬ IsReadableKey key) :
    ∃ read others, Condition.clauses ("preferred_label=" ++ key) = read :: others ∧
      read ≠ keyClause key ∧ read.key ≠ "outcome" ∧
      (read.key = "preferred_label" → read.relation = .equal) := by
  rw [← clauses_key_iff] at hNot
  rw [← text_keyClause] at hNot ⊢
  have hBegin : BeginsUnblank (keyClause key).key.toList := by
    simpa [keyClause] using (by decide : BeginsUnblank "preferred_label".toList)
  have hFirst : (keyClause key).text.toList = 'p' :: ("referred_label=".toList ++ key.toList) := by
    rw [text_keyClause, String.toList_append]
    simp
  have hOutcome : ∀ {part : String} {rest : List Char}, part.toList = 'p' :: rest →
      (Clause.parse (trim part)).key ≠ "outcome" := by
    intro part rest hPart hEq
    obtain ⟨more, hMore⟩ :=
      Clause.key_parse_trim_begins hPart (by decide) (by decide) (by decide)
    rw [hEq] at hMore
    simp at hMore
  obtain ⟨-, hClauses⟩ | ⟨front, back, hText, hClauses⟩ :=
    Condition.clauses_cases hFirst (by decide) (by decide)
  · refine ⟨_, [], hClauses, fun hEq => hNot (by rw [hClauses, hEq]), hOutcome hFirst, ?_⟩
    exact Clause.relation_of_parse_trim_part hBegin rfl (List.append_nil _).symm (by simp)
  · have hFront : ∃ rest, front.toList = 'p' :: rest := by
      rw [hText, String.toList_append, String.toList_append] at hFirst
      cases hChars : front.toList with
      | nil => simp [hChars] at hFirst
      | cons c cs =>
        rw [hChars] at hFirst
        exact ⟨cs, by rw [(List.cons.inj hFirst).1]⟩
    obtain ⟨rest, hFront⟩ := hFront
    refine ⟨_, _, hClauses, Clause.parse_trim_front_ne hText, hOutcome hFront, ?_⟩
    exact Clause.relation_of_parse_trim_front hBegin rfl hText

/-- After an answer with a key, the condition that asks for it holds in every context exactly if
the key is readable. -/
theorem forall_satisfies_iff (hLabel : outcome.preferredLabel.getD "" = key) :
    (∀ context : Context, context.satisfies outcome ("preferred_label=" ++ key) = true) ↔
      IsReadableKey key := by
  constructor
  · intro h
    by_contra hNot
    obtain ⟨read, others, hClauses, hRead, hOutcome, hSign⟩ := exists_clauses_eq_cons hNot
    obtain ⟨context, hFails⟩ := exists_context_refuting hLabel hRead hOutcome hSign
    have hHolds := h context
    rw [Context.satisfies, Condition.holds, hClauses, List.all_cons, hFails] at hHolds
    cases hHolds
  · intro h context
    rw [Context.satisfies, Condition.holds, clauses_key_iff.mpr h, List.all_cons, List.all_nil,
      holds_keyClause hLabel]
    simp

end Workflow
