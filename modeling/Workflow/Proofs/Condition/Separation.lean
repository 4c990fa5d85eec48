import Workflow.Proofs.Condition.Clauses

/-!
# Runs that tell clauses apart

A run can give any text to any key. So the text of a clause has the truth value of the clause in
every run only if it reads back as that clause.
-/

namespace Workflow

open Workflow.Text

theorem exists_text_ne (left right : String) : ∃ text, text ≠ left ∧ text ≠ right := by
  refine ⟨left ++ right ++ "x", fun h => ?_, fun h => ?_⟩
  · have hLength := congrArg (fun s => s.toList.length) h
    simp only [String.toList_append, List.length_append] at hLength
    have hOne : "x".toList.length = 1 := rfl
    omega
  · have hLength := congrArg (fun s => s.toList.length) h
    simp only [String.toList_append, List.length_append] at hLength
    have hOne : "x".toList.length = 1 := rfl
    omega

theorem Relation.exists_holds (relation : Relation) (value : String) (truth : Bool) :
    ∃ text, relation.holds text value = truth := by
  obtain ⟨other, hOther, -⟩ := exists_text_ne value value
  cases relation <;> cases truth
  · exact ⟨other, by simp [holds, hOther]⟩
  · exact ⟨value, by simp [holds]⟩
  · exact ⟨value, by simp [holds]⟩
  · exact ⟨other, by simp [holds, hOther]⟩

namespace Clause

theorem exists_resolve_eq (texts : String → String) :
    ∃ outcome lookup, ∀ key, resolve outcome lookup key = texts key := by
  refine ⟨{ status := .raw (texts "outcome"), preferredLabel := some (texts "preferred_label") },
    fun key => .str (texts key), fun key => ?_⟩
  unfold resolve
  split
  · rename_i h
    rw [h]
    rfl
  · split
    · rename_i h
      rw [h]
      rfl
    · split <;> rfl

/-- Two clauses differ in some run where the second holds, unless the first refutes another value
than the one the second asserts. -/
theorem exists_run_separating {read meant : Clause} (h : read ≠ meant)
    (hSign : ¬ (read.key = meant.key ∧ read.relation = .differ ∧ meant.relation = .equal)) :
    ∃ outcome lookup, meant.holds outcome lookup = true ∧ read.holds outcome lookup = false := by
  obtain ⟨readKey, readRelation, readValue⟩ := read
  obtain ⟨meantKey, meantRelation, meantValue⟩ := meant
  by_cases hKey : readKey = meantKey
  · subst hKey
    obtain ⟨text, hMeant, hRead⟩ : ∃ text, meantRelation.holds text meantValue = true ∧
        readRelation.holds text readValue = false := by
      obtain ⟨other, hRead, hMeant⟩ := exists_text_ne readValue meantValue
      cases readRelation <;> cases meantRelation
      · have hValue : meantValue ≠ readValue := by simpa [eq_comm] using h
        exact ⟨meantValue, by simp [Relation.holds], by simp [Relation.holds, hValue]⟩
      · exact ⟨other, by simp [Relation.holds, hMeant], by simp [Relation.holds, hRead]⟩
      · exact absurd ⟨rfl, rfl, rfl⟩ hSign
      · have hValue : readValue ≠ meantValue := by simpa using h
        exact ⟨readValue, by simp [Relation.holds, hValue], by simp [Relation.holds]⟩
    obtain ⟨outcome, lookup, hRun⟩ := exists_resolve_eq fun _ => text
    exact ⟨outcome, lookup, by simp [holds, hRun, hMeant], by simp [holds, hRun, hRead]⟩
  · obtain ⟨meantText, hMeant⟩ := meantRelation.exists_holds meantValue true
    obtain ⟨readText, hRead⟩ := readRelation.exists_holds readValue false
    obtain ⟨outcome, lookup, hRun⟩ :=
      exists_resolve_eq fun key => if key = meantKey then meantText else readText
    exact ⟨outcome, lookup, by simp [holds, hRun, hMeant], by simp [holds, hRun, hKey, hRead]⟩

theorem exists_run_holds_ne {read meant : Clause} (h : read ≠ meant) :
    ∃ outcome lookup, read.holds outcome lookup ≠ meant.holds outcome lookup := by
  by_cases hDenies : read.key = meant.key ∧ read.relation = .differ ∧ meant.relation = .equal
  · -- a text that is neither value makes the denial true and the equality false
    obtain ⟨other, hRead, hMeant⟩ := exists_text_ne read.value meant.value
    obtain ⟨outcome, lookup, hRun⟩ := exists_resolve_eq fun _ => other
    refine ⟨outcome, lookup, ?_⟩
    simp only [holds, hRun, hDenies, Relation.holds]
    rw [beq_eq_false_iff_ne.mpr hMeant, bne_iff_ne.mpr hRead]
    decide
  · obtain ⟨outcome, lookup, hMeant, hRead⟩ := exists_run_separating h hDenies
    exact ⟨outcome, lookup, by simp [hMeant, hRead]⟩

theorem toList_text_of_equal {c : Clause} (h : c.relation = .equal) :
    c.text.toList = c.key.toList ++ '=' :: c.value.toList := by
  simp [text, h, Relation.sign]

theorem beginsUnblank_of_text_eq {c : Clause} (hBegin : BeginsUnblank c.key.toList)
    (hRelation : c.relation = .equal) {part rest : List Char} (hText : c.text.toList = part ++ rest) :
    BeginsUnblank part := by
  have hAll : BeginsUnblank c.text.toList := by
    rw [toList_text_of_equal hRelation]
    exact hBegin.append (beginsUnblank_cons.mpr (by decide))
  exact BeginsUnblank.of_isPrefix (hText ▸ List.prefix_append part rest) hAll

/-- In the text of an equality, nothing but its sign follows the key. -/
theorem trimChars_ne_key {c : Clause} (hBegin : BeginsUnblank c.key.toList)
    (hRelation : c.relation = .equal) {part rest : List Char} {x : Char}
    (hText : c.text.toList = part ++ x :: rest) (hx : x ≠ '=') :
    trimChars part ≠ c.key.toList := by
  intro h
  obtain ⟨blanks, hPart, hAll⟩ := exists_blank_end (beginsUnblank_of_text_eq hBegin hRelation hText)
  rw [toList_text_of_equal hRelation, hPart, h, List.append_assoc,
    List.append_cancel_left_eq] at hText
  cases blanks with
  | nil => exact hx (List.cons.inj hText).1.symm
  | cons b blanks =>
    have hEqual := hAll b List.mem_cons_self
    rw [← (List.cons.inj hText).1] at hEqual
    exact absurd hEqual (by decide)

/-- The first part of the text of an equality cannot deny a value at the same key, unless it ends
right before the sign. -/
theorem relation_of_parse_trim_part {c : Clause} (hBegin : BeginsUnblank c.key.toList)
    (hRelation : c.relation = .equal) {part : String} {rest : List Char}
    (hText : c.text.toList = part.toList ++ rest) (hRest : ∀ more, rest ≠ '=' :: more)
    (hKey : (parse (trim part)).key = c.key) : (parse (trim part)).relation = .equal := by
  obtain ⟨blanks, hPart, hAll⟩ := exists_blank_end (beginsUnblank_of_text_eq hBegin hRelation hText)
  obtain ⟨key, value, hTrim, -, hParse⟩ | ⟨-, key, value, -, -, hParse⟩ | ⟨-, -, hParse⟩ :=
    parse_cases (trim part)
  · have hTrim : trimChars part.toList = key.toList ++ '!' :: '=' :: value.toList := by
      simpa [trim] using congrArg String.toList hTrim
    have hSeam : c.text.toList = key.toList ++ '!' :: ('=' :: value.toList ++ blanks ++ rest) := by
      rw [hText, hPart, hTrim]
      simp
    have hRead : trimChars key.toList = c.key.toList := by
      rw [← hKey, hParse, trim, String.toList_ofList]
    exact absurd hRead (trimChars_ne_key hBegin hRelation hSeam (by decide))
  · rw [hParse]
  · have hRead : trimChars part.toList = c.key.toList := by
      rw [← hKey, hParse, trim_trim, trim, String.toList_ofList]
    rw [hPart, hRead, toList_text_of_equal hRelation, List.append_assoc,
      List.append_cancel_left_eq] at hText
    cases blanks with
    | nil => exact absurd hText.symm (hRest _)
    | cons b blanks =>
      have hEqual := hAll b List.mem_cons_self
      rw [← (List.cons.inj hText).1] at hEqual
      exact absurd hEqual (by decide)

/-- A piece that `&&` cuts from the text of an equality cannot deny a value at the same key. -/
theorem relation_of_parse_trim_front {c : Clause} (hBegin : BeginsUnblank c.key.toList)
    (hRelation : c.relation = .equal) {front back : String}
    (hText : c.text = front ++ "&&" ++ back) (hKey : (parse (trim front)).key = c.key) :
    (parse (trim front)).relation = .equal := by
  have hChars : c.text.toList = front.toList ++ '&' :: '&' :: back.toList := by
    simp [hText]
  exact relation_of_parse_trim_part hBegin hRelation hChars (by simp) hKey

/-- A clause text has the truth value of its clause in every run only if it reads back as that
clause alone. -/
theorem holds_text_iff {c : Clause} {first : Char} {rest : List Char}
    (hFirst : c.key.toList = first :: rest) (hInk : isBlank first = false) (hSign : first ≠ '&') :
    (∀ outcome lookup, Condition.holds c.text outcome lookup = c.holds outcome lookup) ↔
      Condition.clauses c.text = [c] := by
  constructor
  · intro h
    have hText : c.text.toList = first :: (rest ++ c.relation.sign.toList ++ c.value.toList) := by
      simp [text, hFirst]
    obtain ⟨-, hClauses⟩ | ⟨front, back, hFront, hClauses⟩ :=
      Condition.clauses_cases hText hInk hSign
    · by_contra hOther
      rw [hClauses, List.cons.injEq] at hOther
      obtain ⟨outcome, lookup, hRuns⟩ := exists_run_holds_ne fun hRead => hOther ⟨hRead, rfl⟩
      exact hRuns (by simpa [Condition.holds, hClauses] using h outcome lookup)
    · have hDenies : ¬ ((parse (trim front)).key = c.key ∧
          (parse (trim front)).relation = .differ ∧ c.relation = .equal) := by
        rintro ⟨hKey, hDiffer, hEqual⟩
        have hBegin : BeginsUnblank c.key.toList := hFirst ▸ beginsUnblank_cons.mpr hInk
        rw [relation_of_parse_trim_front hBegin hEqual hFront hKey] at hDiffer
        cases hDiffer
      obtain ⟨outcome, lookup, hMeant, hRead⟩ :=
        exists_run_separating (parse_trim_front_ne hFront) hDenies
      have hValue := h outcome lookup
      simp [Condition.holds, hClauses, hMeant, hRead] at hValue
  · intro h outcome lookup
    simp [Condition.holds, h]

end Clause

end Workflow
