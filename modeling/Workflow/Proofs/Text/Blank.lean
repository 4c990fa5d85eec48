import Workflow.Text.Blank
import Workflow.Text.Literal
import Workflow.Text.Numeral

/-!
# Blanks beside words, numbers and literals

No blank is a letter, a numeral or a digit, so blanks after a word or a number do not make it
longer. A literal ends at its closing quote, and blanks do not bring one.
-/

namespace Workflow.Text

/-- Whether two classes have no character in common. -/
def Ranges.disjoint (left right : Ranges) : Bool :=
  left.all fun l => right.all fun r => l.2 < r.1 || r.2 < l.1

theorem Ranges.covers_eq_false_of_disjoint {left right : Ranges} {c : Char}
    (hDisjoint : left.disjoint right = true) (hLeft : left.covers c = true) :
    right.covers c = false := by
  obtain ⟨l, hl, hLow, hHigh⟩ := (covers_iff left c).mp hLeft
  rw [← Bool.not_eq_true, covers_iff]
  rintro ⟨r, hr, hLow', hHigh'⟩
  have hApart := List.all_eq_true.mp (List.all_eq_true.mp hDisjoint l hl) r hr
  simp only [Bool.or_eq_true, decide_eq_true_eq] at hApart
  omega

variable {c : Char}

theorem ne_of_isBlank {d : Char} (hBlank : isBlank c = true) (hInk : isBlank d = false) : c ≠ d := by
  rintro rfl
  simp [hBlank] at hInk

/-- The letters and digits of ASCII. -/
def asciiRanges : Ranges :=
  [(48, 57), (65, 90), (97, 122)]

theorem covers_asciiRanges_of_isAlphanum (h : c.isAlphanum = true) : asciiRanges.covers c = true := by
  have hClasses : c.isAlphanum = ((decide (c.val ≥ 65 ∧ c.val ≤ 90) ||
      (decide (c.val ≥ 97) && decide (c.val ≤ 122))) ||
      (decide (c.val ≥ 48) && decide (c.val ≤ 57))) := rfl
  simp only [hClasses, Bool.or_eq_true, Bool.and_eq_true, decide_eq_true_eq, ge_iff_le,
    UInt32.le_iff_toNat_le] at h
  rw [Ranges.covers_iff]
  obtain (hUpper | hLower) | hDigit := h
  · exact ⟨(65, 90), by simp [asciiRanges], hUpper⟩
  · exact ⟨(97, 122), by simp [asciiRanges], hLower⟩
  · exact ⟨(48, 57), by simp [asciiRanges], hDigit⟩

theorem isAlphanum_eq_false_of_isBlank (h : isBlank c = true) : c.isAlphanum = false := by
  have hOther : asciiRanges.covers c = false :=
    Ranges.covers_eq_false_of_disjoint (by decide) h
  rw [← Bool.not_eq_true] at hOther ⊢
  exact fun hAlphanum => hOther (covers_asciiRanges_of_isAlphanum hAlphanum)

theorem isDigit_eq_false_of_isBlank (h : isBlank c = true) : isDigit c = false := by
  have hAscii := isAlphanum_eq_false_of_isBlank h
  rw [Char.isAlphanum, Bool.or_eq_false_iff] at hAscii
  have hOther : digitRanges.covers c = false :=
    Ranges.covers_eq_false_of_disjoint (by decide +kernel) h
  simp [isDigit, hAscii, hOther]

theorem isWordChar_eq_false_of_isBlank (h : isBlank c = true) : isWordChar c = false := by
  have hAscii := isAlphanum_eq_false_of_isBlank h
  rw [Char.isAlphanum, Bool.or_eq_false_iff] at hAscii
  have hLetter : letterRanges.covers c = false :=
    Ranges.covers_eq_false_of_disjoint (by decide +kernel) h
  have hNumeral : numeralRanges.covers c = false :=
    Ranges.covers_eq_false_of_disjoint (by decide +kernel) h
  have hLine : c ≠ '_' := ne_of_isBlank h (by decide)
  simp [isWordChar, isAlphanumeric, isLetter, isNumeral, hAscii, hLetter, hNumeral, hLine]

variable {cs blanks : List Char}

theorem takeWhile_append_of_forall_neg {p : Char → Bool} (h : ∀ b ∈ blanks, p b = false) :
    (cs ++ blanks).takeWhile p = cs.takeWhile p := by
  have hNone : blanks.takeWhile p = [] := by
    cases blanks with
    | nil => rfl
    | cons b blanks => exact List.takeWhile_cons_of_neg (by simp [h b])
  rw [List.takeWhile_append, hNone]
  split
  · rename_i hWhole
    rw [List.append_nil, (List.takeWhile_prefix p).eq_of_length hWhole]
  · rfl

theorem readLiteral_cons_of_ne (hQuote : c ≠ '"') (hSlash : c ≠ '\\') :
    readLiteral (c :: cs) = (readLiteral cs).map fun read => (c :: read.1, read.2) := by
  rw [readLiteral]
  · exact hQuote
  · intro d tail h
    exact absurd h hSlash

theorem readLiteral_append {text rest more : List Char} (h : readLiteral cs = some (text, rest)) :
    readLiteral (cs ++ more) = some (text, rest ++ more) := by
  fun_induction readLiteral cs generalizing text with
  | case1 => cases h
  | case2 rest' =>
    cases h
    rfl
  | case3 c tail ih =>
    obtain ⟨⟨text, rest⟩, hRead, hEq⟩ := Option.map_eq_some_iff.mp h
    cases hEq
    rw [List.cons_append, List.cons_append, readLiteral, ih hRead]
    rfl
  | case4 c tail hQuote hLast ih =>
    obtain ⟨⟨text, rest⟩, hRead, hEq⟩ := Option.map_eq_some_iff.mp h
    cases hEq
    have hSlash : c ≠ '\\' := by
      intro hSlash
      cases tail with
      | nil => cases hRead
      | cons d tail => exact hLast d tail hSlash rfl
    rw [List.cons_append, readLiteral_cons_of_ne hQuote hSlash, ih hRead]
    rfl

theorem readLiteral_eq_none_of_forall_ne (h : ∀ c ∈ cs, c ≠ '"') : readLiteral cs = none := by
  fun_induction readLiteral cs with
  | case1 => rfl
  | case2 rest => exact absurd rfl (h '"' List.mem_cons_self)
  | case3 c tail ih =>
    rw [ih fun d hd => h d (List.mem_cons_of_mem _ (List.mem_cons_of_mem _ hd))]
    rfl
  | case4 c tail hQuote hLast ih =>
    rw [ih fun d hd => h d (List.mem_cons_of_mem _ hd)]
    rfl

theorem readLiteral_append_of_forall_ne (h : readLiteral cs = none)
    (hMore : ∀ b ∈ blanks, b ≠ '"') : readLiteral (cs ++ blanks) = none := by
  fun_induction readLiteral cs with
  | case1 => exact readLiteral_eq_none_of_forall_ne hMore
  | case2 rest => cases h
  | case3 c tail ih =>
    rw [List.cons_append, List.cons_append, readLiteral, ih (Option.map_eq_none_iff.mp h)]
    rfl
  | case4 c tail hQuote hLast ih =>
    by_cases hSlash : c = '\\'
    · -- a backslash at the very end takes the first of the characters that follow
      subst hSlash
      cases tail with
      | nil =>
        refine readLiteral_eq_none_of_forall_ne ?_
        rw [List.singleton_append, List.forall_mem_cons]
        exact ⟨by decide, hMore⟩
      | cons d tail => exact absurd rfl (hLast d tail rfl)
    · rw [List.cons_append, readLiteral_cons_of_ne hQuote hSlash, ih (Option.map_eq_none_iff.mp h)]
      rfl

end Workflow.Text
