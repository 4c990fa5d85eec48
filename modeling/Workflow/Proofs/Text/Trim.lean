import Mathlib.Data.List.Induction
import Mathlib.Data.List.TakeWhile
import Workflow.Text.Blank

/-!
# What trimming removes

A text is a run of blanks, the trimmed text and another run of blanks. The trimmed text neither
begins nor ends with a blank, and a text with that property is left as it is.
-/

namespace Workflow.Text

def BeginsUnblank (cs : List Char) : Prop :=
  ∀ c ∈ cs.head?, isBlank c = false

def EndsUnblank (cs : List Char) : Prop :=
  ∀ c ∈ cs.getLast?, isBlank c = false

instance (cs : List Char) : Decidable (BeginsUnblank cs) :=
  Option.decidableForallMem cs.head?

instance (cs : List Char) : Decidable (EndsUnblank cs) :=
  Option.decidableForallMem cs.getLast?

theorem beginsUnblank_cons {c : Char} {cs : List Char} :
    BeginsUnblank (c :: cs) ↔ isBlank c = false := by
  simp [BeginsUnblank]

theorem BeginsUnblank.append {before after : List Char} (hBefore : BeginsUnblank before)
    (hAfter : BeginsUnblank after) : BeginsUnblank (before ++ after) := by
  cases before with
  | nil => exact hAfter
  | cons c before => exact beginsUnblank_cons.mpr (beginsUnblank_cons.mp hBefore)

theorem EndsUnblank.append {before after : List Char} (hBefore : EndsUnblank before)
    (hAfter : EndsUnblank after) : EndsUnblank (before ++ after) := by
  intro c hc
  rw [Option.mem_def, List.getLast?_append, Option.or_eq_some_iff] at hc
  exact hc.elim (hAfter c) fun h => hBefore c h.2

/-- Behind a part that does not end with a blank, only the last part counts. -/
theorem endsUnblank_append_iff {before after : List Char} (hBefore : EndsUnblank before) :
    EndsUnblank (before ++ after) ↔ EndsUnblank after := by
  refine ⟨fun h c hc => h c ?_, hBefore.append⟩
  rw [Option.mem_def] at hc ⊢
  rw [List.getLast?_append, hc, Option.some_or]

theorem dropEnd_isPrefix (p : Char → Bool) (cs : List Char) : dropEnd p cs <+: cs := by
  have h := List.reverse_prefix.mpr (List.dropWhile_suffix p (l := cs.reverse))
  simpa [dropEnd] using h

theorem endsUnblank_dropEnd (cs : List Char) : EndsUnblank (dropEnd isBlank cs) := by
  intro c hc
  have h := List.head?_dropWhile_not isBlank cs.reverse
  rw [dropEnd, List.getLast?_reverse, Option.mem_def] at hc
  rw [hc] at h
  simpa using h

theorem beginsUnblank_dropWhile (cs : List Char) : BeginsUnblank (cs.dropWhile isBlank) := by
  intro c hc
  have h := List.head?_dropWhile_not isBlank cs
  rw [Option.mem_def.mp hc] at h
  simpa using h

theorem dropWhile_eq_self {cs : List Char} (h : BeginsUnblank cs) : cs.dropWhile isBlank = cs := by
  cases cs with
  | nil => rfl
  | cons c cs => rw [List.dropWhile_cons_of_neg (by simp [h c rfl])]

theorem dropEnd_eq_self {cs : List Char} (h : EndsUnblank cs) : dropEnd isBlank cs = cs := by
  have hReverse : BeginsUnblank cs.reverse := by simpa [BeginsUnblank, EndsUnblank] using h
  rw [dropEnd, dropWhile_eq_self hReverse, List.reverse_reverse]

theorem BeginsUnblank.of_isPrefix {before cs : List Char} (h : before <+: cs)
    (hCs : BeginsUnblank cs) : BeginsUnblank before := by
  intro c hc
  obtain ⟨after, rfl⟩ := h
  exact hCs c (by simp [Option.mem_def.mp hc])

theorem beginsUnblank_trimChars (cs : List Char) : BeginsUnblank (trimChars cs) :=
  (beginsUnblank_dropWhile cs).of_isPrefix (dropEnd_isPrefix _ _)

theorem endsUnblank_trimChars (cs : List Char) : EndsUnblank (trimChars cs) :=
  endsUnblank_dropEnd _

theorem trimChars_eq_self_iff {cs : List Char} :
    trimChars cs = cs ↔ BeginsUnblank cs ∧ EndsUnblank cs := by
  constructor
  · intro h
    exact h ▸ ⟨beginsUnblank_trimChars cs, endsUnblank_trimChars cs⟩
  · rintro ⟨hBegin, hEnd⟩
    rw [trimChars, dropWhile_eq_self hBegin, dropEnd_eq_self hEnd]

@[simp] theorem trimChars_trimChars (cs : List Char) : trimChars (trimChars cs) = trimChars cs :=
  trimChars_eq_self_iff.mpr ⟨beginsUnblank_trimChars cs, endsUnblank_trimChars cs⟩

theorem trimChars_isInfix (cs : List Char) : trimChars cs <:+: cs :=
  (dropEnd_isPrefix _ _).isInfix.trans (List.dropWhile_suffix _).isInfix

theorem length_trimChars_le (cs : List Char) : (trimChars cs).length ≤ cs.length :=
  (trimChars_isInfix cs).length_le

theorem trimChars_blank_cons {c : Char} (cs : List Char) (h : isBlank c = true) :
    trimChars (c :: cs) = trimChars cs := by
  rw [trimChars, List.dropWhile_cons_of_pos h, trimChars]

theorem trimChars_append_blank {c : Char} (cs : List Char) (h : isBlank c = true) :
    trimChars (cs ++ [c]) = trimChars cs := by
  rw [trimChars, trimChars, List.dropWhile_append]
  split
  · rename_i hEmpty
    rw [List.isEmpty_iff.mp hEmpty, List.dropWhile_cons_of_pos h]
    rfl
  · rw [dropEnd_append_singleton, if_pos h]

theorem trimChars_append_blanks (cs : List Char) {blanks : List Char}
    (h : ∀ c ∈ blanks, isBlank c = true) : trimChars (cs ++ blanks) = trimChars cs := by
  induction blanks using List.reverseRecOn with
  | nil => rw [List.append_nil]
  | append_singleton blanks c ih =>
    rw [List.forall_mem_append] at h
    rw [← List.append_assoc, trimChars_append_blank _ (h.2 c (List.mem_singleton_self c)), ih h.1]

theorem trimChars_eq_nil_iff {cs : List Char} :
    trimChars cs = [] ↔ ∀ c ∈ cs, isBlank c = true := by
  constructor
  · intro h
    rw [trimChars, dropEnd, List.reverse_eq_nil_iff, List.dropWhile_eq_nil_iff] at h
    cases hDrop : cs.dropWhile isBlank with
    | nil => exact List.dropWhile_eq_nil_iff.mp hDrop
    | cons c rest =>
      have hInk := beginsUnblank_dropWhile cs c (by simp [hDrop])
      have hBlank := h c (by simp [hDrop])
      simp [hBlank] at hInk
  · intro h
    rw [trimChars, List.dropWhile_eq_nil_iff.mpr h, dropEnd_nil]

theorem dropEnd_append_takeWhile (p : Char → Bool) (cs : List Char) :
    dropEnd p cs ++ (cs.reverse.takeWhile p).reverse = cs := by
  rw [dropEnd, ← List.reverse_append, List.takeWhile_append_dropWhile, List.reverse_reverse]

theorem exists_blank_sides (cs : List Char) :
    ∃ front back, cs = front ++ trimChars cs ++ back ∧
      (∀ c ∈ front, isBlank c = true) ∧ ∀ c ∈ back, isBlank c = true := by
  refine ⟨cs.takeWhile isBlank, ((cs.dropWhile isBlank).reverse.takeWhile isBlank).reverse, ?_, ?_, ?_⟩
  · rw [List.append_assoc, trimChars, dropEnd_append_takeWhile, List.takeWhile_append_dropWhile]
  · intro c hc
    exact List.mem_takeWhile_imp hc
  · intro c hc
    exact List.mem_takeWhile_imp (List.mem_reverse.mp hc)

theorem mem_trimChars_of_mem {c : Char} {cs : List Char} (hMem : c ∈ cs)
    (hInk : isBlank c = false) : c ∈ trimChars cs := by
  obtain ⟨front, back, hSplit, hFront, hBack⟩ := exists_blank_sides cs
  rw [hSplit, List.mem_append, List.mem_append] at hMem
  obtain (hMem | hMem) | hMem := hMem
  · rw [hFront c hMem] at hInk
    cases hInk
  · exact hMem
  · rw [hBack c hMem] at hInk
    cases hInk

theorem trimChars_ne_nil_of_mem {c : Char} {cs : List Char} (hMem : c ∈ cs)
    (hInk : isBlank c = false) : trimChars cs ≠ [] :=
  List.ne_nil_of_mem (mem_trimChars_of_mem hMem hInk)

theorem exists_blank_end {cs : List Char} (h : BeginsUnblank cs) :
    ∃ back, cs = trimChars cs ++ back ∧ ∀ c ∈ back, isBlank c = true := by
  refine ⟨(cs.reverse.takeWhile isBlank).reverse, ?_, ?_⟩
  · rw [trimChars, dropWhile_eq_self h, dropEnd_append_takeWhile]
  · intro c hc
    exact List.mem_takeWhile_imp (List.mem_reverse.mp hc)

theorem dropEnd_cons_of_neg {p : Char → Bool} {c : Char} (h : p c = false) (cs : List Char) :
    dropEnd p (c :: cs) = c :: dropEnd p cs := by
  rw [dropEnd, dropEnd, List.reverse_cons, List.dropWhile_append]
  split
  · next hEmpty => simp [List.isEmpty_iff.mp hEmpty, h]
  · rw [List.reverse_append, List.reverse_singleton, List.singleton_append]

theorem exists_trimChars_eq_cons {c : Char} (h : isBlank c = false) (cs : List Char) :
    ∃ more, trimChars (c :: cs) = c :: more := by
  obtain ⟨blanks, hEq, hBlank⟩ := exists_blank_end (beginsUnblank_cons.mpr h : BeginsUnblank (c :: cs))
  cases hTrim : trimChars (c :: cs) with
  | nil =>
    rw [hTrim, List.nil_append] at hEq
    have hFirst := hBlank c (hEq ▸ List.mem_cons_self)
    rw [h] at hFirst
    cases hFirst
  | cons first more =>
    rw [hTrim, List.cons_append] at hEq
    exact ⟨more, by rw [(List.cons.inj hEq).1]⟩

theorem length_trim_le (s : String) : (trim s).length ≤ s.length := by
  simpa only [trim, String.length_ofList, String.length_toList] using length_trimChars_le s.toList

@[simp] theorem trim_trim (s : String) : trim (trim s) = trim s := by
  simp [trim]

@[simp] theorem trim_empty : trim "" = "" := rfl

/-- The text without the blanks at its end. -/
def trimEnd (s : String) : String :=
  String.ofList (dropEnd isBlank s.toList)

theorem trim_append_space (s : String) : trim (s ++ " ") = trim s := by
  rw [trim, String.toList_append]
  exact congrArg String.ofList (trimChars_append_blank s.toList (by decide))

theorem trim_space_append (s : String) : trim (" " ++ s) = trim s := by
  rw [trim, String.toList_append]
  exact congrArg String.ofList (trimChars_blank_cons s.toList (by decide))

theorem trim_dot_append (s : String) : trim ("." ++ s) = "." ++ trimEnd s := by
  have hDot : isBlank '.' = false := by decide
  rw [← String.toList_inj, trim, trimEnd]
  simp only [String.toList_append, String.toList_ofList, trimChars]
  change dropEnd isBlank (('.' :: s.toList).dropWhile isBlank) = '.' :: dropEnd isBlank s.toList
  rw [List.dropWhile_cons_of_neg (by simp [hDot]), dropEnd_cons_of_neg hDot]

theorem trim_eq_self_iff {s : String} :
    trim s = s ↔ BeginsUnblank s.toList ∧ EndsUnblank s.toList := by
  rw [← trimChars_eq_self_iff, trim, ← String.toList_inj, String.toList_ofList]

end Workflow.Text
