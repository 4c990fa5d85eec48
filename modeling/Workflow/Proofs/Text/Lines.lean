import Workflow.Proofs.Text.Cut
import Workflow.Proofs.Text.Trim
import Workflow.Text.Lines

/-!
# Lines and line feeds

A line can end at other characters than a line feed. The lines of a text are those of its pieces
between the line feeds, each of them one line or more, so the numbers of the lines are the numbers
of the pieces only as far as every piece is one line.
-/

namespace Workflow.Text

variable {cs ds line : List Char}

/-- The pieces of a text between its line feeds. -/
def feedLines (cs : List Char) : List (List Char) :=
  piecesFrom ['\n'] 0 cs

/-- A text without line feeds that is not ended earlier, except for a carriage return at its end. -/
def IsOneLine (cs : List Char) : Prop :=
  cs.dropWhile (fun c => !isLineEnd c) ∈ [[], ['\r']]

instance (cs : List Char) : Decidable (IsOneLine cs) :=
  inferInstanceAs (Decidable (_ ∈ _))

theorem feedLines_cases (cs : List Char) :
    ('\n' ∉ cs ∧ feedLines cs = [cs]) ∨
      ∃ line rest, '\n' ∉ line ∧ cs = line ++ '\n' :: rest ∧
        feedLines cs = line :: feedLines rest := by
  have hSep : ['\n'] ≠ [] := List.cons_ne_nil _ _
  cases hCut : cutFirst? ['\n'] cs with
  | none =>
    have hNone := (cutFirst?_eq_none_iff hSep).mp hCut
    exact Or.inl ⟨fun h => hNone (singleton_infix_iff.mpr h), piecesFrom_of_not_infix hSep hNone⟩
  | some parts =>
    obtain ⟨line, rest⟩ := parts
    obtain ⟨rfl, hFirst⟩ := (cutFirst?_eq_some_iff hSep).mp hCut
    refine Or.inr ⟨line, rest, fun h => hFirst ?_, by simp, piecesFrom_of_cut hSep hCut⟩
    exact singleton_infix_iff.mpr (by simpa using h)

theorem length_feedLines (cs : List Char) : (feedLines cs).length = cs.count '\n' + 1 := by
  induction hLength : cs.length using Nat.strong_induction_on generalizing cs with
  | _ length ih =>
  subst hLength
  obtain ⟨hNone, hPieces⟩ | ⟨line, rest, hLine, rfl, hPieces⟩ := feedLines_cases cs
  · rw [hPieces, List.count_eq_zero_of_not_mem hNone, List.length_singleton]
  · rw [hPieces, List.length_cons, ih rest.length (by simp; omega) rest rfl, List.count_append,
      List.count_eq_zero_of_not_mem hLine, List.count_cons_self, Nat.zero_add]

section Lines

variable {acc : List Char} {c : Char}

theorem linesFrom_cons_of_not_end (h : isLineEnd c = false) :
    linesFrom acc (c :: cs) = linesFrom (c :: acc) cs := by
  rw [linesFrom.eq_def]
  split
  · contradiction
  · next hEq =>
    cases hEq
    cases h
  · next hEq =>
    cases hEq
    simp [h]

theorem exists_linesFrom_cons_of_end (acc cs : List Char) (h : isLineEnd c = true) :
    ∃ more, linesFrom acc (c :: cs) = acc.reverse :: more := by
  rw [linesFrom.eq_def]
  split
  · contradiction
  · next rest hEq => exact ⟨linesFrom [] rest, rfl⟩
  · next rest _ hEq =>
    cases hEq
    exact ⟨linesFrom [] cs, by rw [if_pos h]⟩

/-- How the first character before a line feed counts. -/
theorem linesFrom_cons_append_feed (acc ds : List Char) (h : '\n' ∉ c :: cs) :
    linesFrom acc (c :: cs ++ '\n' :: ds) =
      if isLineEnd c = false then linesFrom (c :: acc) (cs ++ '\n' :: ds)
      else if c = '\r' ∧ cs = [] then acc.reverse :: linesFrom [] ds
      else acc.reverse :: linesFrom [] (cs ++ '\n' :: ds) := by
  split
  · next hInside => exact linesFrom_cons_of_not_end hInside
  · next hEnd =>
    split
    · next hPair =>
      obtain ⟨rfl, rfl⟩ := hPair
      rfl
    · next hPair =>
      rw [List.cons_append, linesFrom.eq_def]
      split
      · contradiction
      · next rest hEq =>
        cases cs with
        | nil =>
          cases hEq
          exact absurd ⟨rfl, rfl⟩ hPair
        | cons d cs =>
          cases hEq
          simp at h
      · next rest _ hEq =>
        cases hEq
        rw [if_pos (by simpa using hEnd)]

theorem linesFrom_append_feed (acc ds : List Char) (h : '\n' ∉ cs) :
    linesFrom acc (cs ++ '\n' :: ds) = linesFrom acc (cs ++ ['\n']) ++ linesFrom [] ds := by
  induction cs generalizing acc with
  | nil => rfl
  | cons c cs ih =>
    have hRest (acc : List Char) := ih acc (fun hMem => h (List.mem_cons_of_mem c hMem))
    rw [linesFrom_cons_append_feed acc ds h, linesFrom_cons_append_feed acc [] h, hRest, hRest]
    split
    · rfl
    · split <;> rfl

/-- What stands before a line feed is one line, or more than one. -/
theorem length_linesFrom_feed (acc : List Char) (h : '\n' ∉ cs) :
    1 ≤ (linesFrom acc (cs ++ ['\n'])).length ∧
      ((linesFrom acc (cs ++ ['\n'])).length = 1 ↔ IsOneLine cs) := by
  induction cs generalizing acc with
  | nil => exact ⟨Nat.le_refl 1, iff_of_true rfl List.mem_cons_self⟩
  | cons c cs ih =>
    have hRest (acc : List Char) := ih acc (fun hMem => h (List.mem_cons_of_mem c hMem))
    rw [linesFrom_cons_append_feed acc [] h, IsOneLine]
    cases hEnd : isLineEnd c with
    | false =>
      rw [if_pos rfl, List.dropWhile_cons_of_pos (by simp [hEnd])]
      exact hRest (c :: acc)
    | true =>
      rw [if_neg (by simp), List.dropWhile_cons_of_neg (by simp [hEnd])]
      have hPair : c :: cs ∈ [[], ['\r']] ↔ c = '\r' ∧ cs = [] := by simp
      rw [hPair]
      split
      · next hReturn => exact ⟨Nat.le_refl 1, iff_of_true rfl hReturn⟩
      · next hOther =>
        have hMore := (hRest []).1
        rw [List.length_cons]
        exact ⟨by omega, iff_of_false (by omega) hOther⟩

theorem infix_of_mem_linesFrom_feed {l : List Char} (h : '\n' ∉ cs)
    (hMem : l ∈ linesFrom acc (cs ++ ['\n'])) : l <:+: acc.reverse ++ cs := by
  induction cs generalizing acc with
  | nil =>
    obtain rfl : l = acc.reverse := List.mem_singleton.mp hMem
    exact (List.prefix_append _ _).isInfix
  | cons c cs ih =>
    have hRest {acc : List Char} (hMem : l ∈ linesFrom acc (cs ++ ['\n'])) :=
      ih (fun hFeed => h (List.mem_cons_of_mem c hFeed)) hMem
    have hFirst : acc.reverse <:+: acc.reverse ++ c :: cs := (List.prefix_append _ _).isInfix
    rw [linesFrom_cons_append_feed acc [] h] at hMem
    split at hMem
    · simpa using hRest hMem
    · split at hMem
      · obtain rfl : l = acc.reverse := List.mem_singleton.mp hMem
        exact hFirst
      · obtain rfl | hMem := List.mem_cons.mp hMem
        · exact hFirst
        · exact (hRest hMem).trans ⟨acc.reverse ++ [c], [], by simp⟩

/-- The first line, as far as a line feed or the end. -/
theorem head?_linesFrom {tail : List Char} (hTail : ∀ c ∈ tail.head?, c = '\n') :
    (linesFrom acc (line ++ tail)).head?.getD [] =
      acc.reverse ++ line.takeWhile fun c => !isLineEnd c := by
  induction line generalizing acc with
  | nil =>
    cases tail with
    | nil => cases acc <;> simp [linesFrom]
    | cons c tail =>
      obtain rfl := hTail c rfl
      simp [linesFrom, isLineEnd]
  | cons c line ih =>
    cases hEnd : isLineEnd c with
    | false =>
      rw [List.cons_append, linesFrom_cons_of_not_end hEnd, ih, List.takeWhile_cons]
      simp [hEnd]
    | true =>
      obtain ⟨more, hLines⟩ := exists_linesFrom_cons_of_end acc (line ++ tail) hEnd
      simp [hLines, hEnd]

end Lines

section Pieces

variable {before after : List (List Char)}

/-- The lines of a text are those of its pieces, one after the other. -/
theorem exists_linesFrom_eq_flatMap (h : feedLines cs = before ++ line :: after) :
    ∃ tail, (∀ c ∈ tail.head?, c = '\n') ∧ linesFrom [] cs =
      (before.flatMap fun piece => linesFrom [] (piece ++ ['\n'])) ++
        linesFrom [] (line ++ tail) := by
  induction before generalizing cs with
  | nil =>
    obtain ⟨-, hPieces⟩ | ⟨first, rest, -, rfl, hPieces⟩ := feedLines_cases cs
    · obtain ⟨rfl, -⟩ := List.cons.inj (hPieces.symm.trans h)
      exact ⟨[], nofun, by simp⟩
    · obtain ⟨rfl, -⟩ := List.cons.inj (hPieces.symm.trans h)
      exact ⟨'\n' :: rest, by simp, by simp⟩
  | cons piece before ih =>
    obtain ⟨-, hPieces⟩ | ⟨first, rest, hFirst, rfl, hPieces⟩ := feedLines_cases cs
    · have hOne := (List.cons.inj (hPieces.symm.trans h)).2
      simp at hOne
    · obtain ⟨rfl, hRest⟩ := List.cons.inj (hPieces.symm.trans h)
      obtain ⟨tail, hTail, hLines⟩ := ih hRest
      refine ⟨tail, hTail, ?_⟩
      rw [linesFrom_append_feed [] rest hFirst, hLines, List.flatMap_cons, List.append_assoc]

theorem length_flatMap_of_one_le {α β : Type} {f : α → List β} {xs : List α}
    (h : ∀ x ∈ xs, 1 ≤ (f x).length) :
    xs.length ≤ (xs.flatMap f).length ∧
      ((xs.flatMap f).length = xs.length ↔ ∀ x ∈ xs, (f x).length = 1) := by
  induction xs with
  | nil => simp
  | cons x xs ih =>
    rw [List.forall_mem_cons] at h
    obtain ⟨hLe, hIff⟩ := ih h.2
    rw [List.flatMap_cons, List.length_append, List.length_cons, List.forall_mem_cons, ← hIff]
    omega

theorem notMem_of_feedLines (h : feedLines cs = before ++ line :: after) :
    ∀ piece ∈ before, '\n' ∉ piece := by
  intro piece hPiece
  have hMem : piece ∈ feedLines cs := h ▸ List.mem_append_left _ hPiece
  exact (of_mem_piecesFrom hMem).1

/-- A line has the number of its piece if every earlier piece is one line. Otherwise the line with
that number stands in an earlier piece. -/
theorem getElem?_linesFrom (h : feedLines cs = before ++ line :: after) :
    ((∀ piece ∈ before, IsOneLine piece) →
      (linesFrom [] cs)[before.length]?.getD [] = line.takeWhile fun c => !isLineEnd c) ∧
    ((∃ piece ∈ before, ¬ IsOneLine piece) →
      ∃ piece ∈ before, ∃ part, part <:+: piece ∧ (linesFrom [] cs)[before.length]? = some part) := by
  obtain ⟨tail, hTail, hLines⟩ := exists_linesFrom_eq_flatMap h
  have hFeeds := notMem_of_feedLines h
  obtain ⟨hLe, hIff⟩ := length_flatMap_of_one_le (f := fun piece => linesFrom [] (piece ++ ['\n']))
    fun piece hPiece => (length_linesFrom_feed [] (hFeeds piece hPiece)).1
  have hOne : (∀ piece ∈ before, (linesFrom [] (piece ++ ['\n'])).length = 1) ↔
      ∀ piece ∈ before, IsOneLine piece :=
    forall₂_congr fun piece hPiece => (length_linesFrom_feed [] (hFeeds piece hPiece)).2
  rw [hOne] at hIff
  constructor
  · intro hAll
    rw [hLines, ← hIff.mpr hAll, List.getElem?_append_right (Nat.le_refl _), Nat.sub_self,
      ← List.head?_eq_getElem?, head?_linesFrom hTail]
    rfl
  · rintro ⟨piece, hPiece, hMany⟩
    have hLt := Nat.lt_of_le_of_ne hLe fun hEq => hMany (hIff.mp hEq.symm piece hPiece)
    rw [hLines, List.getElem?_append_left hLt, List.getElem?_eq_getElem hLt]
    obtain ⟨piece, hPiece, hPart⟩ := List.mem_flatMap.mp (List.getElem_mem hLt)
    exact ⟨piece, hPiece, _, infix_of_mem_linesFrom_feed (hFeeds piece hPiece) hPart, rfl⟩

end Pieces

section Excerpts

/-- What an excerpt shows of a line. -/
def shown (line : List Char) : String :=
  String.ofList ((trimChars line).take excerptLimit)

theorem excerpt_eq_shown {source : String} {number : Nat} (h : number ≠ 0) :
    excerpt source number = shown ((linesFrom [] source.toList)[number - 1]?.getD []) := by
  rw [excerpt, if_neg h]
  cases (linesFrom [] source.toList)[number - 1]? with
  | none => rfl
  | some cs => rfl

theorem shown_takeWhile_of_blanks {p : Char → Bool} (h : ∀ c ∈ line.dropWhile p, isBlank c = true) :
    shown (line.takeWhile p) = shown line := by
  have hTrim : trimChars (line.takeWhile p) = trimChars line := by
    rw [← trimChars_append_blanks _ h, List.takeWhile_append_dropWhile]
  rw [shown, hTrim, shown]

end Excerpts

end Workflow.Text
