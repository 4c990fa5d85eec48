import Workflow.Proofs.Text.Trim
import Workflow.Text.Split

/-!
# First occurrences and pieces

Cutting at a separator finds its first occurrence, and the pieces of a text are what comes before
it and the pieces of what comes after it. In a joined text every part but the first stands behind a
separator. Whether a pair of characters occurs in a text that is put together can be seen at its
parts and at the seams between them.
-/

namespace Workflow.Text

variable {sep cs before after : List Char}

theorem not_infix_dropLast (hSep : sep ≠ []) : ¬ sep <:+: sep.dropLast := by
  intro h
  have hLength := h.length_le
  have hPositive := List.length_pos_iff.mpr hSep
  rw [List.length_dropLast] at hLength
  omega

theorem append_dropLast_prefix (sep before after : List Char) :
    before ++ sep.dropLast <+: before ++ sep ++ after := by
  rw [List.append_assoc]
  exact (List.prefix_append_right_inj before).mpr
    ((List.dropLast_prefix sep).trans (List.prefix_append sep after))

theorem cutFirst?_eq_none_iff (hSep : sep ≠ []) : cutFirst? sep cs = none ↔ ¬ sep <:+: cs := by
  induction cs with
  | nil => simp [cutFirst?, hSep]
  | cons c cs ih =>
    rw [cutFirst?, List.infix_cons_iff]
    split
    · rename_i hPrefix
      simp [List.isPrefixOf_iff_prefix.mp hPrefix]
    · rename_i hPrefix
      have hHead : ¬ sep <+: c :: cs := by simpa using hPrefix
      simp [hHead, ih]

/-- No occurrence of the separator begins in the part before the first one. -/
theorem not_infix_of_cutFirst? (hSep : sep ≠ []) (h : cutFirst? sep cs = some (before, after)) :
    ¬ sep <:+: before ++ sep.dropLast := by
  induction cs generalizing before with
  | nil => simp [cutFirst?, hSep] at h
  | cons c cs ih =>
    rw [cutFirst?] at h
    split at h
    · cases h
      exact not_infix_dropLast hSep
    · rename_i hPrefix
      obtain ⟨⟨rest, after⟩, hRest, hEq⟩ := Option.map_eq_some_iff.mp h
      cases hEq
      rw [List.cons_append, List.infix_cons_iff]
      rintro (hHead | hTail)
      · have hShort := append_dropLast_prefix sep (c :: rest) after
        have hCs : c :: cs = c :: rest ++ sep ++ after :=
          congrArg (c :: ·) (cutFirst?_eq_some hRest)
        exact hPrefix (List.isPrefixOf_iff_prefix.mpr (hCs ▸ hHead.trans hShort))
      · exact ih hRest hTail

theorem cutFirst?_append (hSep : sep ≠ []) (h : ¬ sep <:+: before ++ sep.dropLast) :
    cutFirst? sep (before ++ sep ++ after) = some (before, after) := by
  induction before with
  | nil =>
    obtain ⟨s, ss, rfl⟩ := List.exists_cons_of_ne_nil hSep
    simp [cutFirst?]
  | cons b before ih =>
    rw [List.cons_append, List.infix_cons_iff, not_or] at h
    have hPrefix : ¬ sep <+: b :: (before ++ sep ++ after) := by
      intro hAll
      have hShort := append_dropLast_prefix sep (b :: before) after
      refine h.1 (List.prefix_of_prefix_length_le hAll hShort ?_)
      simp only [List.length_cons, List.length_append, List.length_dropLast]
      omega
    rw [List.cons_append, List.cons_append, cutFirst?, if_neg (by simpa using hPrefix), ih h.2]
    rfl

theorem cutFirst?_eq_some_iff (hSep : sep ≠ []) :
    cutFirst? sep cs = some (before, after) ↔
      cs = before ++ sep ++ after ∧ ¬ sep <:+: before ++ sep.dropLast := by
  constructor
  · intro h
    exact ⟨cutFirst?_eq_some h, not_infix_of_cutFirst? hSep h⟩
  · rintro ⟨rfl, h⟩
    exact cutFirst?_append hSep h

theorem piecesFrom_eq_drop (skip : Nat) (cs : List Char) :
    piecesFrom sep skip cs = piecesFrom sep 0 (cs.drop skip) := by
  induction cs generalizing skip with
  | nil => cases skip <;> simp [piecesFrom]
  | cons c cs ih =>
    cases skip with
    | zero => rfl
    | succ skip => rw [piecesFrom, ih, List.drop_succ_cons]

/-- The pieces of a text by its first cut. -/
theorem piecesFrom_eq (hSep : sep ≠ []) (cs : List Char) :
    piecesFrom sep 0 cs = match cutFirst? sep cs with
      | none => [cs]
      | some (before, after) => before :: piecesFrom sep 0 after := by
  induction cs with
  | nil => simp [piecesFrom, cutFirst?, hSep]
  | cons c cs ih =>
    obtain ⟨s, ss, rfl⟩ := List.exists_cons_of_ne_nil hSep
    rw [piecesFrom, cutFirst?]
    split
    · rw [piecesFrom_eq_drop]
      simp
    · rw [ih]
      cases cutFirst? (s :: ss) cs with
      | none => rfl
      | some parts => rfl

theorem piecesFrom_of_cut (hSep : sep ≠ []) (h : cutFirst? sep cs = some (before, after)) :
    piecesFrom sep 0 cs = before :: piecesFrom sep 0 after := by
  rw [piecesFrom_eq hSep, h]

theorem piecesFrom_of_not_infix (hSep : sep ≠ []) (h : ¬ sep <:+: cs) :
    piecesFrom sep 0 cs = [cs] := by
  rw [piecesFrom_eq hSep, (cutFirst?_eq_none_iff hSep).mpr h]

theorem toList_intercalate_cons (separator first : String) (rest : List String) :
    (separator.intercalate (first :: rest)).toList =
      first.toList ++ rest.flatMap fun text => separator.toList ++ text.toList := by
  induction rest generalizing first with
  | nil => simp
  | cons next rest ih =>
    rw [String.intercalate_cons_cons, String.toList_append, String.toList_append, ih,
      List.flatMap_cons]
    simp only [List.append_assoc]

variable {x y : Char}

theorem pair_infix_cons_iff {c : Char} :
    [x, y] <:+: c :: cs ↔ (x = c ∧ cs.head? = some y) ∨ [x, y] <:+: cs := by
  rw [List.infix_cons_iff, List.cons_prefix_cons, List.singleton_prefix_iff_head?_eq_some]

/-- A pair occurs in one of two parts or across the seam. -/
theorem pair_infix_append_iff :
    [x, y] <:+: before ++ after ↔
      [x, y] <:+: before ∨ [x, y] <:+: after ∨
        (before.getLast? = some x ∧ after.head? = some y) := by
  induction before with
  | nil => simp
  | cons b before ih =>
    rw [List.cons_append, pair_infix_cons_iff, pair_infix_cons_iff, ih]
    cases before with
    | nil =>
      simp only [List.nil_append, List.head?_nil, List.getLast?_singleton, Option.some.injEq,
        reduceCtorEq, and_false, false_or, List.getLast?_nil, false_and, or_false, List.infix_nil,
        List.cons_ne_nil]
      rw [or_comm, eq_comm (a := x)]
    | cons d before => simp [or_assoc]

theorem singleton_infix_iff : [x] <:+: cs ↔ x ∈ cs := by
  induction cs with
  | nil => simp
  | cons c cs ih => rw [List.infix_cons_iff, ih]; simp

theorem cutFirst?_singleton (h : x ∉ before) :
    cutFirst? [x] (before ++ x :: after) = some (before, after) := by
  have hFirst : ¬ [x] <:+: before ++ [x].dropLast := by simpa [singleton_infix_iff] using h
  simpa using cutFirst?_append (List.cons_ne_nil x []) hFirst

theorem of_mem_piecesFrom {piece : List Char} (h : piece ∈ piecesFrom [x] 0 cs) :
    x ∉ piece ∧ piece ⊆ cs := by
  induction cs generalizing piece with
  | nil =>
    obtain rfl := List.mem_singleton.mp h
    exact ⟨List.not_mem_nil, List.nil_subset _⟩
  | cons c cs ih =>
    have hTail {piece : List Char} (h : piece ∈ piecesFrom [x] 0 cs) :
        x ∉ piece ∧ piece ⊆ c :: cs :=
      ⟨(ih h).1, fun d hd => List.mem_cons_of_mem c ((ih h).2 hd)⟩
    rw [piecesFrom] at h
    split at h
    · obtain rfl | hMem := List.mem_cons.mp h
      · exact ⟨List.not_mem_nil, List.nil_subset _⟩
      · exact hTail hMem
    · next hPrefix =>
      have hOther : x ≠ c := by simpa using hPrefix
      split at h
      · next hNone => exact absurd hNone (piecesFrom_ne_nil _ _ _)
      · next first rest hPieces =>
        rw [hPieces] at hTail
        obtain rfl | hMem := List.mem_cons.mp h
        · obtain ⟨hFirst, hSubset⟩ := hTail List.mem_cons_self
          exact ⟨by simp [hOther, hFirst], List.cons_subset.mpr ⟨List.mem_cons_self, hSubset⟩⟩
        · exact hTail (List.mem_cons_of_mem _ hMem)

theorem piecesFrom_append_cons (x : Char) (before after : List Char) :
    piecesFrom [x] 0 (before ++ x :: after) = piecesFrom [x] 0 before ++ piecesFrom [x] 0 after := by
  induction before with
  | nil => simp [piecesFrom]
  | cons c before ih =>
    obtain ⟨first, rest, hPieces⟩ := List.exists_cons_of_ne_nil (piecesFrom_ne_nil [x] 0 before)
    rw [List.cons_append, piecesFrom, piecesFrom, List.length_singleton, Nat.sub_self, ih, hPieces]
    by_cases hSep : x = c
    · simp [hSep]
    · simp [hSep]

/-- Pieces at a separator that other characters were turned into are pieces at all of them. -/
theorem piecesFrom_map {f : Char → Char} {p : Char → Bool} {x : Char}
    (hSep : ∀ c, p c = true → f c = x) (hOther : ∀ c, p c = false → f c = c ∧ c ≠ x)
    (cs : List Char) : piecesFrom [x] 0 (cs.map f) = cs.splitOnP p := by
  induction cs with
  | nil => simp [piecesFrom]
  | cons c cs ih =>
    rw [List.map_cons, piecesFrom, List.length_singleton, Nat.sub_self, ih,
      List.splitOnP_cons_eq_if_modifyHead]
    cases hc : p c with
    | true => simp [hSep c hc]
    | false =>
      obtain ⟨first, rest, hPieces⟩ := List.exists_cons_of_ne_nil (List.splitOnP_ne_nil p cs)
      simp [hOther c hc, Ne.symm (hOther c hc).2, hPieces]

/-- Splitting at more places splits the pieces further. -/
theorem splitOnP_eq_flatMap {p q : Char → Bool} (h : ∀ c, p c = true → q c = true)
    (cs : List Char) : cs.splitOnP q = (cs.splitOnP p).flatMap (·.splitOnP q) := by
  induction cs with
  | nil => simp
  | cons c cs ih =>
    obtain ⟨first, rest, hPieces⟩ := List.exists_cons_of_ne_nil (List.splitOnP_ne_nil p cs)
    obtain ⟨front, others, hFront⟩ := List.exists_cons_of_ne_nil (List.splitOnP_ne_nil q first)
    rw [hPieces, List.flatMap_cons, hFront] at ih
    rw [List.splitOnP_cons_eq_if_modifyHead, List.splitOnP_cons_eq_if_modifyHead, ih, hPieces]
    cases hp : p c with
    | true => simp [h c hp, hFront]
    | false => cases hq : q c <;> simp [hq, hFront, List.splitOnP_cons_eq_if_modifyHead]

theorem mem_splitOnP_of_le {p q : Char → Bool} (h : ∀ c, p c = true → q c = true)
    {cs piece : List Char} (hMem : piece ∈ cs.splitOnP p) (hPiece : ∀ c ∈ piece, q c = false) :
    piece ∈ cs.splitOnP q := by
  rw [splitOnP_eq_flatMap h]
  refine List.mem_flatMap.mpr ⟨piece, hMem, ?_⟩
  rw [List.splitOnP_eq_singleton hPiece]
  exact List.mem_singleton_self piece

theorem mem_pieces_iff {sep text piece : String} :
    piece ∈ pieces sep text ↔ piece.toList ∈ piecesFrom sep.toList 0 text.toList := by
  constructor
  · intro h
    obtain ⟨cs, hCs, rfl⟩ := List.mem_map.mp h
    rwa [String.toList_ofList]
  · intro h
    exact List.mem_map.mpr ⟨piece.toList, h, String.ofList_toList⟩

/-- A text stands somewhere in another. -/
def Occurs (part text : String) : Prop :=
  part.toList <:+: text.toList

instance (part text : String) : Decidable (Occurs part text) :=
  inferInstanceAs (Decidable (part.toList <:+: text.toList))

theorem Occurs.of_trim {part text : String} (h : Occurs part (trim text)) : Occurs part text := by
  rw [Occurs, trim, String.toList_ofList] at h
  exact h.trans (trimChars_isInfix _)

theorem replaceFrom_eq (old new : List Char) (skip : Nat) (cs : List Char) :
    replaceFrom old new skip cs = (piecesFrom old skip cs).headD [] ++
      (piecesFrom old skip cs).tail.flatMap (new ++ ·) := by
  induction cs generalizing skip with
  | nil => simp [replaceFrom, piecesFrom]
  | cons c cs ih =>
    cases skip with
    | succ skip => exact ih skip
    | zero =>
      rw [replaceFrom, piecesFrom, ih, ih]
      obtain ⟨first, rest, hFirst⟩ :=
        List.exists_cons_of_ne_nil (piecesFrom_ne_nil old (old.length - 1) cs)
      obtain ⟨front, others, hFront⟩ := List.exists_cons_of_ne_nil (piecesFrom_ne_nil old 0 cs)
      rw [hFirst, hFront]
      split <;> simp

theorem replaceFrom_singleton (x y : Char) (cs : List Char) :
    replaceFrom [x] [y] 0 cs = cs.map fun c => if c = x then y else c := by
  induction cs with
  | nil => rfl
  | cons c cs ih =>
    rw [replaceFrom, List.length_singleton, Nat.sub_self, ih]
    by_cases h : c = x
    · simp [h]
    · simp [h, Ne.symm h]

/-- Replacing a text joins the pieces between its occurrences by the other. -/
theorem replace_eq_intercalate (old new s : String) :
    replace old new s = new.intercalate (pieces old s) := by
  obtain ⟨first, rest, hPieces⟩ :=
    List.exists_cons_of_ne_nil (piecesFrom_ne_nil old.toList 0 s.toList)
  rw [← String.toList_inj, replace, String.toList_ofList, replaceFrom_eq, pieces, hPieces,
    List.map_cons, toList_intercalate_cons, String.toList_ofList, List.flatMap_map]
  simp

theorem cut?_eq_none_iff {sep s : String} (hSep : sep.toList ≠ []) :
    cut? sep s = none ↔ ¬ Occurs sep s := by
  rw [cut?, Option.map_eq_none_iff, cutFirst?_eq_none_iff hSep, Occurs]

theorem cut?_eq_some_iff {sep s front back : String} (hSep : sep.toList ≠ []) :
    cut? sep s = some (front, back) ↔
      s = front ++ sep ++ back ∧ ¬ sep.toList <:+: front.toList ++ sep.toList.dropLast := by
  rw [cut?, Option.map_eq_some_iff]
  constructor
  · rintro ⟨⟨before, after⟩, hCut, hEq⟩
    cases hEq
    obtain ⟨hText, hFirst⟩ := (cutFirst?_eq_some_iff hSep).mp hCut
    refine ⟨?_, by simpa using hFirst⟩
    rw [← String.toList_inj]
    simpa using hText
  · rintro ⟨rfl, hFirst⟩
    exact ⟨(front.toList, back.toList), by simpa using cutFirst?_append hSep hFirst, by simp⟩

end Workflow.Text
