import Workflow.Condition
import Workflow.Proofs.Text.Cut
import Workflow.Proofs.Text.Trim

/-!
# Conditions and their clauses

Joining conditions with `&&` joins their clauses. A clause has a text of its own, and that text
reads back as the clause exactly where trimming leaves key and value alone and no sign stands
before the intended one.
-/

namespace Workflow

open Workflow.Text

namespace Condition

def joinSign : List Char := ['&', '&']

theorem joinSign_ne_nil : joinSign ≠ [] := by decide

theorem clauses_eq (text : String) :
    clauses text = (((piecesFrom joinSign 0 text.toList).map trimChars).filter (· ≠ [])).map
      fun cs => Clause.parse (String.ofList cs) := by
  simp only [clauses, pieces, List.map_map, List.filter_map, Function.comp_def, trim,
    String.toList_ofList, ne_eq, String.ofList_eq_empty_iff]
  rfl

theorem map_trimChars_piecesFrom_blank_cons {c : Char} (cs : List Char) (hBlank : isBlank c = true)
    (hSign : c ≠ '&') :
    (piecesFrom joinSign 0 (c :: cs)).map trimChars =
      (piecesFrom joinSign 0 cs).map trimChars := by
  have hPrefix : ¬ joinSign.isPrefixOf (c :: cs) = true := by
    simp [joinSign, Ne.symm hSign]
  rw [piecesFrom, if_neg hPrefix]
  cases hPieces : piecesFrom joinSign 0 cs with
  | nil => exact absurd hPieces (piecesFrom_ne_nil _ _ _)
  | cons piece pieces => simp [trimChars_blank_cons _ hBlank]

theorem map_trimChars_piecesFrom_join (front back : List Char) :
    (piecesFrom joinSign 0 (front ++ [' ', '&', '&', ' '] ++ back)).map trimChars =
      (piecesFrom joinSign 0 front).map trimChars ++
        (piecesFrom joinSign 0 back).map trimChars := by
  induction front using (measure List.length).wf.induction with
  | h front ih =>
    cases hCut : cutFirst? joinSign front with
    | none =>
      -- the sign between the two conditions is the first one
      have hFront := (cutFirst?_eq_none_iff joinSign_ne_nil).mp hCut
      have hFirst : ¬ joinSign <:+: (front ++ [' ']) ++ joinSign.dropLast := by
        simp only [joinSign] at hFront ⊢
        simp [pair_infix_append_iff, pair_infix_cons_iff, hFront]
      have hText : front ++ [' ', '&', '&', ' '] ++ back =
          (front ++ [' ']) ++ joinSign ++ (' ' :: back) := by simp [joinSign]
      rw [hText, piecesFrom_of_cut joinSign_ne_nil (cutFirst?_append joinSign_ne_nil hFirst),
        piecesFrom_of_not_infix joinSign_ne_nil hFront, List.map_cons,
        map_trimChars_piecesFrom_blank_cons back (by decide) (by decide)]
      simp [trimChars_append_blank front (c := ' ') (by decide)]
    | some parts =>
      obtain ⟨first, rest⟩ := parts
      obtain ⟨hText, hFirst⟩ := (cutFirst?_eq_some_iff joinSign_ne_nil).mp hCut
      have hShorter : rest.length < front.length := by
        rw [hText]
        simp only [List.length_append, joinSign, List.length_cons]
        omega
      have hLong : front ++ [' ', '&', '&', ' '] ++ back =
          first ++ joinSign ++ (rest ++ [' ', '&', '&', ' '] ++ back) := by
        simp [hText]
      rw [hLong, piecesFrom_of_cut joinSign_ne_nil (cutFirst?_append joinSign_ne_nil hFirst),
        piecesFrom_of_cut joinSign_ne_nil hCut, List.map_cons, List.map_cons, ih rest hShorter,
        List.cons_append]

theorem clauses_append_join (front back : String) :
    clauses (front ++ " && " ++ back) = clauses front ++ clauses back := by
  have hText : (front ++ " && " ++ back).toList =
      front.toList ++ [' ', '&', '&', ' '] ++ back.toList := by simp
  rw [clauses_eq, hText, map_trimChars_piecesFrom_join, List.filter_append, List.map_append,
    ← clauses_eq, ← clauses_eq]

theorem clauses_intercalate (texts : List String) :
    clauses (" && ".intercalate texts) = texts.flatMap clauses := by
  induction texts with
  | nil => rfl
  | cons text texts ih =>
    cases texts with
    | nil => simp
    | cons next texts =>
      rw [String.intercalate_cons_cons, clauses_append_join, ih]
      rfl

/-- Joining two conditions joins their clauses, so it is their conjunction in every run. -/
theorem holds_append_join (front back : String) :
    clauses (front ++ " && " ++ back) = clauses front ++ clauses back ∧
      ∀ outcome lookup, holds (front ++ " && " ++ back) outcome lookup = true ↔
        holds front outcome lookup = true ∧ holds back outcome lookup = true := by
  have hClauses := clauses_append_join front back
  refine ⟨hClauses, fun outcome lookup => ?_⟩
  rw [holds, hClauses, List.all_append, Bool.and_eq_true]
  rfl

/-- A sign at the end of a part, an empty part and one that is no comparison. -/
example : clauses ("&&a&&& " ++ " && " ++ "&=b") =
    [⟨"a", .differ, ""⟩, ⟨"&", .differ, ""⟩, ⟨"&", .equal, "b"⟩] := by
  decide +kernel

end Condition

namespace Clause

/-- All that reading a clause can give. -/
theorem parse_cases (text : String) :
    (∃ key value, text = key ++ "!=" ++ value ∧ ¬ Occurs "!=" key ∧
      parse text = ⟨trim key, .differ, trim value⟩) ∨
    (¬ Occurs "!=" text ∧ ∃ key value, text = key ++ "=" ++ value ∧ ¬ Occurs "=" key ∧
      parse text = ⟨trim key, .equal, trim value⟩) ∨
    (¬ Occurs "!=" text ∧ ¬ Occurs "=" text ∧ parse text = ⟨trim text, .differ, ""⟩) := by
  cases hDiffer : cut? "!=" text with
  | some parts =>
    obtain ⟨key, value⟩ := parts
    obtain ⟨hText, hFirst⟩ := (cut?_eq_some_iff (by decide)).mp hDiffer
    refine Or.inl ⟨key, value, hText, ?_, by simp [parse, hDiffer]⟩
    exact fun h => hFirst (List.infix_append_of_infix_left h)
  | none =>
    have hNone := (cut?_eq_none_iff (by decide)).mp hDiffer
    cases hEqual : cut? "=" text with
    | some parts =>
      obtain ⟨key, value⟩ := parts
      obtain ⟨hText, hFirst⟩ := (cut?_eq_some_iff (by decide)).mp hEqual
      refine Or.inr (Or.inl ⟨hNone, key, value, hText, ?_, by simp [parse, hDiffer, hEqual]⟩)
      exact fun h => hFirst (List.infix_append_of_infix_left h)
    | none =>
      exact Or.inr (Or.inr ⟨hNone, (cut?_eq_none_iff (by decide)).mp hEqual,
        by simp [parse, hDiffer, hEqual]⟩)

theorem trim_parse (text : String) :
    trim (parse text).key = (parse text).key ∧ trim (parse text).value = (parse text).value := by
  obtain ⟨key, value, -, -, hParse⟩ | ⟨-, key, value, -, -, hParse⟩ | ⟨-, -, hParse⟩ :=
    parse_cases text <;>
  rw [hParse] <;> simp [trim_trim]

/-- The text of a clause. -/
def text (c : Clause) : String :=
  c.key ++ c.relation.sign ++ c.value

/-- Trimming leaves the clause alone, and the sign is the first one in its text. -/
structure IsReadable (c : Clause) : Prop where
  trim_key : trim c.key = c.key
  trim_value : trim c.value = c.value
  sign_first : match c.relation with
    | .differ => ¬ Occurs "!=" c.key
    | .equal => ¬ Occurs "=" c.key ∧ ¬ Occurs "!=" c.text

theorem trim_text {c : Clause} (hKey : trim c.key = c.key) (hValue : trim c.value = c.value) :
    trim c.text = c.text := by
  rw [trim_eq_self_iff] at hKey hValue ⊢
  have hSign : BeginsUnblank c.relation.sign.toList ∧ EndsUnblank c.relation.sign.toList := by
    rw [← trim_eq_self_iff]
    cases c.relation <;> rfl
  simp only [text, String.toList_append]
  exact ⟨(hKey.1.append hSign.1).append hValue.1, (hKey.2.append hSign.2).append hValue.2⟩

theorem occurs_equal_text (c : Clause) : Occurs "=" c.text := by
  cases h : c.relation <;>
    simp [Occurs, text, h, Relation.sign, singleton_infix_iff]

theorem not_infix_differ_seam {key : String} (h : ¬ Occurs "!=" key) :
    ¬ "!=".toList <:+: key.toList ++ "!=".toList.dropLast := by
  have hSign : "!=".toList = ['!', '='] := rfl
  rw [Occurs, hSign] at h
  simp [hSign, pair_infix_append_iff, pair_infix_cons_iff, h]

/-- A clause reads back from its text exactly where it is readable. -/
theorem parse_trim_text_iff {c : Clause} : parse (trim c.text) = c ↔ c.IsReadable := by
  constructor
  · intro h
    obtain ⟨hKey, hValue⟩ := h ▸ trim_parse (trim c.text)
    refine ⟨hKey, hValue, ?_⟩
    rw [trim_text hKey hValue] at h
    obtain ⟨key, value, -, hFirst, hParse⟩ | ⟨hNone, key, value, -, hFirst, hParse⟩ |
      ⟨-, hEqual, -⟩ := parse_cases c.text
    · obtain rfl := h.symm.trans hParse
      exact fun hOccurs => hFirst hOccurs.of_trim
    · obtain rfl := h.symm.trans hParse
      exact ⟨fun hOccurs => hFirst hOccurs.of_trim, hNone⟩
    · exact absurd c.occurs_equal_text hEqual
  · rintro ⟨hKey, hValue, hSign⟩
    rw [trim_text hKey hValue]
    obtain ⟨key, relation, value⟩ := c
    cases relation with
    | equal =>
      have hDiffer := (cut?_eq_none_iff (by decide)).mpr hSign.2
      have hEqual : cut? "=" (key ++ "=" ++ value) = some (key, value) :=
        (cut?_eq_some_iff (by decide)).mpr ⟨rfl, by simpa [Occurs] using hSign.1⟩
      simp only [text, Relation.sign] at hDiffer hKey hValue ⊢
      simp [parse, hDiffer, hEqual, hKey, hValue]
    | differ =>
      have hDiffer : cut? "!=" (key ++ "!=" ++ value) = some (key, value) :=
        (cut?_eq_some_iff (by decide)).mpr ⟨rfl, not_infix_differ_seam hSign⟩
      simp only at hKey hValue
      simp [text, Relation.sign, parse, hDiffer, hKey, hValue]

theorem length_text_parse_le {text : String} (h : Occurs "=" text) :
    (parse text).text.length ≤ text.length := by
  have hDiffer : "!=".length = 2 := rfl
  obtain ⟨key, value, hText, -, hParse⟩ | ⟨-, key, value, hText, -, hParse⟩ | ⟨-, hNone, -⟩ :=
    parse_cases text
  · have hKey := length_trim_le key
    have hValue := length_trim_le value
    rw [hParse, hText]
    simp only [Clause.text, Relation.sign, String.length_append]
    omega
  · have hKey := length_trim_le key
    have hValue := length_trim_le value
    rw [hParse, hText]
    simp only [Clause.text, Relation.sign, String.length_append]
    omega
  · exact absurd h hNone

/-- A piece of a text that `&&` cuts cannot read as the clause of the whole text. -/
theorem parse_trim_front_ne {c : Clause} {front back : String}
    (hText : c.text = front ++ "&&" ++ back) : parse (trim front) ≠ c := by
  rintro rfl
  have hTrim := length_trim_le front
  have hLength := congrArg String.length hText
  have hJoin : "&&".length = 2 := rfl
  have hDiffer : "!=".length = 2 := rfl
  simp only [String.length_append, hJoin] at hLength
  by_cases hSign : Occurs "=" (trim front)
  · have hShort := length_text_parse_le hSign
    omega
  · -- only a bare key could be long enough, and then the sign would be `&&`
    obtain ⟨key, value, hFront, -⟩ | ⟨-, key, value, hFront, -⟩ | ⟨-, -, hParse⟩ :=
      parse_cases (trim front)
    · exact absurd (by simp [Occurs, hFront, singleton_infix_iff]) hSign
    · exact absurd (by simp [Occurs, hFront, singleton_infix_iff]) hSign
    · simp only [hParse, Clause.text, Relation.sign, trim_trim, String.append_empty] at hText hLength
      rw [← String.toList_inj] at hText
      simp only [String.toList_append, List.append_assoc] at hText
      rw [String.length_append, hDiffer] at hLength
      have hFront : (trim front).toList.length = front.toList.length := by
        simp only [String.length_toList]
        omega
      have hSigns := (List.append_inj hText hFront).2
      simp at hSigns

end Clause

namespace Condition

variable {text : String} {first : Char} {rest : List Char}

/-- The first clause of a text that begins with neither a blank nor the sign between clauses. -/
theorem clauses_cases (hFirst : text.toList = first :: rest) (hInk : isBlank first = false)
    (hSign : first ≠ '&') :
    (¬ Occurs "&&" text ∧ clauses text = [Clause.parse (trim text)]) ∨
    ∃ front back, text = front ++ "&&" ++ back ∧
      clauses text = Clause.parse (trim front) :: clauses back := by
  have hJoin : "&&".toList = joinSign := rfl
  cases hCut : cutFirst? joinSign text.toList with
  | none =>
    have hNone := (cutFirst?_eq_none_iff joinSign_ne_nil).mp hCut
    have hMem : first ∈ text.toList := by simp [hFirst]
    have hTrim := trimChars_ne_nil_of_mem hMem hInk
    refine Or.inl ⟨by rwa [Occurs, hJoin], ?_⟩
    rw [clauses_eq, piecesFrom_of_not_infix joinSign_ne_nil hNone]
    simp [hTrim, trim]
  | some parts =>
    obtain ⟨front, back⟩ := parts
    have hText := cutFirst?_eq_some hCut
    obtain ⟨front, rfl⟩ : ∃ more, front = first :: more := by
      rw [hFirst] at hText
      cases front with
      | nil => simp [joinSign, hSign] at hText
      | cons c front => exact ⟨front, by simp [(List.cons.inj hText).1]⟩
    have hTrim := trimChars_ne_nil_of_mem (List.mem_cons_self : first ∈ first :: front) hInk
    refine Or.inr ⟨String.ofList (first :: front), String.ofList back, ?_, ?_⟩
    · rw [← String.toList_inj]
      simpa [hJoin] using hText
    · rw [clauses_eq, piecesFrom_of_cut joinSign_ne_nil hCut, clauses_eq]
      simp [hTrim, trim]

/-- A clause is all that reads from its text exactly where it is readable and no sign between
clauses stands in its text. -/
theorem clauses_text_eq_iff {c : Clause} (hFirst : c.key.toList = first :: rest)
    (hInk : isBlank first = false) (hSign : first ≠ '&') :
    clauses c.text = [c] ↔ ¬ Occurs "&&" c.text ∧ c.IsReadable := by
  have hText : c.text.toList = first :: (rest ++ c.relation.sign.toList ++ c.value.toList) := by
    simp [Clause.text, hFirst]
  obtain ⟨hNone, hClauses⟩ | ⟨front, back, hFront, hClauses⟩ := clauses_cases hText hInk hSign
  · rw [hClauses, List.cons.injEq, Clause.parse_trim_text_iff]
    simp [hNone]
  · have hJoin : Occurs "&&" c.text := by
      rw [Occurs, hFront, String.toList_append, String.toList_append]
      exact List.infix_append _ _ _
    rw [hClauses, List.cons.injEq]
    simp [hJoin, Clause.parse_trim_front_ne hFront]

end Condition

end Workflow
