import Workflow.Proofs.Source.Layout

/-!
# Comments between tokens

In each step the scanner looks at what it takes and at the character behind it. It stops before a
comment as it stops before a blank, so what stands before a comment between tokens is scanned in the
same steps if a blank is put in the place of the comment.
-/

namespace Workflow.Source.Token

open Workflow.Text

/-- What a token says, wherever it stands. -/
def lexeme (t : Token) : Kind × String :=
  (t.kind, t.value)

def withoutPlaces (scanned : Except (LexicalFault × Place) (List Token)) :
    Except LexicalFault (List (Kind × String)) :=
  (scanned.map (·.map lexeme)).mapError Prod.fst

/-- The kinds and values of the tokens of a text, or the fault that it has. -/
def lexemes (cs : List Char) : Except LexicalFault (List (Kind × String)) :=
  withoutPlaces (scanFrom .start 0 cs)

/-- A comment up to its end, or up to the end of its line, with the text behind it. -/
def IsComment (comment rest : List Char) : Prop :=
  IsGapPart comment rest ∧ comment.head? = some '/'

/-- The scanner passes over a text in whole tokens and gaps and stands before the rest. The kinds
and values of these tokens are given. -/
inductive Passes : List Char → List (Kind × String) → List Char → Prop
  | here {rest : List Char} : Passes [] [] rest
  | gap {c : Char} {text before rest : List Char} {done : List (Kind × String)} :
      front c (text ++ (before ++ rest)) = .gap text.length → Passes before done rest →
      Passes (c :: (text ++ before)) done rest
  | token {c : Char} {text before rest value : List Char} {kind : Kind}
      {done : List (Kind × String)} :
      front c (text ++ (before ++ rest)) = .token kind value text.length →
      Passes before done rest →
      Passes (c :: (text ++ before)) ((kind, String.ofList value) :: done) rest

/-- The tokens of a text that the scanner passes over before the rest, unless it has a fault there
or what it takes last reaches into the rest. -/
def passed? (rest : List Char) : Nat → List Char → Option (List (Kind × String))
  | 0, [] => some []
  | _ + 1, [] => none
  | skip + 1, _ :: cs => passed? rest skip cs
  | 0, c :: cs =>
    match front c (cs ++ rest) with
    | .gap more => passed? rest more cs
    | .token kind value more => (passed? rest more cs).map ((kind, String.ofList value) :: ·)
    | .fault _ => none

section Passes

variable {before rest : List Char} {done : List (Kind × String)}

theorem passed?_length_append (text before : List Char) :
    passed? rest text.length (text ++ before) = passed? rest 0 before := by
  induction text with
  | nil => rfl
  | cons c text ih => exact ih

theorem exists_passes_of_passed? {skip : Nat} (h : passed? rest skip before = some done) :
    ∃ text more, before = text ++ more ∧ text.length = skip ∧ Passes more done rest := by
  induction before generalizing skip done with
  | nil =>
    cases skip with
    | zero =>
      cases h
      exact ⟨[], [], rfl, rfl, .here⟩
    | succ skip => cases h
  | cons c cs ih =>
    cases skip with
    | succ skip =>
      obtain ⟨text, more, rfl, rfl, hPasses⟩ := ih h
      exact ⟨c :: text, more, rfl, rfl, hPasses⟩
    | zero =>
      refine ⟨[], c :: cs, rfl, rfl, ?_⟩
      rw [passed?] at h
      cases hFront : front c (cs ++ rest) with
      | gap more =>
        rw [hFront] at h
        obtain ⟨text, more, rfl, rfl, hPasses⟩ := ih h
        rw [List.append_assoc] at hFront
        exact .gap hFront hPasses
      | token kind value more =>
        rw [hFront] at h
        obtain ⟨done, hMore, rfl⟩ := Option.map_eq_some_iff.mp h
        obtain ⟨text, more, rfl, rfl, hPasses⟩ := ih hMore
        rw [List.append_assoc] at hFront
        exact .token hFront hPasses
      | fault fault =>
        rw [hFront] at h
        cases h

theorem passed?_eq_some_iff : passed? rest 0 before = some done ↔ Passes before done rest := by
  constructor
  · intro h
    obtain ⟨text, more, rfl, hText, hPasses⟩ := exists_passes_of_passed? h
    rwa [List.length_eq_zero_iff.mp hText]
  · intro h
    induction h with
    | here => rfl
    | gap hFront _ ih =>
      rw [passed?, List.append_assoc, hFront]
      exact (passed?_length_append _ _).trans ih
    | token hFront _ ih =>
      rw [passed?, List.append_assoc, hFront]
      simp only [passed?_length_append, ih, Option.map_some]

instance : Decidable (Passes before done rest) :=
  decidable_of_iff _ passed?_eq_some_iff

end Passes

section Lexemes

variable {c : Char} {text before rest value : List Char} {kind : Kind}
  {done : List (Kind × String)} {scanned : Except (LexicalFault × Place) (List Token)}

theorem withoutPlaces_cons (t : Token) :
    withoutPlaces (scanned.map (t :: ·)) = (withoutPlaces scanned).map (t.lexeme :: ·) := by
  cases scanned <;> rfl

theorem withoutPlaces_scanFrom (place place' : Place) (skip : Nat) (cs : List Char) :
    withoutPlaces (scanFrom place skip cs) = withoutPlaces (scanFrom place' skip cs) := by
  induction cs generalizing place place' skip with
  | nil => cases skip <;> rfl
  | cons c cs ih =>
    cases skip with
    | succ skip => exact ih (place.next c) (place'.next c) skip
    | zero =>
      rw [scanFrom, scanFrom]
      cases front c cs with
      | gap more => exact ih (place.next c) (place'.next c) more
      | token kind value more =>
        have hCons := congrArg (Except.map ((kind, String.ofList value) :: ·))
          (ih (place.next c) (place'.next c) more)
        exact (withoutPlaces_cons ⟨kind, String.ofList value, place⟩).trans
          (hCons.trans (withoutPlaces_cons ⟨kind, String.ofList value, place'⟩).symm)
      | fault fault => rfl

theorem lexemes_of_gap (h : front c (text ++ rest) = .gap text.length) :
    lexemes (c :: (text ++ rest)) = lexemes rest := by
  rw [lexemes, scanFrom_of_gap h]
  exact withoutPlaces_scanFrom _ _ 0 rest

theorem lexemes_of_token (h : front c (text ++ rest) = .token kind value text.length) :
    lexemes (c :: (text ++ rest)) = (lexemes rest).map ((kind, String.ofList value) :: ·) := by
  rw [lexemes, scanFrom_of_token h, withoutPlaces_cons, withoutPlaces_scanFrom _ .start]
  rfl

/-- What the scanner has passed over contributes the same tokens whatever the rest gives. -/
theorem Passes.lexemes_append (h : Passes before done rest) :
    lexemes (before ++ rest) = (lexemes rest).map (done ++ ·) := by
  induction h with
  | @here rest =>
    rw [List.nil_append]
    cases lexemes rest <;> rfl
  | gap hFront _ ih =>
    rw [List.cons_append, List.append_assoc, lexemes_of_gap hFront, ih]
  | @token _ _ _ rest _ _ _ hFront _ ih =>
    rw [List.cons_append, List.append_assoc, lexemes_of_token hFront, ih]
    cases lexemes rest <;> rfl

end Lexemes

/-- Two rests begin alike, except that one may have a blank where the other has a slash. -/
def BlanksSlash (rest rest' : List Char) : Prop :=
  rest'.head? = rest.head? ∨ rest.head? = some '/' ∧ rest'.head? = some ' '

section Fronts

variable {c : Char} {text rest rest' value before : List Char} {kind : Kind}
  {done : List (Kind × String)}

theorem BlanksSlash.append (h : BlanksSlash rest rest') (before : List Char) :
    BlanksSlash (before ++ rest) (before ++ rest') := by
  cases before with
  | nil => exact h
  | cons c before => exact .inl rfl

theorem commentLength?_append (h : ¬ ['*', '/'] <:+: text ++ ['*']) :
    commentLength? (text ++ '*' :: '/' :: rest) = some (text.length + 2) := by
  induction text with
  | nil => rfl
  | cons c text ih =>
    rw [List.cons_append, pair_infix_cons_iff, not_or, not_and] at h
    rw [List.cons_append, commentLength?, ih h.2]
    · rfl
    · -- the text goes on with a star, so it does not end here
      rintro more hStar hEnd
      cases text with
      | nil => cases hEnd
      | cons d text =>
        rw [List.cons_append, List.cons.injEq] at hEnd
        exact h.1 hStar.symm (by rw [List.cons_append, hEnd.1]; rfl)

/-- The scanner passes over a part of a gap where one stands. -/
theorem front_of_isGapPart (h : IsGapPart (c :: text) rest) :
    front c (text ++ rest) = .gap text.length := by
  cases h with
  | blank hBlank =>
    simp only [List.mem_cons, List.not_mem_nil, or_false] at hBlank
    obtain rfl | rfl | rfl := hBlank <;> rfl
  | @lineComment text _ hLine hEnd =>
    have hTake : (text ++ rest).takeWhile (· ≠ '\n') = text := by
      refine takeWhile_append_of_head (fun d hd => ?_) fun d hd => by simp [hEnd d hd]
      have hFeed : d ≠ '\n' := ne_of_mem_of_not_mem hd hLine
      simpa using hFeed
    change Front.gap (1 + ((text ++ rest).takeWhile (· ≠ '\n')).length) = _
    rw [hTake, List.length_cons, Nat.add_comm]
  | @blockComment text _ hFirst =>
    have hSplit : (text ++ ['*', '/']) ++ rest = text ++ '*' :: '/' :: rest := by simp
    rw [List.cons_append, front, hSplit, commentLength?_append hFirst]
    simp [Nat.add_comm]

theorem IsGapPart.of_blanksSlash {part : List Char} (h : IsGapPart part rest)
    (hRest : BlanksSlash rest rest') : IsGapPart part rest' := by
  cases h with
  | blank hBlank => exact .blank hBlank
  | lineComment hLine hEnd =>
    refine .lineComment hLine ?_
    obtain hHead | ⟨hSlash, -⟩ := hRest
    · rwa [hHead]
    · -- a line comment takes a slash
      exact absurd (hEnd '/' hSlash) (by decide)
  | blockComment hFirst => exact .blockComment hFirst

theorem front_gap_of_blanksSlash (h : front c (text ++ rest) = .gap text.length)
    (hRest : BlanksSlash rest rest') : front c (text ++ rest') = .gap text.length := by
  obtain ⟨part, more, hSplit, hLength, hPart⟩ := exists_isGapPart h
  obtain ⟨rfl, rfl⟩ := List.append_inj hSplit hLength.symm
  exact front_of_isGapPart (hPart.of_blanksSlash hRest)

theorem front_of_ne_slash (h : c ≠ '/') (cs : List Char) :
    front c cs =
      if c == ' ' || c == '\t' || c == '\r' then .gap 0
      else if c == '\n' || c == ';' then .token .newline ['\n'] 0
      else if c == '\x7b' then .token .opening [c] 0
      else if c == '\x7d' then .token .closing [c] 0
      else if c == '=' then .token .equals [c] 0
      else if c == '"' then
        match readLiteral cs with
        | some (text, rest) => .token .string text (cs.length - rest.length)
        | none => .fault .unterminatedString
      else if isDigit c || c == '-' then frontNumber c cs
      else if isLetter c || c == '_' then frontWord c cs
      else .fault (.unexpectedChar c) := by
  unfold front
  split
  · exact absurd rfl h
  · exact absurd rfl h
  · rfl

theorem front_slash_ne_token {cs : List Char} {more : Nat} :
    front '/' cs ≠ .token kind value more := by
  have hNeither : (isDigit '/' || isLetter '/') = false := by decide +kernel
  rw [Bool.or_eq_false_iff] at hNeither
  intro h
  unfold front at h
  split at h
  · cases h
  · split at h <;> cases h
  · simp [hNeither.1, hNeither.2] at h

/-- A run of characters that ends with a text ends there before a blank as well. -/
theorem takeWhile_of_blanksSlash {p : Char → Bool} (hBlank : p ' ' = false)
    (hRest : BlanksSlash rest rest')
    (h : ((text ++ rest).takeWhile p).length = text.length) :
    (text ++ rest).takeWhile p = text ∧ (text ++ rest').takeWhile p = text := by
  have hTake : (text ++ rest).takeWhile p = text :=
    (List.append_inj List.takeWhile_append_dropWhile h).1
  have hAll : ∀ d ∈ text, p d = true := by
    rw [← hTake]
    exact fun d => List.mem_takeWhile_imp
  refine ⟨hTake, takeWhile_append_of_head hAll fun d hd => ?_⟩
  obtain hHead | ⟨-, hHead⟩ := hRest
  · rw [hHead] at hd
    rw [List.takeWhile_append_of_pos hAll] at hTake
    cases rest with
    | nil => cases hd
    | cons e rest =>
      cases hd
      rw [← Bool.not_eq_true]
      intro hMore
      simp [hMore] at hTake
  · rw [hHead] at hd
    cases hd
    exact hBlank

theorem readLiteral_append_of_length {more : List Char}
    (h : readLiteral (text ++ rest) = some (value, more))
    (hLength : (text ++ rest).length - more.length = text.length) (rest' : List Char) :
    readLiteral (text ++ rest') = some (value, rest') := by
  obtain ⟨body, hSplit, hBody⟩ := decodes_of_readLiteral h
  have hQuoted : text ++ rest = (body ++ ['"']) ++ more := by simpa using hSplit
  have hText : text.length = (body ++ ['"']).length := by
    rw [← hLength, hQuoted, List.length_append, Nat.add_sub_cancel]
  obtain ⟨rfl, -⟩ := List.append_inj hQuoted hText
  rw [List.append_assoc, List.singleton_append]
  exact readLiteral_of_decodes hBody

theorem frontNumber_of_blanksSlash (hRest : BlanksSlash rest rest')
    (h : frontNumber c (text ++ rest) = .token kind value text.length) :
    frontNumber c (text ++ rest') = .token kind value text.length := by
  have hBlank : (isDigit ' ' || ' ' == '.') = false := by decide +kernel
  have hLength : ((text ++ rest).takeWhile fun d => isDigit d || d == '.').length = text.length := by
    unfold frontNumber at h
    extract_lets digits numeral at h
    split at h
    · injection h
    · cases h
  obtain ⟨hTake, hTake'⟩ := takeWhile_of_blanksSlash (p := fun d => isDigit d || d == '.') hBlank
    hRest hLength
  simp only [frontNumber, hTake] at h
  simpa only [frontNumber, hTake'] using h

theorem frontWord_of_blanksSlash (hRest : BlanksSlash rest rest')
    (h : frontWord c (text ++ rest) = .token kind value text.length) :
    frontWord c (text ++ rest') = .token kind value text.length := by
  have hBlank : isWordRest ' ' = false := by decide +kernel
  have hLength : ((text ++ rest).takeWhile isWordRest).length = text.length := by
    simp only [frontWord, Front.token.injEq, List.length_cons, Nat.add_sub_cancel] at h
    exact h.2.2
  obtain ⟨hTake, hTake'⟩ := takeWhile_of_blanksSlash hBlank hRest hLength
  simp only [frontWord, hTake] at h
  simpa only [frontWord, hTake'] using h

/-- The scanner takes the same token if behind it a slash is blanked. -/
theorem front_token_of_blanksSlash (h : front c (text ++ rest) = .token kind value text.length)
    (hRest : BlanksSlash rest rest') : front c (text ++ rest') = .token kind value text.length := by
  have hSlash : c ≠ '/' := by
    rintro rfl
    exact front_slash_ne_token h
  rw [front_of_ne_slash hSlash] at h ⊢
  split_ifs at h ⊢ with hGap hNewline hOpening hClosing hEquals hQuote hNumber hWord
  · exact h
  · exact h
  · exact h
  · exact h
  · cases hRead : readLiteral (text ++ rest) with
    | none =>
      rw [hRead] at h
      cases h
    | some read =>
      rw [hRead] at h
      simp only [Front.token.injEq] at h
      obtain ⟨rfl, rfl, hLength⟩ := h
      rw [readLiteral_append_of_length hRead hLength]
      simp
  · exact frontNumber_of_blanksSlash hRest h
  · exact frontWord_of_blanksSlash hRest h

theorem Passes.of_blanksSlash (h : Passes before done rest) (hRest : BlanksSlash rest rest') :
    Passes before done rest' := by
  induction h with
  | here => exact .here
  | gap hFront _ ih =>
    exact .gap (front_gap_of_blanksSlash hFront (hRest.append _)) (ih hRest)
  | token hFront _ ih =>
    exact .token (front_token_of_blanksSlash hFront (hRest.append _)) (ih hRest)

end Fronts

section Comments

variable {before comment rest : List Char} {done : List (Kind × String)}

theorem lexemes_comment (h : IsComment comment rest) : lexemes (comment ++ rest) = lexemes rest := by
  obtain ⟨hPart, hSlash⟩ := h
  obtain ⟨text, rfl⟩ := List.head?_eq_some_iff.mp hSlash
  exact lexemes_of_gap (front_of_isGapPart hPart)

/-- A comment is what the scanner takes for one. -/
theorem isComment_iff_front {text : List Char} :
    IsComment ('/' :: text) rest ↔ front '/' (text ++ rest) = .gap text.length := by
  refine ⟨fun h => front_of_isGapPart h.1, fun h => ⟨?_, rfl⟩⟩
  obtain ⟨part, more, hSplit, hLength, hPart⟩ := exists_isGapPart h
  obtain ⟨rfl, rfl⟩ := List.append_inj hSplit hLength.symm
  exact hPart

theorem lexemes_blank (rest : List Char) : lexemes (' ' :: rest) = lexemes rest := by
  have hFront : front ' ' ([] ++ rest) = .gap ([] : List Char).length := rfl
  exact lexemes_of_gap hFront

/-- A comment between tokens can be replaced by a blank. -/
theorem lexemes_comment_eq_blank (h : Passes before done (comment ++ rest))
    (hComment : IsComment comment rest) :
    lexemes (before ++ (comment ++ rest)) = lexemes (before ++ ' ' :: rest) := by
  have hBlanked : BlanksSlash (comment ++ rest) (' ' :: rest) := by
    refine .inr ⟨?_, rfl⟩
    rw [List.head?_append, hComment.2]
    rfl
  rw [h.lexemes_append, (h.of_blanksSlash hBlanked).lexemes_append, lexemes_comment hComment,
    lexemes_blank]

end Comments

end Workflow.Source.Token
