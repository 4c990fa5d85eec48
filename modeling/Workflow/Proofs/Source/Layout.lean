import Mathlib.Data.List.Induction
import Workflow.Proofs.Source.Spelling
import Workflow.Proofs.Text.Blank
import Workflow.Proofs.Text.Cut
import Workflow.Definition.Reader

/-!
# Where the tokens of a source stand

A source is laid out as its tokens: gaps of blanks and whole comments stand between the spellings of
the tokens, nothing else does, and nothing is left over. The place of a token counts the line feeds
before its first character and the characters behind the last of them. The proof goes along the
scanner: what stands at the front of a text is a part of a gap or the spelling of a token.
-/

namespace Workflow.Source

open Workflow.Text

namespace Place

/-- The place behind a text at the beginning of a source, by counting. -/
def behind (cs : List Char) : Place :=
  ⟨1 + cs.count '\n', 1 + (cs.reverse.takeWhile (· ≠ '\n')).length⟩

theorem after_start (cs : List Char) : start.after cs = behind cs := by
  induction cs using List.reverseRecOn with
  | nil => rfl
  | append_singleton cs c ih =>
    rw [after_append, ih, after_cons, after_nil, next, behind, behind]
    split
    · next hFeed =>
      subst hFeed
      simp [Nat.add_assoc]
    · next hOther =>
      simp [hOther, Nat.add_comm]

theorem behind_append (cs ds : List Char) : behind (cs ++ ds) = (behind cs).after ds := by
  rw [← after_start, ← after_start, after_append]

def Precedes (p q : Place) : Prop :=
  p.line < q.line ∨ p.line = q.line ∧ p.column < q.column

theorem Precedes.trans {p q r : Place} (h : p.Precedes q) (h' : q.Precedes r) : p.Precedes r := by
  unfold Precedes at *
  omega

theorem precedes_next (p : Place) (c : Char) : p.Precedes (p.next c) := by
  unfold Precedes next
  split
  · exact Or.inl (Nat.lt_succ_self p.line)
  · exact Or.inr ⟨rfl, Nat.lt_succ_self p.column⟩

theorem precedes_after {cs : List Char} (h : cs ≠ []) (p : Place) : p.Precedes (p.after cs) := by
  induction cs generalizing p with
  | nil => exact absurd rfl h
  | cons c cs ih =>
    rw [after_cons]
    by_cases hMore : cs = []
    · rw [hMore, after_nil]
      exact precedes_next p c
    · exact (precedes_next p c).trans (ih hMore (p.next c))

theorem precedes_or_eq_behind (cs ds : List Char) :
    (behind cs).Precedes (behind (cs ++ ds)) ∨ behind cs = behind (cs ++ ds) := by
  rw [behind_append]
  by_cases hMore : ds = []
  · exact Or.inr (by rw [hMore, after_nil])
  · exact Or.inl (precedes_after hMore _)

end Place

namespace Token

/-- What the body of a string stands for: a backslash with its next character is a line feed, a tab
or that character, and no bare quote ends the string early. -/
inductive Decodes : List Char → List Char → Prop
  | done : Decodes [] []
  | lineFeed {body text : List Char} : Decodes body text →
      Decodes ('\\' :: 'n' :: body) ('\n' :: text)
  | tab {body text : List Char} : Decodes body text → Decodes ('\\' :: 't' :: body) ('\t' :: text)
  | escaped {c : Char} {body text : List Char} : c ≠ 'n' → c ≠ 't' → Decodes body text →
      Decodes ('\\' :: c :: body) (c :: text)
  | plain {c : Char} {body text : List Char} : c ≠ '"' → c ≠ '\\' → Decodes body text →
      Decodes (c :: body) (c :: text)

/-- The values that a token of some kind can have. -/
def Kind.Admits (value : String) : Kind → Prop
  | .word => IsWord value
  | .string => True
  | .number =>
    isDecimalText (if value.toList.head? = some '-' then value.toList.tail else value.toList) = true
  | .boolean => value = "true" ∨ value = "false"
  | .opening => value = "\x7b"
  | .closing => value = "\x7d"
  | .equals => value = "="
  | .newline => value = "\n"

def IsSpelledBy (t : Token) (spelling : List Char) : Prop :=
  t.kind.Admits t.value ∧
    match t.kind with
    | .string => ∃ body, spelling = '"' :: (body ++ ['"']) ∧ Decodes body t.value.toList
    | .newline => spelling = ['\n'] ∨ spelling = [';']
    | _ => spelling = t.value.toList

/-- A blank, a line comment up to the end of its line, or a block comment up to its first end. -/
inductive IsGapPart : List Char → List Char → Prop
  | blank {c : Char} {rest : List Char} : c ∈ [' ', '\t', '\r'] → IsGapPart [c] rest
  | lineComment {text rest : List Char} : '\n' ∉ text → (∀ c ∈ rest.head?, c = '\n') →
      IsGapPart ('/' :: '/' :: text) rest
  | blockComment {text rest : List Char} : ¬ ['*', '/'] <:+: text ++ ['*'] →
      IsGapPart ('/' :: '*' :: (text ++ ['*', '/'])) rest

inductive IsGap : List Char → List Char → Prop
  | nil {rest : List Char} : IsGap [] rest
  | append {part gap rest : List Char} : IsGapPart part (gap ++ rest) → IsGap gap rest →
      IsGap (part ++ gap) rest

/-- The rest of a source, of which some text is done, is laid out as tokens: gaps and spellings
alternate, and each token has the place behind all that stands before it. -/
inductive LaidOut : List Char → List Char → List Token → Prop
  | done {before gap : List Char} : IsGap gap [] → LaidOut before gap []
  | token {before gap spelling rest : List Char} {t : Token} {ts : List Token} :
      IsGap gap (spelling ++ rest) → t.IsSpelledBy spelling →
      t.place = Place.behind (before ++ gap) → LaidOut (before ++ gap ++ spelling) rest ts →
      LaidOut before (gap ++ (spelling ++ rest)) (t :: ts)

section Literals

variable {cs text rest : List Char}

theorem decodes_of_readLiteral (h : readLiteral cs = some (text, rest)) :
    ∃ body, cs = body ++ '"' :: rest ∧ Decodes body text := by
  fun_induction readLiteral cs generalizing text with
  | case1 => cases h
  | case2 =>
    cases h
    exact ⟨[], rfl, .done⟩
  | case3 c tail ih =>
    obtain ⟨read, hRead, hEq⟩ := Option.map_eq_some_iff.mp h
    cases hEq
    obtain ⟨body, rfl, hBody⟩ := ih hRead
    refine ⟨'\\' :: c :: body, rfl, ?_⟩
    unfold unescape
    split
    · next hFeed => exact hFeed ▸ .lineFeed hBody
    · next hFeed =>
      split
      · next hTab => exact hTab ▸ .tab hBody
      · next hTab => exact .escaped hFeed hTab hBody
  | case4 c tail hQuote hSlash ih =>
    obtain ⟨read, hRead, hEq⟩ := Option.map_eq_some_iff.mp h
    cases hEq
    obtain ⟨body, rfl, hBody⟩ := ih hRead
    refine ⟨c :: body, rfl, .plain hQuote (fun hBackslash => ?_) hBody⟩
    cases hTail : body ++ '"' :: read.2 with
    | nil => simp at hTail
    | cons d more => exact hSlash d more hBackslash hTail

theorem readLiteral_of_decodes {body : List Char} (h : Decodes body text) :
    readLiteral (body ++ '"' :: rest) = some (text, rest) := by
  induction h with
  | done => rfl
  | lineFeed _ ih | tab _ ih =>
    rw [List.cons_append, List.cons_append, readLiteral, ih]
    rfl
  | escaped hFeed hTab _ ih =>
    rw [List.cons_append, List.cons_append, readLiteral, ih, Option.map_some, unescape, if_neg hFeed,
      if_neg hTab]
  | plain hQuote hSlash _ ih =>
    rw [List.cons_append, readLiteral_cons_of_ne hQuote hSlash, ih]
    rfl

theorem decodes_escape (cs : List Char) : Decodes (escape cs) cs := by
  obtain ⟨body, hBody, hDecodes⟩ := decodes_of_readLiteral (readLiteral_escape cs [])
  rwa [List.append_cancel_right hBody]

theorem exists_of_commentLength? {length : Nat} (h : commentLength? cs = some length) :
    ∃ text rest, cs = text ++ '*' :: '/' :: rest ∧ text.length + 2 = length ∧
      ¬ ['*', '/'] <:+: text ++ ['*'] := by
  fun_induction commentLength? cs generalizing length with
  | case1 => cases h
  | case2 rest =>
    cases h
    exact ⟨[], rest, rfl, rfl, by decide⟩
  | case3 c cs hEnd ih =>
    obtain ⟨shorter, hLength, rfl⟩ := Option.map_eq_some_iff.mp h
    obtain ⟨text, rest, rfl, rfl, hFirst⟩ := ih hLength
    refine ⟨c :: text, rest, rfl, by simp [Nat.add_right_comm], ?_⟩
    rw [List.cons_append, pair_infix_cons_iff, not_or, not_and]
    refine ⟨fun hStar hSlash => ?_, hFirst⟩
    cases text with
    | nil => simp at hSlash
    | cons d text =>
      obtain rfl : d = '/' := by simpa using hSlash
      exact hEnd _ hStar.symm rfl

end Literals

section Fronts

variable {c : Char} {cs : List Char} {kind : Kind} {value : List Char} {more : Nat} {place : Place}

theorem frontNumber_ne_gap : frontNumber c cs ≠ .gap more := by
  intro h
  unfold frontNumber at h
  extract_lets text digits at h
  split at h <;> cases h

/-- What the scanner passes over at the front of a text is a part of a gap. -/
theorem exists_isGapPart (h : front c cs = .gap more) :
    ∃ text rest, cs = text ++ rest ∧ text.length = more ∧ IsGapPart (c :: text) rest := by
  unfold front at h
  split at h
  · next tail =>
    cases h
    refine ⟨'/' :: tail.takeWhile (· ≠ '\n'), tail.dropWhile (· ≠ '\n'),
      by rw [List.cons_append, List.takeWhile_append_dropWhile], by simp [Nat.add_comm], ?_⟩
    refine .lineComment (fun hFeed => ?_) fun d hd => ?_
    · simpa using List.mem_takeWhile_imp hFeed
    · have hHead := List.head?_dropWhile_not (· ≠ '\n') tail
      rw [Option.mem_def.mp hd] at hHead
      simpa using hHead
  · next tail =>
    split at h
    · next length hLength =>
      cases h
      obtain ⟨text, rest, rfl, rfl, hFirst⟩ := exists_of_commentLength? hLength
      refine ⟨'*' :: (text ++ ['*', '/']), rest, by simp, by simp [Nat.add_comm], ?_⟩
      exact .blockComment hFirst
    · cases h
  · split at h
    · next hBlank =>
      cases h
      exact ⟨[], cs, rfl, rfl, .blank (by simpa [or_assoc] using hBlank)⟩
    · repeat' split at h
      all_goals first | cases h | exact absurd h frontNumber_ne_gap

theorem isSpelledBy_of_frontNumber (h : frontNumber c cs = .token kind value more) :
    ∃ text rest, cs = text ++ rest ∧ text.length = more ∧
      IsSpelledBy ⟨kind, String.ofList value, place⟩ (c :: text) := by
  unfold frontNumber at h
  extract_lets text digits at h
  split at h
  · next hDecimal =>
    cases h
    refine ⟨text, _, List.takeWhile_append_dropWhile.symm, rfl, ?_, String.toList_ofList.symm⟩
    simpa [Kind.Admits, digits] using hDecimal
  · cases h

theorem isSpelledBy_of_frontWord (h : frontWord c cs = .token kind value more)
    (hWord : kind = .word → IsWord (String.ofList value)) :
    ∃ text rest, cs = text ++ rest ∧ text.length = more ∧
      IsSpelledBy ⟨kind, String.ofList value, place⟩ (c :: text) := by
  simp only [frontWord, Front.token.injEq] at h
  obtain ⟨rfl, rfl, rfl⟩ := h
  refine ⟨_, _, List.takeWhile_append_dropWhile.symm, rfl, ?_⟩
  split
  · next hBoolean => exact ⟨hBoolean, String.toList_ofList.symm⟩
  · next hNeither => exact ⟨hWord (if_neg hNeither), String.toList_ofList.symm⟩

/-- What the scanner takes for a token at the front of a text is a spelling of the token. -/
theorem exists_isSpelledBy (place : Place) (h : front c cs = .token kind value more) :
    ∃ text rest, cs = text ++ rest ∧ text.length = more ∧
      IsSpelledBy ⟨kind, String.ofList value, place⟩ (c :: text) := by
  have hLexical : IsLexical ⟨kind, String.ofList value, place⟩ := isLexical_of_front h
  unfold front at h
  split at h
  · cases h
  · split at h <;> cases h
  · split at h
    · cases h
    split at h
    · next hNewline =>
      cases h
      exact ⟨[], cs, rfl, rfl, rfl, by simpa using hNewline⟩
    split at h
    · next hOpening =>
      cases h
      obtain rfl := beq_iff_eq.mp hOpening
      exact ⟨[], cs, rfl, rfl, rfl, String.toList_ofList.symm⟩
    split at h
    · next hClosing =>
      cases h
      obtain rfl := beq_iff_eq.mp hClosing
      exact ⟨[], cs, rfl, rfl, rfl, String.toList_ofList.symm⟩
    split at h
    · next hEquals =>
      cases h
      obtain rfl := beq_iff_eq.mp hEquals
      exact ⟨[], cs, rfl, rfl, rfl, String.toList_ofList.symm⟩
    split at h
    · next hQuote =>
      obtain rfl := beq_iff_eq.mp hQuote
      split at h
      · next text rest hRead =>
        cases h
        obtain ⟨body, rfl, hBody⟩ := decodes_of_readLiteral hRead
        refine ⟨body ++ ['"'], rest, by simp, by simp; omega, trivial, body, rfl, ?_⟩
        rwa [String.toList_ofList]
      · cases h
    split at h
    · exact isSpelledBy_of_frontNumber h
    split at h
    · exact isSpelledBy_of_frontWord h hLexical.word
    · cases h

end Fronts

theorem Kind.not_admits_empty {kind : Kind} (h : kind ≠ .string) : ¬ kind.Admits "" := by
  cases kind with
  | word => change ¬ IsWord ""; decide
  | string => exact absurd rfl h
  | number => change ¬ isDecimalText _ = true; decide
  | boolean | opening | closing | equals | newline => simp [Kind.Admits]

theorem IsSpelledBy.ne_nil {t : Token} {spelling : List Char} (h : t.IsSpelledBy spelling) :
    spelling ≠ [] := by
  rintro rfl
  obtain ⟨hAdmits, hSpelling⟩ := h
  cases hKind : t.kind with
  | string =>
    rw [hKind] at hSpelling
    obtain ⟨body, hBody, -⟩ := hSpelling
    cases hBody
  | newline => simp [hKind] at hSpelling
  | word | number | boolean | opening | closing | equals =>
    have hEmpty : t.value = "" := by
      rw [hKind] at hSpelling
      exact String.toList_eq_nil_iff.mp hSpelling.symm
    rw [hKind, hEmpty] at hAdmits
    exact Kind.not_admits_empty (by decide) hAdmits

section LaidOut

variable {before part rest cs : List Char} {ts : List Token}

theorem LaidOut.of_gapPart (hPart : IsGapPart part rest) (h : LaidOut (before ++ part) rest ts) :
    LaidOut before (part ++ rest) ts := by
  cases h with
  | done hGap => exact .done (.append (by rwa [List.append_nil]) hGap)
  | @token _ gap spelling rest t ts hGap hSpelled hPlace hRest =>
    rw [← List.append_assoc]
    refine .token (.append hPart hGap) hSpelled ?_ ?_
    · rw [hPlace, List.append_assoc]
    · rwa [← List.append_assoc]

theorem LaidOut.of_spelling {t : Token} (hSpelled : t.IsSpelledBy part)
    (hPlace : t.place = Place.behind before) (h : LaidOut (before ++ part) rest ts) :
    LaidOut before (part ++ rest) (t :: ts) := by
  have hRest : LaidOut (before ++ [] ++ part) rest ts := by rwa [List.append_nil]
  exact .token .nil hSpelled (by rwa [List.append_nil]) hRest

/-- What the scanner gives for the rest of a source is how the rest is laid out. By induction on the
length of the rest, since the scanner passes over whole spellings and parts of gaps. -/
theorem laidOut_of_scanFrom (h : scanFrom (Place.behind before) 0 cs = .ok ts) :
    LaidOut before cs ts := by
  induction hLength : cs.length using Nat.strong_induction_on generalizing before cs ts with
  | _ length ih =>
  subst hLength
  cases cs with
  | nil =>
    cases h
    exact .done .nil
  | cons c cs =>
    have hBehind (text : List Char) :
        ((Place.behind before).next c).after text = Place.behind (before ++ c :: text) :=
      (Place.behind_append before (c :: text)).symm
    have hShorter (text rest : List Char) : rest.length < (c :: (text ++ rest)).length := by
      rw [List.length_cons, List.length_append]
      omega
    rw [scanFrom] at h
    cases hFront : front c cs with
    | gap more =>
      rw [hFront] at h
      obtain ⟨text, rest, rfl, rfl, hPart⟩ := exists_isGapPart hFront
      dsimp only at h
      rw [scanFrom_skip, hBehind] at h
      exact .of_gapPart hPart (ih _ (hShorter text rest) h rfl)
    | token kind value more =>
      rw [hFront] at h
      obtain ⟨others, hOthers, hTokens⟩ := Except.bind_eq_ok_iff.mp h
      cases hTokens
      obtain ⟨text, rest, rfl, rfl, hSpelled⟩ :=
        exists_isSpelledBy (Place.behind before) hFront
      rw [scanFrom_skip, hBehind] at hOthers
      exact .of_spelling hSpelled rfl (ih _ (hShorter text rest) hOthers rfl)
    | fault fault =>
      rw [hFront] at h
      cases h

theorem laidOut_of_scan {source : String} (h : scan source = .ok ts) :
    LaidOut [] source.toList ts :=
  laidOut_of_scanFrom h

/-- The places of the tokens and of the end, from a place that is not behind them. -/
theorem LaidOut.places (h : LaidOut before rest ts) :
    (∀ p ∈ ts.map Token.place ++ [Place.behind (before ++ rest)],
      (Place.behind before).Precedes p ∨ Place.behind before = p) ∧
    (ts.map Token.place ++ [Place.behind (before ++ rest)]).Pairwise Place.Precedes := by
  induction h with
  | @done before gap hGap =>
    refine ⟨fun p hp => ?_, List.pairwise_singleton _ _⟩
    obtain rfl := List.mem_singleton.mp hp
    exact Place.precedes_or_eq_behind before gap
  | @token before gap spelling rest t ts hGap hSpelled hPlace hRest ih =>
    obtain ⟨ihFirst, ihOrder⟩ := ih
    have hGapBefore := Place.precedes_or_eq_behind before gap
    have hLess : t.place.Precedes (Place.behind (before ++ gap ++ spelling)) := by
      rw [hPlace, Place.behind_append _ spelling]
      exact Place.precedes_after hSpelled.ne_nil _
    have hNext {p : Place} (hp : p ∈ ts.map Token.place ++ [Place.behind
        (before ++ gap ++ spelling ++ rest)]) : t.place.Precedes p := by
      obtain hFirst | rfl := ihFirst p hp
      · exact hLess.trans hFirst
      · exact hLess
    simp only [List.append_assoc] at *
    rw [List.map_cons, List.cons_append]
    refine ⟨List.forall_mem_cons.mpr ⟨hPlace ▸ hGapBefore, fun p hp => Or.inl ?_⟩,
      ihOrder.cons fun p hp => hNext hp⟩
    obtain hBefore | hSame := hGapBefore
    · exact hBefore.trans (hPlace ▸ hNext hp)
    · exact hSame ▸ hPlace ▸ hNext hp

/-- The tokens of a source stand where its layout says, in order and all before its end, and the
end is where a grammar fault without a token is reported. -/
theorem layout_of_scan {source : String} (h : scan source = .ok ts) :
    LaidOut [] source.toList ts ∧
      (ts.map Token.place ++ [Place.behind source.toList]).Pairwise Place.Precedes ∧
      ∀ fault, Node.ofTokens ts = .error (.grammar fault none) →
        Definition.parse source = .error
          (Definition.malformed source (.grammar fault) (Place.behind source.toList) "") := by
  have hLaidOut := laidOut_of_scan h
  refine ⟨hLaidOut, hLaidOut.places.2, fun fault hTree => ?_⟩
  rw [Definition.parse, h]
  change Except.mapError (Definition.treeError source) (Node.ofTokens ts) >>= _ = _
  rw [hTree, ← Place.after_start]
  rfl

/-- A block that is not closed, with a comment, escapes, both separators and a numeral. -/
theorem layout_of_open_block :
    let source := "a/* \x7b */\"x\\n\\q\" \x7b;\n\tb c=-1.5//\x7d"
    let tokens : List Token := [⟨.word, "a", ⟨1, 1⟩⟩, ⟨.string, "x\nq", ⟨1, 9⟩⟩,
      ⟨.opening, "\x7b", ⟨1, 17⟩⟩, ⟨.newline, "\n", ⟨1, 18⟩⟩, ⟨.newline, "\n", ⟨1, 19⟩⟩,
      ⟨.word, "b", ⟨2, 2⟩⟩, ⟨.word, "c", ⟨2, 4⟩⟩, ⟨.equals, "=", ⟨2, 5⟩⟩,
      ⟨.number, "-1.5", ⟨2, 6⟩⟩]
    scan source = .ok tokens ∧ LaidOut [] source.toList tokens ∧
      (tokens.map Token.place ++ [Place.behind source.toList]).Pairwise Place.Precedes ∧
      Definition.parse source = .error (Definition.malformed source (.grammar .unexpectedEnd)
        (Place.behind source.toList) "") := by
  intro source tokens
  have hScan : scan source = .ok tokens := by decide +kernel
  have hTree : Node.ofTokens tokens = .error (.grammar .unexpectedEnd none) := by
    simp [tokens, Node.ofTokens, Node.readNodes, Node.readNode, Node.readItems, Node.endsLine,
      Node.readValue, Node.readNumber, nestingLimit, bind, Except.bind, Except.map]
  obtain ⟨hLaidOut, hOrder, hEnd⟩ := layout_of_scan hScan
  exact ⟨hScan, hLaidOut, hOrder, hEnd .unexpectedEnd hTree⟩

end LaidOut

end Token

end Workflow.Source
