/-!
# Text literals

A text stands between double quotes. A backslash takes the next character with it: `n` and `t`
stand for a line feed and a tab, any other character for itself. Writing a text with `escape` and
reading it back gives the text again.
-/

namespace Workflow.Text

def unescape (c : Char) : Char :=
  if c = 'n' then '\n' else if c = 't' then '\t' else c

/-- Reads a literal whose opening quote is past: its text and what follows the closing quote. -/
def readLiteral : List Char → Option (List Char × List Char)
  | [] => none
  | '"' :: rest => some ([], rest)
  | '\\' :: c :: rest => (readLiteral rest).map fun read => (unescape c :: read.1, read.2)
  | c :: rest => (readLiteral rest).map fun read => (c :: read.1, read.2)

def escape : List Char → List Char
  | [] => []
  | c :: cs => if c = '"' ∨ c = '\\' then '\\' :: c :: escape cs else c :: escape cs

theorem readLiteral_escape (cs rest : List Char) :
    readLiteral (escape cs ++ '"' :: rest) = some (cs, rest) := by
  induction cs with
  | nil => rfl
  | cons c cs ih =>
    by_cases hQuote : c = '"'
    · subst hQuote
      simp [escape, readLiteral, ih, unescape]
    · by_cases hSlash : c = '\\'
      · subst hSlash
        simp [escape, readLiteral, ih, unescape]
      · have hRead : readLiteral (c :: (escape cs ++ '"' :: rest)) =
            (readLiteral (escape cs ++ '"' :: rest)).map fun read => (c :: read.1, read.2) := by
          rw [readLiteral]
          · exact hQuote
          · intro d tail h
            exact absurd h hSlash
        simp [escape, hQuote, hSlash, hRead, ih]

theorem length_lt_of_readLiteral {cs text rest : List Char}
    (h : readLiteral cs = some (text, rest)) : rest.length < cs.length := by
  fun_induction readLiteral cs generalizing text with
  | case1 => cases h
  | case2 => cases h; simp
  | case3 c tail ih =>
    obtain ⟨read, hRead, hEq⟩ := Option.map_eq_some_iff.mp h
    cases hEq
    have := ih hRead
    simp only [List.length_cons]
    omega
  | case4 c tail _ _ ih =>
    obtain ⟨read, hRead, hEq⟩ := Option.map_eq_some_iff.mp h
    cases hEq
    have := ih hRead
    simp only [List.length_cons]
    omega

end Workflow.Text
