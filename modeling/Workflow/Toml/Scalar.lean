import Workflow.Number.Decimal
import Workflow.Toml.Moment

/-!
# Scalars of TOML documents

Strings come in four kinds: basic ones with escapes and literal ones without, each on one line or,
between three marks, on several. Numbers may hold single underscores between two digits.
-/

namespace Workflow.Toml

open Workflow.Number

def isHexDigit (c : Char) : Bool :=
  c.isDigit || ('a' ≤ c && c ≤ 'f') || ('A' ≤ c && c ≤ 'F')

def hexValue (c : Char) : Nat :=
  if c.isDigit then c.toNat - 48 else if c ≤ 'F' then c.toNat - 55 else c.toNat - 87

/-- Controls that may stand neither in a string nor in a comment. -/
def isForbidden (c : Char) : Bool :=
  (c.toNat < 32 && c ≠ '\t') || c.toNat = 127

/-- The same for a string that may span lines. -/
def isForbiddenIn (spans : Bool) (c : Char) : Bool :=
  isForbidden c && !(spans && c = '\n')

def isBlank (c : Char) : Bool := c = ' ' || c = '\t'

def isGap (c : Char) : Bool := isBlank c || c = '\n'

def readCode (digits : List Char) : Except Fault Char :=
  let code := digits.foldl (fun n c => 16 * n + hexValue c) 0
  if digits.all isHexDigit && Nat.isValidChar code then .ok (Char.ofNat code) else .error .string

def escapes : List (Char × Char) :=
  [('b', '\x08'), ('t', '\t'), ('n', '\n'), ('f', '\x0c'), ('r', '\r'), ('"', '"'), ('\\', '\\')]

/-- What follows a backslash at the end of a line: all up to the next character that is neither a
blank nor a line feed. -/
def joinLine? (cs : List Char) : Option (List Char) :=
  match cs.dropWhile isBlank with
  | [] => if cs.isEmpty then none else some []
  | '\n' :: rest => some (rest.dropWhile isGap)
  | _ => none

theorem length_dropWhile_le {α : Type} (p : α → Bool) (l : List α) :
    (l.dropWhile p).length ≤ l.length :=
  (List.dropWhile_sublist p).length_le

theorem length_le_of_joinLine? {cs rest : List Char} (h : joinLine? cs = some rest) :
    rest.length ≤ cs.length := by
  have hDrop := length_dropWhile_le isBlank cs
  unfold joinLine? at h
  split at h
  · split at h
    · simp at h
    · cases h
      simp
  · rename_i after hEq
    cases h
    have := length_dropWhile_le isGap after
    rw [hEq] at hDrop
    simp only [List.length_cons] at hDrop
    omega
  · simp at h

def readEscape (cs : List Char) : Except Fault (Front Char) :=
  match cs with
  | 'u' :: cs =>
    if cs.length < 4 then .error .string
    else (readCode (cs.take 4)).map fun c => (c, cs.drop 4)
  | 'U' :: cs =>
    if cs.length < 8 then .error .string
    else (readCode (cs.take 8)).map fun c => (c, cs.drop 8)
  | c :: cs =>
    match escapes.lookup c with
    | some c => .ok (c, cs)
    | none => .error .string
  | [] => .error .string

theorem length_le_of_readEscape {cs rest : List Char} {c : Char}
    (h : readEscape cs = .ok (c, rest)) : rest.length ≤ cs.length := by
  unfold readEscape at h
  split at h
  · split at h
    · simp at h
    · simp only [Except.map] at h
      split at h <;> simp at h
      simp [← h.2]
      omega
  · split at h
    · simp at h
    · simp only [Except.map] at h
      split at h <;> simp at h
      simp [← h.2]
      omega
  · split at h <;> simp at h
    simp [← h.2]
  · simp at h

/-- What follows the end of a string, when the text is that behind a mark: a string that spans lines
ends at three marks. -/
def ending? (spans : Bool) (mark : Char) (cs : List Char) : Option (List Char) :=
  if !spans then some cs
  else match cs with
    | c :: d :: rest => if c = mark ∧ d = mark then some rest else none
    | _ => none

def readBasic (spans : Bool) (cs : List Char) : Except Fault (Front (List Char)) :=
  match cs with
  | [] => .error .string
  | '"' :: rest =>
    match ending? spans '"' rest with
    | some after => .ok ([], after)
    | none => (readBasic spans rest).map fun r => ('"' :: r.1, r.2)
  | '\\' :: rest =>
    match _hJoin : if spans then joinLine? rest else none with
    | some after => readBasic spans after
    | none =>
      match _hEscape : readEscape rest with
      | .error fault => .error fault
      | .ok (c, after) => (readBasic spans after).map fun r => (c :: r.1, r.2)
  | c :: rest =>
    if isForbiddenIn spans c then .error .string
    else (readBasic spans rest).map fun r => (c :: r.1, r.2)
termination_by cs.length
decreasing_by
  · simp
  · have hJoined : joinLine? rest = some after := by
      cases spans <;> simp_all
    have := length_le_of_joinLine? hJoined
    simp only [List.length_cons]
    omega
  · have := length_le_of_readEscape _hEscape
    simp only [List.length_cons]
    omega
  · simp

def readLiteral (spans : Bool) : List Char → Except Fault (Front (List Char))
  | [] => .error .string
  | '\'' :: rest =>
    match ending? spans '\'' rest with
    | some after => .ok ([], after)
    | none => (readLiteral spans rest).map fun r => ('\'' :: r.1, r.2)
  | c :: rest =>
    if isForbiddenIn spans c then .error .string
    else (readLiteral spans rest).map fun r => (c :: r.1, r.2)

/-- Up to two more marks behind the closing ones belong to a string that spans lines. -/
def extraMarks (mark : Char) (read : List Char × List Char) : List Char × List Char :=
  let count := min 2 (read.2.takeWhile (· == mark)).length
  (read.1 ++ List.replicate count mark, read.2.drop count)

def dropFirstLineFeed : List Char → List Char
  | '\n' :: cs => cs
  | cs => cs

/-- The digits at the front of a text, without the underscores between them. -/
def digitRun (p : Char → Bool) : List Char → List Char × List Char
  | '_' :: d :: cs =>
    if p d then
      let run := digitRun p cs
      (d :: run.1, run.2)
    else ([], '_' :: d :: cs)
  | c :: cs =>
    if p c then
      let run := digitRun p cs
      (c :: run.1, run.2)
    else ([], c :: cs)
  | [] => ([], [])

def digits? (p : Char → Bool) (cs : List Char) : Option (List Char × List Char) :=
  match cs with
  | c :: _ => if p c then some (digitRun p cs) else none
  | [] => none

def radixes : List (Char × Nat) := [('x', 16), ('o', 8), ('b', 2)]

def readRadix? (cs : List Char) : Option (Front Value) :=
  match cs with
  | '0' :: mark :: rest => do
    let base ← radixes.lookup mark
    let (digits, rest) ← digits? (fun c => isHexDigit c && decide (hexValue c < base)) rest
    some (.integer (digits.foldl (fun n c => base * n + hexValue c) 0), rest)
  | _ => none

def fraction (cs : List Char) : List Char × List Char :=
  match cs with
  | '.' :: rest => ((digits? Char.isDigit rest).map fun r => ('.' :: r.1, r.2)).getD ([], cs)
  | _ => ([], cs)

def exponent (cs : List Char) : List Char × List Char :=
  match cs with
  | mark :: rest =>
    if mark == 'e' || mark == 'E' then
      let sign := rest.take (if rest.head? == some '+' || rest.head? == some '-' then 1 else 0)
      ((digits? Char.isDigit (rest.drop sign.length)).map fun r =>
        (mark :: sign ++ r.1, r.2)).getD ([], cs)
    else ([], cs)
  | [] => ([], cs)

/-- The digits before the point: a zero alone, or a run that begins with none. -/
def wholePart? (cs : List Char) : Option (List Char × List Char) :=
  match cs with
  | '0' :: rest => some (['0'], rest)
  | _ => digits? Char.isDigit cs

def readDecimal? (cs : List Char) : Option (Except Fault (Front Value)) := do
  let sign := cs.take (if cs.head? == some '+' || cs.head? == some '-' then 1 else 0)
  let (whole, rest) ← wholePart? (cs.drop sign.length)
  let (pointed, rest) := fraction rest
  let (scaled, rest) := exponent rest
  let text := sign ++ whole ++ pointed ++ scaled
  if !pointed.isEmpty || !scaled.isEmpty then
    some (.ok (.float ((readBinary64? (String.ofList text)).getD Binary64.nan), rest))
  else if digitLimit < whole.length then some (.error (.tooManyDigits whole.length))
  else some (.ok (.integer (ofNumeral text), rest))

def words : List (String × Value) :=
  [("true", .boolean true), ("false", .boolean false), ("inf", .float (.infinity false)),
    ("+inf", .float (.infinity false)), ("-inf", .float (.infinity true)),
    ("nan", .float .nan), ("+nan", .float .nan), ("-nan", .float .nan)]

def readWord? (cs : List Char) : Option (Front Value) :=
  (words.find? fun word => word.1.toList.isPrefixOf cs).map fun word =>
    (word.2, cs.drop word.1.length)

def ofChars (reading : Except Fault (Front (List Char))) : Except Fault (Front Value) :=
  reading.map fun r => (.string (String.ofList r.1), r.2)

def readScalar (cs : List Char) : Except Fault (Front Value) :=
  match cs with
  | '"' :: '"' :: '"' :: rest =>
    ofChars ((readBasic true (dropFirstLineFeed rest)).map (extraMarks '"'))
  | '"' :: rest => ofChars (readBasic false rest)
  | '\'' :: '\'' :: '\'' :: rest =>
    ofChars ((readLiteral true (dropFirstLineFeed rest)).map (extraMarks '\''))
  | '\'' :: rest => ofChars (readLiteral false rest)
  | _ =>
    match readMoment? cs, readRadix? cs, readDecimal? cs, readWord? cs with
    | some result, _, _, _ => result
    | none, some read, _, _ => .ok read
    | none, none, some result, _ => result
    | none, none, none, some read => .ok read
    | none, none, none, none => .error .value

end Workflow.Toml
