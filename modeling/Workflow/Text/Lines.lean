import Workflow.Text.Blank

/-!
# Lines of a text

A line ends at a line feed, a carriage return, the two together, a vertical tab, a form feed, one
of the separators U+001C to U+001E, U+0085, U+2028 or U+2029. The text after the last end is a
line of its own unless it is empty.
-/

namespace Workflow.Text

def isLineEnd (c : Char) : Bool :=
  (0x0A ≤ c.toNat && c.toNat ≤ 0x0D) || (0x1C ≤ c.toNat && c.toNat ≤ 0x1E) || c.toNat == 0x85
    || c.toNat == 0x2028 || c.toNat == 0x2029

/-- The lines of a text whose first line continues `line`, kept in reverse. -/
def linesFrom (line : List Char) : List Char → List (List Char)
  | [] => if line.isEmpty then [] else [line.reverse]
  | '\r' :: '\n' :: cs => line.reverse :: linesFrom [] cs
  | c :: cs => if isLineEnd c then line.reverse :: linesFrom [] cs else linesFrom (c :: line) cs

def lines (s : String) : List String :=
  (linesFrom [] s.toList).map String.ofList

def excerptLimit : Nat := 80

/-- The beginning of the trimmed line with the given number, counted from 1; empty where there is
no such line. -/
def excerpt (s : String) (line : Nat) : String :=
  if line = 0 then "" else
    match (linesFrom [] s.toList)[line - 1]? with
    | some cs => String.ofList ((trimChars cs).take excerptLimit)
    | none => ""

/-- Every line end written as CR, or CR and LF, becomes a line feed. -/
def unifyLineFeeds : List Char → List Char
  | [] => []
  | '\r' :: '\n' :: cs => '\n' :: unifyLineFeeds cs
  | '\r' :: cs => '\n' :: unifyLineFeeds cs
  | c :: cs => c :: unifyLineFeeds cs

end Workflow.Text
