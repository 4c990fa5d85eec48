import Workflow.Text.Ranges

/-!
# Blanks and trimming

The white space characters of version 14 of the character database, with the four information
separators. Trimming removes a maximal run of them from both ends.
-/

namespace Workflow.Text

def blankRanges : Ranges :=
  [(0x09, 0x0D), (0x1C, 0x20), (0x85, 0x85), (0xA0, 0xA0), (0x1680, 0x1680), (0x2000, 0x200A),
   (0x2028, 0x2029), (0x202F, 0x202F), (0x205F, 0x205F), (0x3000, 0x3000)]

def isBlank (c : Char) : Bool :=
  blankRanges.covers c

/-- The list without the characters of class `p` at its end. -/
def dropEnd (p : Char → Bool) (cs : List Char) : List Char :=
  (cs.reverse.dropWhile p).reverse

def trimChars (cs : List Char) : List Char :=
  dropEnd isBlank (cs.dropWhile isBlank)

def trim (s : String) : String :=
  String.ofList (trimChars s.toList)

def allBlank (s : String) : Bool :=
  s.toList.all isBlank

theorem dropEnd_nil (p : Char → Bool) : dropEnd p [] = [] := rfl

theorem dropEnd_append_singleton (p : Char → Bool) (cs : List Char) (c : Char) :
    dropEnd p (cs ++ [c]) = if p c then dropEnd p cs else cs ++ [c] := by
  cases h : p c <;> simp [dropEnd, h]

end Workflow.Text
