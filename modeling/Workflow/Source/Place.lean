/-!
# Places in a source text

Lines and columns are counted from 1. Only a line feed begins a new line; every other character
moves one column on.
-/

namespace Workflow.Source

structure Place where
  line : Nat
  column : Nat
  deriving DecidableEq, Repr

namespace Place

def start : Place := ⟨1, 1⟩

/-- The place of an error that has none. -/
def unknown : Place := ⟨0, 0⟩

def next (p : Place) (c : Char) : Place :=
  if c = '\n' then ⟨p.line + 1, 1⟩ else ⟨p.line, p.column + 1⟩

/-- The place after a text that begins at `p`. -/
def after (p : Place) (cs : List Char) : Place :=
  cs.foldl next p

@[simp] theorem after_nil (p : Place) : p.after [] = p := rfl

@[simp] theorem after_cons (p : Place) (c : Char) (cs : List Char) :
    p.after (c :: cs) = (p.next c).after cs := rfl

theorem after_append (p : Place) (cs ds : List Char) :
    p.after (cs ++ ds) = (p.after cs).after ds := by
  simp [after]

end Place

end Workflow.Source
