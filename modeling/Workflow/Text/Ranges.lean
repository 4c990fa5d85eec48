/-!
# Character classes as ranges of code points

A class of characters is a list of ranges. Membership is decided by the code point alone.
-/

namespace Workflow.Text

/-- Ranges of code points, both ends included. -/
abbrev Ranges := List (Nat × Nat)

def Ranges.covers (ranges : Ranges) (c : Char) : Bool :=
  ranges.any fun range => range.1 ≤ c.toNat && c.toNat ≤ range.2

theorem Ranges.covers_iff (ranges : Ranges) (c : Char) :
    ranges.covers c = true ↔ ∃ range ∈ ranges, range.1 ≤ c.toNat ∧ c.toNat ≤ range.2 := by
  simp [Ranges.covers]

end Workflow.Text
