/-!
# Relations between texts

The two relations that conditions and routing expressions know.
-/

namespace Workflow

inductive Relation where
  | equal
  | differ
  deriving DecidableEq, Repr

namespace Relation

def flip : Relation → Relation
  | .equal => .differ
  | .differ => .equal

/-- The spelling in routing expressions. -/
def operator : Relation → String
  | .equal => "=="
  | .differ => "!="

/-- The spelling in edge conditions. -/
def sign : Relation → String
  | .equal => "="
  | .differ => "!="

def holds (relation : Relation) (left right : String) : Bool :=
  match relation with
  | .equal => left == right
  | .differ => left != right

@[simp] theorem flip_flip (relation : Relation) : relation.flip.flip = relation := by
  cases relation <;> rfl

@[simp] theorem holds_flip (relation : Relation) (left right : String) :
    relation.flip.holds left right = !relation.holds left right := by
  cases relation <;> simp [flip, holds, bne]

end Relation

end Workflow
