import Workflow.Definition.Basic

/-!
# Reachable stages

A stage leads to the targets of its choices, its routes or the transitions from it, by its kind.
`Definition.reachable` visits the declared stages that the start leads to, each once.
-/

namespace Workflow

namespace Definition

/-- The targets that a stage leads to, declared or not. -/
def targets (d : Definition) (stage : Stage) : List String :=
  match stage.kind with
  | .human => stage.choices.map (·.target)
  | .decision => stage.routes.map (·.target)
  | _ => (d.transitions.filter (·.source == stage.id)).map (·.target)

def leadsTo (d : Definition) (id : String) : List String :=
  match d.stage? id with
  | some stage => d.targets stage
  | none => []

end Definition

def unseen (names seen : List String) : List String :=
  names.filter fun name => !seen.contains name

theorem length_unseen_lt {names seen : List String} {name : String} (hName : name ∈ names)
    (hSeen : name ∉ seen) : (unseen names (name :: seen)).length < (unseen names seen).length := by
  have hSub : unseen names (name :: seen) =
      (unseen names seen).filter fun other => other ≠ name := by
    simp only [unseen, List.filter_filter]
    congr 1
    funext other
    by_cases h : other = name <;> simp [h]
  rw [hSub]
  refine Nat.lt_of_le_of_ne (List.length_filter_le _ _) fun hEq => ?_
  have hAll := List.length_filter_eq_length_iff.mp hEq name
    (by simp [unseen, hName, hSeen])
  simp at hAll

/-- The names of `names` that `queue` leads to by `step`, after those in `seen`. -/
def visit (names : List String) (step : String → List String) (seen : List String)
    (queue : List String) : List String :=
  match queue with
  | [] => seen
  | name :: queue =>
    if _h : name ∈ names ∧ name ∉ seen then
      visit names step (name :: seen) (queue ++ step name)
    else visit names step seen queue
termination_by ((unseen names seen).length, queue.length)
decreasing_by
  · exact Prod.Lex.left _ _ (length_unseen_lt _h.1 _h.2)
  · exact Prod.Lex.right _ (Nat.lt_succ_self _)

def Definition.reachable (d : Definition) : List String :=
  visit d.stageIds d.leadsTo [] [d.start]

end Workflow
