import Workflow.Proofs.Condition.Clauses
import Workflow.Routing.Guard

/-!
# Leaves as clauses of conditions

A leaf stands for one clause, whose key begins with `context.`. Argument and value are put into
the text of the condition as they are, so the text has further conditions of its own to give that
clause back.
-/

namespace Workflow.Routing

open Workflow.Text

namespace Leaf

def argument : Leaf → String
  | .compare _ argument _ _ => argument
  | .present path => path
  | .absent path => path

def isOutcome : Leaf → Bool
  | .compare .outcome .. => true
  | _ => false

def key (leaf : Leaf) : String :=
  "context." ++ leaf.argument ++ if leaf.isOutcome then ".status" else ""

/-- The path that is looked up: a stage has its status below its id. -/
def path (leaf : Leaf) : String :=
  leaf.argument ++ if leaf.isOutcome then ".status" else ""

theorem key_eq (leaf : Leaf) : leaf.key = "context." ++ leaf.path :=
  String.append_assoc

def relation : Leaf → Relation
  | .compare _ _ relation _ => relation
  | .present _ => .differ
  | .absent _ => .equal

/-- The word that is compared with; a presence test compares with the empty one. -/
def literal : Leaf → String
  | .compare _ _ _ value => value
  | _ => ""

def clause (leaf : Leaf) : Clause :=
  ⟨leaf.key, leaf.relation, leaf.literal⟩

theorem text_clause (leaf : Leaf) : leaf.clause.text = leaf.condition := by
  cases leaf with
  | compare subject argument relation value =>
    cases subject <;>
      simp [clause, Clause.text, condition, key, Leaf.argument, isOutcome, Leaf.relation, literal]
  | present path =>
    simp [clause, Clause.text, condition, key, argument, isOutcome, relation, literal, Relation.sign]
  | absent path =>
    simp [clause, Clause.text, condition, key, argument, isOutcome, relation, literal, Relation.sign]

theorem toList_key (leaf : Leaf) : ∃ rest, leaf.key.toList = 'c' :: rest := by
  simp [key]

/-- What argument and value have to leave out so that the clause can be found again. -/
structure ReadsBack (leaf : Leaf) : Prop where
  argument_join : ¬ Occurs "&&" leaf.argument
  literal_join : ¬ Occurs "&&" leaf.literal
  literal_begin : BeginsUnblank leaf.literal.toList
  literal_end : EndsUnblank leaf.literal.toList
  argument_end : leaf.isOutcome = false → EndsUnblank leaf.argument.toList
  differ_first : leaf.relation = .differ → ¬ Occurs "!=" leaf.argument
  equal_first : leaf.relation = .equal → ¬ Occurs "=" leaf.argument ∧ ¬ Occurs "!=" leaf.literal ∧
    (leaf.isOutcome = false → leaf.argument.toList.getLast? ≠ some '!')

theorem readsBack_iff {leaf : Leaf} : leaf.ReadsBack ↔
    ¬ Occurs "&&" leaf.argument ∧ ¬ Occurs "&&" leaf.literal ∧
    BeginsUnblank leaf.literal.toList ∧ EndsUnblank leaf.literal.toList ∧
    (leaf.isOutcome = false → EndsUnblank leaf.argument.toList) ∧
    (leaf.relation = .differ → ¬ Occurs "!=" leaf.argument) ∧
    (leaf.relation = .equal → ¬ Occurs "=" leaf.argument ∧ ¬ Occurs "!=" leaf.literal ∧
      (leaf.isOutcome = false → leaf.argument.toList.getLast? ≠ some '!')) :=
  ⟨fun ⟨h₁, h₂, h₃, h₄, h₅, h₆, h₇⟩ => ⟨h₁, h₂, h₃, h₄, h₅, h₆, h₇⟩,
    fun ⟨h₁, h₂, h₃, h₄, h₅, h₆, h₇⟩ => ⟨h₁, h₂, h₃, h₄, h₅, h₆, h₇⟩⟩

instance (leaf : Leaf) : Decidable leaf.ReadsBack :=
  decidable_of_iff' _ readsBack_iff

theorem occurs_join_text_iff (leaf : Leaf) :
    Occurs "&&" leaf.clause.text ↔ Occurs "&&" leaf.argument ∨ Occurs "&&" leaf.literal := by
  cases hOutcome : leaf.isOutcome <;> cases hRelation : leaf.relation <;>
    simp [Occurs, clause, Clause.text, key, hOutcome, hRelation, Relation.sign,
      pair_infix_append_iff, pair_infix_cons_iff]

theorem trim_key_iff (leaf : Leaf) :
    trim leaf.key = leaf.key ↔ (leaf.isOutcome = false → EndsUnblank leaf.argument.toList) := by
  have hBegin : BeginsUnblank leaf.key.toList := by
    obtain ⟨rest, hRest⟩ := leaf.toList_key
    exact hRest ▸ beginsUnblank_cons.mpr (by decide)
  rw [trim_eq_self_iff, and_iff_right hBegin]
  cases hOutcome : leaf.isOutcome with
  | true =>
    have hEnd : EndsUnblank leaf.key.toList := by
      intro c hc
      simp only [key, hOutcome, if_true, String.toList_append, List.getLast?_append] at hc
      exact Option.some.inj hc ▸ (by decide)
    simp [hEnd]
  | false =>
    have hDot : EndsUnblank "context.".toList := by
      intro c hc
      exact Option.some.inj hc ▸ (by decide)
    have hKey : leaf.key.toList = "context.".toList ++ leaf.argument.toList := by
      simp [key, hOutcome]
    rw [hKey, endsUnblank_append_iff hDot]
    simp

theorem occurs_differ_key_iff (leaf : Leaf) : Occurs "!=" leaf.key ↔ Occurs "!=" leaf.argument := by
  cases hOutcome : leaf.isOutcome <;>
    simp [Occurs, key, hOutcome, pair_infix_append_iff, pair_infix_cons_iff]

theorem occurs_equal_key_iff (leaf : Leaf) : Occurs "=" leaf.key ↔ Occurs "=" leaf.argument := by
  cases hOutcome : leaf.isOutcome <;>
    simp [Occurs, key, hOutcome, singleton_infix_iff]

theorem occurs_differ_text_iff {leaf : Leaf} (hRelation : leaf.relation = .equal)
    (hEqual : ¬ Occurs "=" leaf.argument) :
    Occurs "!=" leaf.clause.text ↔ Occurs "!=" leaf.literal ∨
      (leaf.isOutcome = false ∧ leaf.argument.toList.getLast? = some '!') := by
  have hDiffer : ¬ ['!', '='] <:+: leaf.argument.toList := fun h =>
    hEqual (List.IsInfix.trans (by decide) h)
  cases hOutcome : leaf.isOutcome <;>
    simp [Occurs, clause, Clause.text, key, hOutcome, hRelation, hDiffer, Relation.sign,
      pair_infix_append_iff, pair_infix_cons_iff]

theorem isReadable_clause_iff (leaf : Leaf) :
    leaf.clause.IsReadable ↔
      (leaf.isOutcome = false → EndsUnblank leaf.argument.toList) ∧
      (BeginsUnblank leaf.literal.toList ∧ EndsUnblank leaf.literal.toList) ∧
      match leaf.relation with
        | .differ => ¬ Occurs "!=" leaf.argument
        | .equal => ¬ Occurs "=" leaf.argument ∧ ¬ Occurs "!=" leaf.clause.text := by
  rw [← trim_key_iff, ← trim_eq_self_iff]
  constructor
  · rintro ⟨hKey, hValue, hSign⟩
    refine ⟨hKey, hValue, ?_⟩
    cases hRelation : leaf.relation <;>
      simpa [clause, hRelation, occurs_differ_key_iff, occurs_equal_key_iff] using hSign
  · rintro ⟨hKey, hValue, hSign⟩
    refine ⟨hKey, hValue, ?_⟩
    cases hRelation : leaf.relation <;>
      simpa [clause, hRelation, occurs_differ_key_iff, occurs_equal_key_iff] using hSign

theorem clauses_condition_ne_nil (leaf : Leaf) : Condition.clauses leaf.condition ≠ [] := by
  obtain ⟨rest, hKey⟩ := leaf.toList_key
  have hText : leaf.condition.toList =
      'c' :: (rest ++ leaf.relation.sign.toList ++ leaf.literal.toList) := by
    rw [← text_clause, clause, Clause.text, String.toList_append, String.toList_append, hKey]
    simp
  obtain ⟨-, hClauses⟩ | ⟨front, back, -, hClauses⟩ :=
    Condition.clauses_cases hText (by decide) (by decide) <;>
  simp [hClauses]

theorem clauses_condition_iff (leaf : Leaf) :
    Condition.clauses leaf.condition = [leaf.clause] ↔ leaf.ReadsBack := by
  obtain ⟨rest, hKey⟩ := leaf.toList_key
  have hOne : Condition.clauses leaf.clause.text = [leaf.clause] ↔ _ :=
    Condition.clauses_text_eq_iff hKey (by decide) (by decide)
  rw [← text_clause, hOne, occurs_join_text_iff, isReadable_clause_iff, not_or]
  constructor
  · rintro ⟨⟨hArgument, hLiteral⟩, hEnd, ⟨hBegin, hLast⟩, hSign⟩
    refine ⟨hArgument, hLiteral, hBegin, hLast, hEnd, fun h => ?_, fun h => ?_⟩
    · simpa [h] using hSign
    · rw [h] at hSign
      simpa [occurs_differ_text_iff h hSign.1, hSign.1] using hSign.2
  · intro h
    refine ⟨⟨h.argument_join, h.literal_join⟩, h.argument_end, ⟨h.literal_begin, h.literal_end⟩, ?_⟩
    cases hRelation : leaf.relation with
    | differ => exact h.differ_first hRelation
    | equal =>
      obtain ⟨hEqual, hDiffer, hSeam⟩ := h.equal_first hRelation
      refine ⟨hEqual, ?_⟩
      rw [occurs_differ_text_iff hRelation hEqual]
      exact not_or.mpr ⟨hDiffer, fun hLast => hSeam hLast.1 hLast.2⟩

end Leaf

/-- Non-empty parts make up a list with one member for each part only if they have one member. -/
theorem flatMap_eq_map_iff {α β : Type} {parts : α → List β} {part : α → β}
    (hParts : ∀ x, parts x ≠ []) (xs : List α) :
    xs.flatMap parts = xs.map part ↔ ∀ x ∈ xs, parts x = [part x] := by
  have hLength : ∀ ys : List α, ys.length ≤ (ys.flatMap parts).length := by
    intro ys
    induction ys with
    | nil => exact Nat.le_refl 0
    | cons y ys ih =>
      have hPositive := List.length_pos_iff.mpr (hParts y)
      rw [List.flatMap_cons, List.length_append, List.length_cons]
      omega
  induction xs with
  | nil => simp
  | cons x xs ih =>
    rw [List.forall_mem_cons, List.flatMap_cons, List.map_cons]
    refine Iff.trans ?_ (and_congr_right fun _ => ih)
    constructor
    · intro h
      obtain ⟨y, ys, hSome⟩ := List.exists_cons_of_ne_nil (hParts x)
      have hOne : ys = [] := by
        have hTotal := congrArg List.length h
        have hRest := hLength xs
        simp only [hSome, List.length_append, List.length_cons, List.length_map] at hTotal
        exact List.length_eq_zero_iff.mp (by omega)
      subst hOne
      rw [hSome, List.singleton_append, List.cons.injEq] at h
      exact ⟨by rw [hSome, h.1], h.2⟩
    · rintro ⟨hSome, hRest⟩
      rw [hSome, hRest, List.singleton_append]

/-- The clauses of a group read back, one for each leaf, exactly where all leaves read back. -/
theorem Group.clauses_condition_eq_map_iff (group : Group) :
    Condition.clauses group.condition = group.map Leaf.clause ↔ ∀ leaf ∈ group, leaf.ReadsBack := by
  simp only [Group.condition, Condition.clauses_intercalate, List.flatMap_map,
    flatMap_eq_map_iff Leaf.clauses_condition_ne_nil, Leaf.clauses_condition_iff]

end Workflow.Routing
