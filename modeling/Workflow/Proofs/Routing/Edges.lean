import Workflow.Proofs.Condition.Separation
import Workflow.Proofs.Routing.Blanks
import Workflow.Proofs.Routing.Leaf
import Workflow.Proofs.Routing.Meaning

/-!
# The edges of a routing expression

A run context gives truth values to atoms. In every run some edge of an accepted expression is open
exactly where the expression holds, as long as the leaves of its groups read back from their texts.
A leaf that does not read back has the wrong truth value in some run.
-/

namespace Workflow.Routing

open Workflow.Text

/-- The text that a run context has at a path. -/
def valueAt (lookup : String → Value) (path : String) : String :=
  match lookup ("context." ++ path) with
  | .none => (lookup path).plain
  | value => value.plain

/-- The truth values of atoms in a run. -/
def Valuation.ofContext (lookup : String → Value) : Valuation where
  compare
    | .outcome, argument, relation, value => relation.holds (valueAt lookup (argument ++ ".status")) value
    | .output, argument, relation, value => relation.holds (valueAt lookup argument) value
  present path := valueAt lookup path != ""
  compare_differ subject argument value := by cases subject <;> simp [Relation.holds, bne]

theorem resolve_context (outcome : Outcome) (lookup : String → Value) (path : String) :
    Clause.resolve outcome lookup ("context." ++ path) = valueAt lookup path := by
  have hOutcome : "context." ++ path ≠ "outcome" := by
    simp [← String.toList_inj]
  have hLabel : "context." ++ path ≠ "preferred_label" := by
    simp [← String.toList_inj]
  have hDrop : String.ofList (("context." ++ path).toList.drop "context.".length) = path := by
    rw [String.toList_append, ← String.length_toList, List.drop_left, String.ofList_toList]
  have hPrefix : "context.".toList.isPrefixOf ("context." ++ path).toList = true := by
    simp
  rw [Clause.resolve, if_neg hOutcome, if_neg hLabel, if_pos hPrefix, hDrop]
  rfl

theorem Leaf.value_toExpr (leaf : Leaf) (lookup : String → Value) :
    leaf.toExpr.value (Valuation.ofContext lookup) =
      leaf.relation.holds (valueAt lookup leaf.path) leaf.literal := by
  cases leaf with
  | compare subject argument relation value =>
    cases subject with
    | outcome => rfl
    | output =>
      have hPath : (Leaf.compare .output argument relation value).path = argument :=
        String.append_empty
      rw [hPath]
      rfl
  | present path =>
    have hPath : (Leaf.present path).path = path := String.append_empty
    rw [hPath]
    rfl
  | absent path =>
    have hPath : (Leaf.absent path).path = path := String.append_empty
    rw [hPath]
    simp [toExpr, Expr.value, Valuation.ofContext, Leaf.relation, literal, Relation.holds, bne]

theorem Leaf.holds_clause (leaf : Leaf) (outcome : Outcome) (lookup : String → Value) :
    leaf.clause.holds outcome lookup = leaf.toExpr.value (Valuation.ofContext lookup) := by
  rw [value_toExpr, ← resolve_context outcome, ← key_eq]
  rfl

/-- A leaf has its truth value in every run exactly where its text reads back. -/
theorem Leaf.holds_condition_iff (leaf : Leaf) :
    (∀ outcome lookup, Condition.holds leaf.condition outcome lookup =
      leaf.toExpr.value (Valuation.ofContext lookup)) ↔ leaf.ReadsBack := by
  obtain ⟨rest, hKey⟩ := leaf.toList_key
  have hRuns := Clause.holds_text_iff (c := leaf.clause) hKey (by decide) (by decide)
  simp only [holds_clause, text_clause] at hRuns
  rw [hRuns, clauses_condition_iff]

theorem Group.holds_condition (group : Group) (outcome : Outcome) (lookup : String → Value) :
    Condition.holds group.condition outcome lookup =
      group.all fun leaf => Condition.holds leaf.condition outcome lookup := by
  simp only [Condition.holds, Group.condition, Condition.clauses_intercalate, List.flatMap_map,
    List.all_flatMap]

/-- The leaves that the edges of an expression are made of. An expression that always holds has an
edge without leaves. -/
def Expr.ReadsBack (e : Expr) : Prop :=
  ∀ groups, (e.normalize false).groups = .ok groups → [] ∉ groups →
    ∀ group ∈ groups, ∀ leaf ∈ group, leaf.ReadsBack

theorem Expr.holds_conditions_iff {e : Expr} {guard : Guard} (hGuard : e.guard = .ok guard)
    (hLeaves : e.ReadsBack) (outcome : Outcome) (lookup : String → Value) :
    (∃ condition ∈ guard.conditions, Condition.holds condition outcome lookup = true) ↔
      e.value (Valuation.ofContext lookup) = true := by
  obtain ⟨groups, hGroups, rfl⟩ := guard_eq_ok_iff.mp hGuard
  rw [value_eq_true_iff_groups _ hGroups]
  obtain ⟨rfl, hKind⟩ | ⟨hEmpty, hKind⟩ | ⟨hEmpty, hKind⟩ := Guard.ofGroups_cases groups
  · simp [hKind, Guard.conditions]
  · rw [hKind]
    exact iff_of_true ⟨"", by simp [Guard.conditions], rfl⟩ ⟨[], hEmpty, by simp⟩
  · have hLeaf : ∀ group ∈ groups, ∀ leaf ∈ group, Condition.holds leaf.condition outcome lookup =
        leaf.toExpr.value (Valuation.ofContext lookup) := fun group hGroup leaf hMem =>
      leaf.holds_condition_iff.mpr (hLeaves groups hGroups hEmpty group hGroup leaf hMem) _ _
    simp only [hKind, Guard.conditions, List.mem_map, exists_exists_and_eq_and,
      Group.holds_condition, List.all_eq_true]
    constructor
    · rintro ⟨group, hGroup, hAll⟩
      exact ⟨group, hGroup, fun leaf h => hLeaf group hGroup leaf h ▸ hAll leaf h⟩
    · rintro ⟨group, hGroup, hAll⟩
      exact ⟨group, hGroup, fun leaf h => (hLeaf group hGroup leaf h).trans (hAll leaf h)⟩

/-- Compiling keeps the meaning of an expression in every run if its leaves read back, and a leaf
keeps its meaning in every run only if it does. -/
theorem some_condition_holds_iff :
    (∀ text guard, Guard.compile text = .ok guard →
      ∃ e conditions, Expr.parse text = .ok e ∧ edgeConditions (some text) = .ok conditions ∧
        (e.ReadsBack → ∀ outcome lookup,
          (∃ condition ∈ conditions, Condition.holds condition outcome lookup = true) ↔
            e.value (Valuation.ofContext lookup) = true)) ∧
    ∀ leaf : Leaf, (∀ outcome lookup, Condition.holds leaf.condition outcome lookup =
      leaf.toExpr.value (Valuation.ofContext lookup)) ↔ leaf.ReadsBack := by
  refine ⟨fun text guard h => ?_, Leaf.holds_condition_iff⟩
  obtain ⟨e, hParse, hGuard⟩ := Guard.compile_eq_ok_iff.mp h
  exact ⟨e, guard.conditions, hParse, edgeConditions_of_compile h, e.holds_conditions_iff hGuard⟩

theorem some_condition_holds_iff_at_negation :
    Guard.compile " !(exists(\"a\") && outcome(\"s\") == \"ok\")" =
      .ok (.anyOf ["context.a=", "context.s.status!=ok"]) ∧
    (Expr.not (.and (.present "a") (.compare .outcome "s" .equal "ok"))).ReadsBack ∧
    ∀ outcome lookup,
      (∃ condition ∈ ["context.a=", "context.s.status!=ok"],
        Condition.holds condition outcome lookup = true) ↔
      (Expr.not (.and (.present "a") (.compare .outcome "s" .equal "ok"))).value
        (Valuation.ofContext lookup) = true := by
  have hCompile : Guard.compile " !(exists(\"a\") && outcome(\"s\") == \"ok\")" =
      .ok (.anyOf ["context.a=", "context.s.status!=ok"]) := by decide +kernel
  have hParse : Expr.parse " !(exists(\"a\") && outcome(\"s\") == \"ok\")" =
      .ok (.not (.and (.present "a") (.compare .outcome "s" .equal "ok"))) := by decide +kernel
  have hLeaves : (Expr.not (.and (.present "a") (.compare .outcome "s" .equal "ok"))).ReadsBack := by
    intro groups hGroups _
    obtain rfl : [[.absent "a"], [.compare .outcome "s" .differ "ok"]] = groups :=
      Except.ok.inj hGroups
    decide +kernel
  obtain ⟨e, conditions, hParse', hEdges, hIff⟩ := some_condition_holds_iff.1 _ _ hCompile
  cases hParse.symm.trans hParse'
  cases (edgeConditions_of_compile hCompile).symm.trans hEdges
  exact ⟨hCompile, hLeaves, hIff hLeaves⟩

/-- Literals stand unquoted in conditions, so one that holds a sign of conditions is cut there. -/
theorem not_some_condition_holds_iff :
    ¬ ∀ text guard e conditions outcome lookup, Guard.compile text = .ok guard →
      Expr.parse text = .ok e → edgeConditions (some text) = .ok conditions →
      ((∃ condition ∈ conditions, Condition.holds condition outcome lookup = true) ↔
        e.value (Valuation.ofContext lookup) = true) := by
  intro h
  have hIff := h "output(\"a\") == \"x && y\"" (.anyOf ["context.a=x && y"])
    (.compare .output "a" .equal "x && y") ["context.a=x && y"]
    { status := .known .success, preferredLabel := none }
    (fun key => if key = "context.a" then .str "x && y" else .none)
    (by decide +kernel) (by decide +kernel) (by decide +kernel)
  revert hIff
  decide +kernel

end Workflow.Routing
