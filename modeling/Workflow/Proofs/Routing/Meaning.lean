import Workflow.Proofs.Except
import Workflow.Routing.Guard

/-!
# The meaning of routing expressions

A valuation gives truth values to atoms, and through them to expressions. The normal form of an
expression has its value, and so has the list of its groups, of which some group has to hold as a
whole. The limit on the number of groups is compared with a count that knows no limit.
-/

namespace Workflow.Routing

/-- Truth values of the atoms, in which `!=` is the negation of `==`. -/
structure Valuation where
  compare : Subject → String → Relation → String → Bool
  present : String → Bool
  compare_differ : ∀ subject argument value,
    compare subject argument .differ value = !compare subject argument .equal value

theorem Valuation.compare_flip (v : Valuation) (subject : Subject) (argument : String)
    (relation : Relation) (value : String) :
    v.compare subject argument relation.flip value = !v.compare subject argument relation value := by
  cases relation <;> simp [Relation.flip, v.compare_differ]

def Expr.value (v : Valuation) : Expr → Bool
  | .literal value => value
  | .compare subject argument relation value => v.compare subject argument relation value
  | .present path => v.present path
  | .not operand => !operand.value v
  | .and left right => left.value v && right.value v
  | .or left right => left.value v || right.value v

/-- Negations stand directly above presence tests. -/
def Expr.IsNormal : Expr → Prop
  | .literal _ | .compare .. | .present _ | .not (.present _) => True
  | .not _ => False
  | .and left right | .or left right => left.IsNormal ∧ right.IsNormal

/-- The expressions that a group is made of. -/
inductive Expr.IsAtom : Expr → Prop
  | compare (subject : Subject) (argument : String) (relation : Relation) (value : String) :
    IsAtom (.compare subject argument relation value)
  | present (path : String) : IsAtom (.present path)
  | absent (path : String) : IsAtom (.not (.present path))

theorem Leaf.isAtom_toExpr (leaf : Leaf) : leaf.toExpr.IsAtom := by
  cases leaf <;> constructor

theorem Leaf.isNormal_toExpr (leaf : Leaf) : leaf.toExpr.IsNormal := by
  cases leaf <;> trivial

theorem Normal.isNormal_toExpr (n : Normal) : n.toExpr.IsNormal := by
  induction n with
  | literal value => trivial
  | atom leaf => exact leaf.isNormal_toExpr
  | and left right ihLeft ihRight => exact ⟨ihLeft, ihRight⟩
  | or left right ihLeft ihRight => exact ⟨ihLeft, ihRight⟩

/-- Both polarities at once: a negation hands the other polarity to its operand. -/
theorem Expr.value_normalize (v : Valuation) (e : Expr) (negated : Bool) :
    (e.normalize negated).toExpr.value v = (e.value v != negated) := by
  induction e generalizing negated with
  | literal value => rfl
  | compare subject argument relation value =>
    cases negated
    · simp [normalize, Normal.toExpr, Leaf.toExpr, Expr.value]
    · simp [normalize, Normal.toExpr, Leaf.toExpr, Expr.value, v.compare_flip]
  | present path => cases negated <;> simp [normalize, Normal.toExpr, Leaf.toExpr, Expr.value]
  | not operand ih => simp [normalize, ih, Expr.value]
  | and left right ihLeft ihRight =>
    cases negated <;> simp [normalize, Normal.toExpr, Expr.value, ihLeft, ihRight]
  | or left right ihLeft ihRight =>
    cases negated <;> simp [normalize, Normal.toExpr, Expr.value, ihLeft, ihRight]

namespace Normal

def subterms : Normal → List Normal
  | .literal value => [.literal value]
  | .atom leaf => [.atom leaf]
  | .and left right => .and left right :: (left.subterms ++ right.subterms)
  | .or left right => .or left right :: (left.subterms ++ right.subterms)

/-- The groups of an expression without a limit. -/
def expansion : Normal → List Group
  | .literal value => if value then [[]] else []
  | .atom leaf => [[leaf]]
  | .or left right => left.expansion ++ right.expansion
  | .and left right =>
    left.expansion.flatMap fun l => right.expansion.map fun r => l ++ r

/-- The number of groups without a limit. -/
def count : Normal → Nat
  | .literal value => if value then 1 else 0
  | .atom _ => 1
  | .or left right => left.count + right.count
  | .and left right => left.count * right.count

theorem length_expansion (n : Normal) : n.expansion.length = n.count := by
  induction n with
  | literal value => cases value <;> rfl
  | atom leaf => rfl
  | and left right ihLeft ihRight =>
    simp [expansion, count, ← ihLeft, ← ihRight, List.length_flatMap, List.map_const']
  | or left right ihLeft ihRight => simp [expansion, count, ← ihLeft, ← ihRight]

theorem value_expansion (v : Valuation) (n : Normal) :
    n.toExpr.value v = true ↔
      ∃ group ∈ n.expansion, ∀ leaf ∈ group, leaf.toExpr.value v = true := by
  induction n with
  | literal value => cases value <;> simp [expansion, toExpr, Expr.value]
  | atom leaf => simp [expansion, toExpr]
  | or left right ihLeft ihRight =>
    simp only [expansion, toExpr, Expr.value, Bool.or_eq_true, ihLeft, ihRight, List.mem_append,
      or_and_right, exists_or]
  | and left right ihLeft ihRight =>
    simp only [expansion, toExpr, Expr.value, Bool.and_eq_true, ihLeft, ihRight, List.mem_flatMap,
      List.mem_map]
    constructor
    · rintro ⟨⟨l, hl, hLeft⟩, r, hr, hRight⟩
      refine ⟨l ++ r, ⟨l, hl, r, hr, rfl⟩, ?_⟩
      intro leaf hLeaf
      exact (List.mem_append.mp hLeaf).elim (hLeft leaf) (hRight leaf)
    · rintro ⟨_, ⟨l, hl, r, hr, rfl⟩, hAll⟩
      exact ⟨⟨l, hl, fun leaf h => hAll leaf (List.mem_append_left _ h)⟩,
        r, hr, fun leaf h => hAll leaf (List.mem_append_right _ h)⟩

theorem self_mem_subterms (n : Normal) : n ∈ n.subterms := by
  cases n <;> simp [subterms]

end Normal

theorem limited_eq_ok_iff {count : Nat} {groups result : List Group} :
    limited count groups = .ok result ↔ result = groups ∧ count ≤ groupLimit := by
  unfold limited
  split
  · simp only [reduceCtorEq, false_iff]
    omega
  · simp only [Except.ok.injEq, eq_comm (a := groups), iff_self_and]
    omega

/-- Both ways to join the groups of two operands: the limit is checked after the operands. -/
theorem limited_join_eq_ok_iff {left right : Except Nat (List Group)} {ls rs groups : List Group}
    {p q : Prop} {count : List Group → List Group → Nat}
    {join : List Group → List Group → List Group}
    (hLeft : ∀ {found}, left = .ok found ↔ found = ls ∧ p)
    (hRight : ∀ {found}, right = .ok found ↔ found = rs ∧ q) :
    (do let ls ← left; let rs ← right; limited (count ls rs) (join ls rs)) = .ok groups ↔
      groups = join ls rs ∧ count ls rs ≤ groupLimit ∧ p ∧ q := by
  simp only [Except.bind_eq_ok_iff, hLeft, hRight, limited_eq_ok_iff]
  constructor
  · rintro ⟨_, ⟨rfl, hp⟩, _, ⟨rfl, hq⟩, hGroups, hCount⟩
    exact ⟨hGroups, hCount, hp, hq⟩
  · rintro ⟨hGroups, hCount, hp, hq⟩
    exact ⟨ls, ⟨rfl, hp⟩, rs, ⟨rfl, hq⟩, hGroups, hCount⟩

/-- Distributing with the limit gives what distributing without it gives, as long as no subterm
passes the limit. -/
theorem Normal.groups_eq_ok_iff {n : Normal} {groups : List Group} :
    n.groups = .ok groups ↔
      groups = n.expansion ∧ ∀ term ∈ n.subterms, term.count ≤ groupLimit := by
  induction n generalizing groups with
  | literal value =>
    cases value <;> simp [Normal.groups, expansion, subterms, count, eq_comm, groupLimit]
  | atom leaf => simp [Normal.groups, expansion, subterms, count, eq_comm, groupLimit]
  | or left right ihLeft ihRight =>
    rw [Normal.groups, limited_join_eq_ok_iff ihLeft ihRight]
    simp only [subterms, List.forall_mem_cons, List.forall_mem_append, expansion, count,
      length_expansion]
  | and left right ihLeft ihRight =>
    rw [Normal.groups, limited_join_eq_ok_iff ihLeft ihRight]
    simp only [subterms, List.forall_mem_cons, List.forall_mem_append, expansion, count,
      length_expansion]

theorem Normal.exists_groups_eq_error_iff {n : Normal} :
    (∃ count, n.groups = .error count) ↔ ∃ term ∈ n.subterms, groupLimit < term.count := by
  have hOk := @groups_eq_ok_iff n n.expansion
  cases hGroups : n.groups with
  | ok groups =>
    obtain rfl := (groups_eq_ok_iff.mp hGroups).1
    simpa [hGroups] using hOk
  | error count => simpa [hGroups] using hOk

theorem Expr.value_eq_true_iff_groups {e : Expr} {groups : List Group} (v : Valuation)
    (h : (e.normalize false).groups = .ok groups) :
    e.value v = true ↔ ∃ group ∈ groups, ∀ leaf ∈ group, leaf.toExpr.value v = true := by
  obtain rfl := (Normal.groups_eq_ok_iff.mp h).1
  rw [← Normal.value_expansion, value_normalize, Bool.bne_false]

theorem Guard.ofGroups_cases (groups : List Group) :
    (groups = [] ∧ ofGroups groups = .never) ∨
    ([] ∈ groups ∧ ofGroups groups = .always) ∨
    ([] ∉ groups ∧ ofGroups groups = .anyOf (groups.map Group.condition)) := by
  cases groups with
  | nil => exact Or.inl ⟨rfl, rfl⟩
  | cons group groups =>
    by_cases hEmpty : [] ∈ group :: groups
    · have hAny : (group :: groups).any List.isEmpty = true :=
        List.any_eq_true.mpr ⟨[], hEmpty, rfl⟩
      exact Or.inr (Or.inl ⟨hEmpty, by simp only [ofGroups, hAny]; rfl⟩)
    · have hAny : ¬ (group :: groups).any List.isEmpty = true := by
        simpa [List.any_eq_true, List.isEmpty_iff] using hEmpty
      exact Or.inr (Or.inr ⟨hEmpty, by simp only [ofGroups, if_neg hAny]; rfl⟩)

theorem Expr.guard_eq_ok_iff {e : Expr} {guard : Guard} :
    e.guard = .ok guard ↔
      ∃ groups, (e.normalize false).groups = .ok groups ∧ Guard.ofGroups groups = guard := by
  unfold Expr.guard
  cases (e.normalize false).groups <;> simp

theorem Expr.guard_eq_error_iff {e : Expr} {fault : Fault} :
    e.guard = .error fault ↔
      ∃ count, (e.normalize false).groups = .error count ∧ .tooManyGroups count = fault := by
  unfold Expr.guard
  cases (e.normalize false).groups <;> simp

theorem Expr.value_of_guard_eq_never {e : Expr} (h : e.guard = .ok .never) (v : Valuation) :
    e.value v = false := by
  obtain ⟨groups, hGroups, hGuard⟩ := guard_eq_ok_iff.mp h
  obtain ⟨rfl, -⟩ | ⟨-, hKind⟩ | ⟨-, hKind⟩ := Guard.ofGroups_cases groups
  · simpa using value_eq_true_iff_groups v hGroups
  · cases hKind.symm.trans hGuard
  · cases hKind.symm.trans hGuard

theorem Expr.value_of_guard_eq_always {e : Expr} (h : e.guard = .ok .always) (v : Valuation) :
    e.value v = true := by
  obtain ⟨groups, hGroups, hGuard⟩ := guard_eq_ok_iff.mp h
  obtain ⟨-, hKind⟩ | ⟨hEmpty, -⟩ | ⟨-, hKind⟩ := Guard.ofGroups_cases groups
  · cases hKind.symm.trans hGuard
  · exact (value_eq_true_iff_groups v hGroups).mpr ⟨[], hEmpty, by simp⟩
  · cases hKind.symm.trans hGuard

/-- The passes from an expression to its guard keep its value, and they fail exactly where a
subterm of the normal form has more than 128 groups. That normal forms are normal and the leaves of
groups are atoms needs no argument about the passes: the types `Normal` and `Leaf` of their results
leave nothing else. -/
theorem Expr.normal_forms_preserve_value (e : Expr) :
    (∀ v, (e.normalize false).toExpr.value v = e.value v ∧
      (e.normalize true).toExpr.value v = !e.value v) ∧
    (∀ negated, (e.normalize negated).toExpr.IsNormal) ∧
    (∀ groups, (e.normalize false).groups = .ok groups →
      groups.length ≤ 128 ∧
      (∀ group ∈ groups, ∀ leaf ∈ group, leaf.toExpr.IsAtom) ∧
      ∀ v, e.value v = true ↔ ∃ group ∈ groups, ∀ leaf ∈ group, leaf.toExpr.value v = true) ∧
    (e.guard = .ok .never → ∀ v, e.value v = false) ∧
    (e.guard = .ok .always → ∀ v, e.value v = true) ∧
    ((∃ count, e.guard = .error (.tooManyGroups count)) ↔
      ∃ term ∈ (e.normalize false).subterms, 128 < term.count) := by
  refine ⟨fun v => ⟨?_, ?_⟩, fun negated => Normal.isNormal_toExpr _, fun groups hGroups => ?_,
    value_of_guard_eq_never, value_of_guard_eq_always, ?_⟩
  · rw [value_normalize, Bool.bne_false]
  · rw [value_normalize, Bool.bne_true]
  · obtain ⟨hExpansion, hSmall⟩ := Normal.groups_eq_ok_iff.mp hGroups
    refine ⟨?_, fun _ _ leaf _ => leaf.isAtom_toExpr, fun v => value_eq_true_iff_groups v hGroups⟩
    rw [hExpansion, Normal.length_expansion]
    exact hSmall _ (Normal.self_mem_subterms _)
  · rw [show (128 : Nat) = groupLimit from rfl, ← Normal.exists_groups_eq_error_iff]
    simp [guard_eq_error_iff]

theorem Expr.normal_forms_preserve_value_at_negation :
    (∀ v, (Expr.not (.and (.present "a") (.compare .outcome "s" .equal "ok"))).value v = true ↔
      ∃ group ∈ ([[.absent "a"], [.compare .outcome "s" .differ "ok"]] : List Group),
        ∀ leaf ∈ group, leaf.toExpr.value v = true) ∧
    (∀ v, (Expr.and (.present "a") (.not (.literal true))).value v = false) ∧
    ∀ v, (Expr.or (.present "a") (.not (.literal false))).value v = true := by
  refine ⟨?_, ?_, ?_⟩
  · exact ((normal_forms_preserve_value _).2.2.1 _ rfl).2.2
  · exact (normal_forms_preserve_value (.and (.present "a") (.not (.literal true)))).2.2.2.1 rfl
  · exact (normal_forms_preserve_value (.or (.present "a") (.not (.literal false)))).2.2.2.2.1 rfl

end Workflow.Routing
