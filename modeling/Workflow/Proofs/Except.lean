import Mathlib.Data.List.Forall2

/-!
# Results that may be errors

When a sequence of steps gives a result, and which errors it can end with. Every reader and check of
the library returns either a value or an error; these lemmas take a result apart into those of its
steps.
-/

namespace Except

universe u v w

variable {ε : Type u} {ε' : Type w} {α β : Type v}

theorem bind_eq_ok_iff {x : Except ε α} {f : α → Except ε β} {b : β} :
    x >>= f = .ok b ↔ ∃ a, x = .ok a ∧ f a = .ok b := by
  cases x <;> simp [bind, Except.bind]

theorem bind_eq_error_iff {x : Except ε α} {f : α → Except ε β} {e : ε} :
    x >>= f = .error e ↔ x = .error e ∨ ∃ a, x = .ok a ∧ f a = .error e := by
  cases x <;> simp [bind, Except.bind]

theorem map_eq_ok_iff {f : α → β} {x : Except ε α} {b : β} :
    x.map f = .ok b ↔ ∃ a, x = .ok a ∧ f a = b := by
  cases x <;> simp [Except.map]

theorem map_eq_error_iff {f : α → β} {x : Except ε α} {e : ε} :
    x.map f = .error e ↔ x = .error e := by
  cases x <;> simp [Except.map]

theorem mapError_eq_ok_iff {f : ε → ε'} {x : Except ε α} {a : α} :
    x.mapError f = .ok a ↔ x = .ok a := by
  cases x with
  | ok b => exact ⟨fun h => congrArg ok (ok.inj h), fun h => congrArg ok (ok.inj h)⟩
  | error e => exact iff_of_false (fun h => nomatch h) (fun h => nomatch h)

theorem mapError_eq_error_iff {f : ε → ε'} {x : Except ε α} {e : ε'} :
    x.mapError f = .error e ↔ ∃ e', x = .error e' ∧ f e' = e := by
  cases x with
  | ok b => exact iff_of_false (fun h => nomatch h) (fun ⟨_, h, _⟩ => nomatch h)
  | error e' =>
    constructor
    · exact fun h => ⟨e', rfl, error.inj h⟩
    · rintro ⟨_, ⟨⟩, rfl⟩
      rfl

/-- The error of a result, if it is one, has a property. -/
def FailsWith (P : ε → Prop) (x : Except ε α) : Prop :=
  ∀ e, x = .error e → P e

section FailsWith

variable {P : ε → Prop} {x : Except ε α}

theorem failsWith_ok {a : α} : FailsWith P (.ok a : Except ε α) := nofun

theorem FailsWith.bind {f : α → Except ε β} (hx : FailsWith P x)
    (hf : ∀ a, x = .ok a → FailsWith P (f a)) : FailsWith P (x >>= f) := by
  intro e h
  obtain hFirst | ⟨a, hFirst, hThen⟩ := bind_eq_error_iff.mp h
  · exact hx e hFirst
  · exact hf a hFirst e hThen

theorem FailsWith.guard {c : Prop} [Decidable c] {f : α → Except ε β} {a : α} (hx : FailsWith P x)
    (hf : ∀ a, FailsWith P (f a)) : FailsWith P (if c then x >>= f else f a) := by
  split
  · exact hx.bind fun a _ => hf a
  · exact hf a

theorem FailsWith.optionMapM {γ : Type v} {f : γ → Except ε β} {o : Option γ}
    (h : ∀ a ∈ o, FailsWith P (f a)) : FailsWith P (o.mapM f) := by
  cases o with
  | none => exact failsWith_ok
  | some a => exact (h a rfl).bind fun _ _ => failsWith_ok

theorem FailsWith.listMapM {γ : Type v} {f : γ → Except ε β} {xs : List γ}
    (h : ∀ a ∈ xs, FailsWith P (f a)) : FailsWith P (xs.mapM f) := by
  induction xs with
  | nil => exact failsWith_ok
  | cons a xs ih =>
    rw [List.forall_mem_cons] at h
    rw [List.mapM_cons]
    exact h.1.bind fun _ _ => (ih h.2).bind fun _ _ => failsWith_ok

/-- A fold fails as one of its steps does, from a state that the steps before it keep. -/
theorem FailsWith.foldlM {σ γ : Type v} {step : σ → γ → Except ε σ} {xs : List γ} (p : σ → Prop)
    (hKeep : ∀ {s s' : σ}, ∀ a ∈ xs, p s → step s a = .ok s' → p s')
    (hStep : ∀ {s : σ}, ∀ a ∈ xs, p s → FailsWith P (step s a)) {s : σ} (hStart : p s) :
    FailsWith P (xs.foldlM step s) := by
  induction xs generalizing s with
  | nil => exact failsWith_ok
  | cons a xs ih =>
    rw [List.foldlM_cons]
    refine (hStep a List.mem_cons_self hStart).bind fun s' hNext => ?_
    exact ih (fun b hb => hKeep b (List.mem_cons_of_mem a hb))
      (fun b hb => hStep b (List.mem_cons_of_mem a hb)) (hKeep a List.mem_cons_self hStart hNext)

end FailsWith

/-- Both results are errors, or both are values, which are related. -/
def Corresponds (R : α → β → Prop) : Except ε α → Except ε' β → Prop
  | .ok a, .ok b => R a b
  | .error _, .error _ => True
  | _, _ => False

section Corresponds

variable {δ : Type u} {δ' : Type w} {α' β' γ γ' σ σ' : Type v} {Q : γ → γ' → Prop} {R : α → β → Prop}
  {S : α' → β' → Prop} {x : Except ε α} {y : Except ε' β}

theorem Corresponds.bind {f : α → Except ε α'} {g : β → Except ε' β'} (h : Corresponds R x y)
    (hThen : ∀ a b, R a b → Corresponds S (f a) (g b)) : Corresponds S (x >>= f) (y >>= g) := by
  cases x <;> cases y
  · trivial
  · cases h
  · cases h
  · exact hThen _ _ h

theorem Corresponds.bind_eq {x : Except ε α} {y : Except ε' α} {f : α → Except ε α'}
    {g : α → Except ε' β'} (h : Corresponds Eq x y) (hThen : ∀ a, Corresponds S (f a) (g a)) :
    Corresponds S (x >>= f) (y >>= g) := by
  refine h.bind ?_
  rintro a _ rfl
  exact hThen a

theorem Corresponds.guard {c : Prop} [Decidable c] {x : Except ε γ} {y : Except ε' γ}
    {f : γ → Except ε α} {g : γ → Except ε' β} {a : γ} (h : Corresponds Eq x y)
    (hThen : ∀ a, Corresponds R (f a) (g a)) :
    Corresponds R (if c then x >>= f else f a) (if c then y >>= g else g a) := by
  split
  · exact h.bind_eq hThen
  · exact hThen a

theorem Corresponds.mapError {e : ε → δ} {e' : ε' → δ'} (h : Corresponds R x y) :
    Corresponds R (x.mapError e) (y.mapError e') := by
  cases x <;> cases y <;> exact h

theorem Corresponds.map_toOption {f : α → γ} {g : β → γ}
    (h : Corresponds (fun a b => f a = g b) x y) : x.toOption.map f = y.toOption.map g := by
  cases x <;> cases y
  · rfl
  · cases h
  · cases h
  · exact congrArg some h

theorem Corresponds.optionMapM {f : γ → Except ε α} {g : γ' → Except ε' α} {o : Option γ}
    {o' : Option γ'} (h : Option.Rel Q o o') (hEach : ∀ a b, Q a b → Corresponds Eq (f a) (g b)) :
    Corresponds Eq (o.mapM f) (o'.mapM g) := by
  cases h with
  | none => rfl
  | some h => exact (hEach _ _ h).bind_eq fun _ => rfl

theorem Corresponds.listMapM {f : γ → Except ε α} {g : γ' → Except ε' α} {xs : List γ}
    {ys : List γ'} (h : List.Forall₂ Q xs ys)
    (hEach : ∀ a b, Q a b → Corresponds Eq (f a) (g b)) :
    Corresponds Eq (xs.mapM f) (ys.mapM g) := by
  induction h with
  | nil => rfl
  | cons hFirst _ ih =>
    rw [List.mapM_cons, List.mapM_cons]
    exact (hEach _ _ hFirst).bind_eq fun _ => ih.bind_eq fun _ => rfl

/-- Folds whose steps correspond correspond. -/
theorem Corresponds.foldlM {T : σ → σ' → Prop} {step : σ → γ → Except ε σ}
    {step' : σ' → γ' → Except ε' σ'} {xs : List γ} {ys : List γ'} (h : List.Forall₂ Q xs ys)
    (hStep : ∀ s t a b, T s t → Q a b → Corresponds T (step s a) (step' t b)) {s : σ} {t : σ'}
    (hStart : T s t) : Corresponds T (xs.foldlM step s) (ys.foldlM step' t) := by
  induction h generalizing s t with
  | nil => exact hStart
  | cons hFirst _ ih =>
    rw [List.foldlM_cons, List.foldlM_cons]
    exact (hStep _ _ _ _ hStart hFirst).bind fun _ _ => ih

end Corresponds

section Lists

variable {σ : Type v} {γ : Type u} {f : γ → Except ε β} {xs : List γ} {ys : List β}

theorem exists_of_mem_of_forall₂ {R : γ → β → Prop} (h : List.Forall₂ R xs ys) :
    ∀ y ∈ ys, ∃ x ∈ xs, R x y := by
  induction h with
  | nil => simp
  | @cons x y xs ys hFirst hRest ih =>
    rw [List.forall_mem_cons]
    refine ⟨⟨x, List.mem_cons_self, hFirst⟩, fun y' hy' => ?_⟩
    obtain ⟨x', hx', hR⟩ := ih y' hy'
    exact ⟨x', List.mem_cons_of_mem _ hx', hR⟩

theorem mapM_eq_ok_iff_forall₂ : xs.mapM f = .ok ys ↔ List.Forall₂ (fun x y => f x = .ok y) xs ys := by
  induction xs generalizing ys with
  | nil =>
    rw [List.forall₂_nil_left_iff]
    exact ⟨fun h => (ok.inj h).symm, fun h => congrArg ok h.symm⟩
  | cons x xs ih =>
    rw [List.mapM_cons, bind_eq_ok_iff, List.forall₂_cons_left_iff]
    refine exists_congr fun y => ?_
    rw [bind_eq_ok_iff]
    constructor
    · rintro ⟨hFirst, rest, hRest, hEq⟩
      exact ⟨rest, hFirst, ih.mp hRest, (ok.inj hEq).symm⟩
    · rintro ⟨rest, hFirst, hRest, hEq⟩
      exact ⟨hFirst, rest, ih.mpr hRest, congrArg ok hEq.symm⟩

theorem exists_of_mem_of_mapM_eq_ok (h : xs.mapM f = .ok ys) : ∀ y ∈ ys, ∃ x ∈ xs, f x = .ok y :=
  exists_of_mem_of_forall₂ (mapM_eq_ok_iff_forall₂.mp h)

theorem exists_mapM_eq_ok (h : ∀ x ∈ xs, ∃ y, f x = .ok y) : ∃ ys, xs.mapM f = .ok ys := by
  induction xs with
  | nil => exact ⟨[], rfl⟩
  | cons x xs ih =>
    rw [List.forall_mem_cons] at h
    obtain ⟨⟨y, hy⟩, hRest⟩ := h
    obtain ⟨ys, hys⟩ := ih hRest
    exact ⟨y :: ys, by rw [List.mapM_cons, hy, hys]; rfl⟩

/-- What every step of a fold keeps, the fold keeps. -/
theorem foldlM_preserves {step : σ → γ → Except ε σ} {p : σ → Prop}
    (hStep : ∀ {s s' : σ}, ∀ x ∈ xs, p s → step s x = .ok s' → p s') {s s' : σ} (hStart : p s)
    (h : xs.foldlM step s = .ok s') : p s' := by
  induction xs generalizing s with
  | nil =>
    cases h
    exact hStart
  | cons x xs ih =>
    rw [List.foldlM_cons] at h
    obtain ⟨next, hNext, h⟩ := bind_eq_ok_iff.mp h
    exact ih (fun y hy => hStep y (List.mem_cons_of_mem x hy)) (hStep x List.mem_cons_self hStart hNext) h

/-- What every step of a fold keeps of the state and of the items that are left, the fold keeps. -/
theorem foldlM_preserves_left {step : σ → γ → Except ε σ} {p : σ → List γ → Prop}
    (hStep : ∀ {s s' : σ} {x : γ} {xs : List γ}, p s (x :: xs) → step s x = .ok s' → p s' xs)
    {s s' : σ} (hStart : p s xs) (h : xs.foldlM step s = .ok s') : p s' [] := by
  induction xs generalizing s with
  | nil =>
    cases h
    exact hStart
  | cons x xs ih =>
    rw [List.foldlM_cons] at h
    obtain ⟨next, hNext, h⟩ := bind_eq_ok_iff.mp h
    exact ih (hStep hStart hNext) h

/-- A fold that takes in one item after the other takes in all of them. -/
theorem foldlM_eq_ok {δ : Type v} {R : γ → δ → Prop} (step : σ → γ → Except ε σ)
    (add : List δ → σ) {all items done : List δ}
    (hStep : ∀ {done more item x}, done ++ item :: more = all → R x item →
      step (add done) x = .ok (add (done ++ [item])))
    (h : List.Forall₂ R xs items) (hAll : done ++ items = all) :
    xs.foldlM step (add done) = .ok (add all) := by
  induction h generalizing done with
  | nil =>
    rw [← hAll, List.append_nil]
    rfl
  | @cons x item xs items hFirst hRest ih =>
    rw [List.foldlM_cons, hStep hAll hFirst]
    exact ih (by rw [← hAll, List.append_assoc, List.singleton_append])

end Lists

section Filter

variable {γ : Type} {f : γ → Except ε Bool} {xs ys : List γ}

theorem filterAuxM_eq_ok_iff {done : List γ} :
    xs.filterAuxM f done = .ok ys ↔
      ∃ q : γ → Bool, (∀ x ∈ xs, f x = .ok (q x)) ∧ (xs.filter q).reverse ++ done = ys := by
  induction xs generalizing done with
  | nil => exact ⟨fun h => ⟨fun _ => true, nofun, ok.inj h⟩, fun ⟨_, _, h⟩ => congrArg ok h⟩
  | cons x xs ih =>
    rw [List.filterAuxM, bind_eq_ok_iff]
    simp only [ih]
    constructor
    · rintro ⟨b, hFirst, q, hRest, rfl⟩
      have hAll : ∀ y ∈ x :: xs, f y = .ok ((f y).toOption.getD false) := by
        rw [List.forall_mem_cons]
        refine ⟨by rw [hFirst]; rfl, fun y hy => ?_⟩
        rw [hRest y hy]
        rfl
      have hFilter : xs.filter (fun y => (f y).toOption.getD false) = xs.filter q :=
        List.filter_congr fun y hy => by rw [hRest y hy]; rfl
      refine ⟨_, hAll, ?_⟩
      rw [List.filter_cons, hFilter, hFirst]
      cases b <;> simp [Except.toOption]
    · rintro ⟨q, hAll, rfl⟩
      rw [List.forall_mem_cons] at hAll
      refine ⟨q x, hAll.1, q, hAll.2, ?_⟩
      cases hq : q x <;> simp [hq]

theorem filterM_eq_ok_iff :
    xs.filterM f = .ok ys ↔ ∃ q : γ → Bool, (∀ x ∈ xs, f x = .ok (q x)) ∧ xs.filter q = ys := by
  rw [List.filterM, bind_eq_ok_iff]
  simp only [filterAuxM_eq_ok_iff, List.append_nil]
  constructor
  · rintro ⟨_, ⟨q, hAll, rfl⟩, h⟩
    exact ⟨q, hAll, by rw [← ok.inj h, List.reverse_reverse]⟩
  · rintro ⟨q, hAll, rfl⟩
    exact ⟨_, ⟨q, hAll, rfl⟩, congrArg ok (List.reverse_reverse _)⟩

theorem exists_filterM_of_perm {zs : List γ} (h : xs.Perm ys) (hOk : xs.filterM f = .ok zs) :
    ∃ zs', ys.filterM f = .ok zs' ∧ zs.Perm zs' := by
  obtain ⟨q, hAll, rfl⟩ := filterM_eq_ok_iff.mp hOk
  exact ⟨ys.filter q, filterM_eq_ok_iff.mpr ⟨q, fun y hy => hAll y (h.mem_iff.mpr hy), rfl⟩,
    h.filter q⟩

end Filter

end Except
