/-!
# Tables

A table maps keys to values and remembers the order in which the keys were first written. Writing
a key again replaces its value and keeps its place. The keys are distinct in every table; reading
and writing are tied together by `get?_insert`. Most tables are keyed by names.
-/

namespace Workflow

universe u v w

structure Table (κ : Type u) (α : Type v) where
  entries : List (κ × α)
  nodup : (entries.map Prod.fst).Nodup
  deriving DecidableEq, Repr

namespace Table

variable {κ : Type u} {α : Type v} {β : Type w} [DecidableEq κ]

/-- Writes one entry of a list of entries. -/
def write (key : κ) (value : α) : List (κ × α) → List (κ × α)
  | [] => [(key, value)]
  | entry :: entries =>
    if entry.1 = key then (key, value) :: entries else entry :: write key value entries

theorem map_fst_write (key : κ) (value : α) (entries : List (κ × α)) :
    (write key value entries).map Prod.fst =
      if key ∈ entries.map Prod.fst then entries.map Prod.fst
      else entries.map Prod.fst ++ [key] := by
  induction entries with
  | nil => simp [write]
  | cons entry entries ih =>
    by_cases h : entry.1 = key
    · simp [write, h]
    · have hKey : ¬ key = entry.1 := fun he => h he.symm
      simp only [write, h, if_false, List.map_cons, ih, List.mem_cons, hKey, false_or]
      split <;> simp

theorem nodup_write {key : κ} {value : α} {entries : List (κ × α)}
    (h : (entries.map Prod.fst).Nodup) : ((write key value entries).map Prod.fst).Nodup := by
  rw [map_fst_write]
  split
  · exact h
  · rename_i hKey
    rw [List.nodup_append]
    refine ⟨h, by simp, ?_⟩
    intro a ha b hb hab
    rw [List.mem_singleton.mp hb] at hab
    exact hKey (hab ▸ ha)

theorem lookup_write (key other : κ) (value : α) (entries : List (κ × α)) :
    (write key value entries).lookup other =
      if other = key then some value else entries.lookup other := by
  induction entries with
  | nil =>
    cases h : other == key
    · simp [write, List.lookup_cons, h, beq_eq_false_iff_ne.mp h]
    · simp [write, beq_iff_eq.mp h]
  | cons entry entries ih =>
    obtain ⟨first, found⟩ := entry
    by_cases h : first = key
    · by_cases hOther : other = key
      · simp [write, h, hOther]
      · have hFalse : (other == key) = false := by simp [hOther]
        simp [write, h, List.lookup_cons, hOther, hFalse]
    · simp only [write, h, if_false, List.lookup_cons]
      cases hEntry : other == first
      · exact ih
      · have hNe : other ≠ key := by
          intro he
          exact h ((beq_iff_eq.mp hEntry).symm.trans he)
        simp [hNe]

def empty : Table κ α := ⟨[], by simp⟩

instance : EmptyCollection (Table κ α) := ⟨empty⟩

instance : Inhabited (Table κ α) := ⟨empty⟩

def get? (t : Table κ α) (key : κ) : Option α :=
  t.entries.lookup key

def keys (t : Table κ α) : List κ :=
  t.entries.map Prod.fst

def values (t : Table κ α) : List α :=
  t.entries.map Prod.snd

def contains (t : Table κ α) (key : κ) : Bool :=
  t.keys.contains key

def size (t : Table κ α) : Nat :=
  t.entries.length

def isEmpty (t : Table κ α) : Bool :=
  t.entries.isEmpty

def insert (t : Table κ α) (key : κ) (value : α) : Table κ α :=
  ⟨write key value t.entries, nodup_write t.nodup⟩

/-- Writes an entry only if its key has none. -/
def insertNew (t : Table κ α) (key : κ) (value : α) : Table κ α :=
  if t.contains key then t else t.insert key value

/-- Writes entries one after the other. -/
def insertAll (t : Table κ α) (entries : List (κ × α)) : Table κ α :=
  entries.foldl (fun t entry => t.insert entry.1 entry.2) t

def ofList (entries : List (κ × α)) : Table κ α :=
  empty.insertAll entries

/-- The same keys with other values. -/
def mapValues (f : κ → α → β) (t : Table κ α) : Table κ β :=
  ⟨t.entries.map fun entry => (entry.1, f entry.1 entry.2), by
    simpa [List.map_map, Function.comp_def] using t.nodup⟩

def erase (t : Table κ α) (key : κ) : Table κ α :=
  ⟨t.entries.filter (·.1 ≠ key), t.nodup.sublist (List.filter_sublist.map Prod.fst)⟩

@[simp] theorem get?_empty (key : κ) : (empty : Table κ α).get? key = none := rfl

@[simp] theorem get?_insert (t : Table κ α) (key other : κ) (value : α) :
    (t.insert key value).get? other = if other = key then some value else t.get? other :=
  lookup_write key other value t.entries

@[simp] theorem keys_insert (t : Table κ α) (key : κ) (value : α) :
    (t.insert key value).keys = if key ∈ t.keys then t.keys else t.keys ++ [key] :=
  map_fst_write key value t.entries

omit [DecidableEq κ] in
@[simp] theorem keys_mapValues (f : κ → α → β) (t : Table κ α) :
    (t.mapValues f).keys = t.keys := by
  simp [keys, mapValues, List.map_map, Function.comp_def]

end Table

end Workflow
