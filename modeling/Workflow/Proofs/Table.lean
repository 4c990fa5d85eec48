import Mathlib.Data.List.Basic
import Mathlib.Data.List.Induction
import Workflow.Table

/-!
# Writing many entries

What a table holds after a list of entries has been written: which keys it has, which value is at
a key, and, where all keys are new, the entries in the order in which they were written. Beside
it stands what a table holds whose values have been replaced by others.
-/

namespace Workflow.Table

universe u v

variable {κ : Type u} {α : Type v} [DecidableEq κ] {t : Table κ α} {entries : List (κ × α)}
  {key : κ} {value : α}

@[simp] theorem insertAll_nil : t.insertAll [] = t := rfl

@[simp] theorem insertAll_cons {entry : κ × α} :
    t.insertAll (entry :: entries) = (t.insert entry.1 entry.2).insertAll entries := rfl

theorem insertAll_append {more : List (κ × α)} :
    t.insertAll (entries ++ more) = (t.insertAll entries).insertAll more :=
  List.foldl_append

theorem mem_keys_insert {other : κ} :
    other ∈ (t.insert key value).keys ↔ other ∈ t.keys ∨ other = key := by
  rw [keys_insert]
  split
  · rename_i hKey
    constructor
    · exact Or.inl
    · rintro (h | rfl)
      · exact h
      · exact hKey
  · simp

theorem mem_keys_insertAll :
    key ∈ (t.insertAll entries).keys ↔ key ∈ t.keys ∨ key ∈ entries.map Prod.fst := by
  induction entries generalizing t with
  | nil => simp
  | cons entry entries ih =>
    rw [insertAll_cons, ih, mem_keys_insert, List.map_cons, List.mem_cons]
    exact or_assoc

theorem get?_insertAll_of_notMem (h : key ∉ entries.map Prod.fst) :
    (t.insertAll entries).get? key = t.get? key := by
  induction entries generalizing t with
  | nil => rfl
  | cons entry entries ih =>
    rw [List.map_cons, List.mem_cons, not_or] at h
    rw [insertAll_cons, ih h.2, get?_insert, if_neg h.1]

theorem get?_insertAll_of_mem (hNodup : (entries.map Prod.fst).Nodup)
    (h : (key, value) ∈ entries) : (t.insertAll entries).get? key = some value := by
  induction entries generalizing t with
  | nil => cases h
  | cons entry entries ih =>
    rw [List.map_cons, List.nodup_cons] at hNodup
    rw [insertAll_cons]
    obtain rfl | hMem := List.mem_cons.mp h
    · rw [get?_insertAll_of_notMem hNodup.1, get?_insert, if_pos rfl]
    · exact ih hNodup.2 hMem

theorem get?_insertNew_of_ne {other : κ} (h : other ≠ key) :
    (t.insertNew key value).get? other = t.get? other := by
  unfold insertNew
  split
  · rfl
  · rw [get?_insert, if_neg h]

theorem keys_insertNew :
    (t.insertNew key value).keys = if key ∈ t.keys then t.keys else t.keys ++ [key] := by
  simp only [insertNew, contains, List.contains_eq_mem, decide_eq_true_eq]
  split
  · rfl
  · next hKey => rw [keys_insert, if_neg hKey]

/-- The keys stand in the order in which they were first written. -/
theorem eraseDups_append_singleton {keys : List κ} :
    (keys ++ [key]).eraseDups =
      if key ∈ keys.eraseDups then keys.eraseDups else keys.eraseDups ++ [key] := by
  rw [List.eraseDups_append]
  by_cases h : key ∈ keys <;> simp [List.removeAll, h, List.eraseDups_cons]

theorem keys_foldl_insertNew (entries : List (κ × α)) :
    (entries.foldl (fun t entry => t.insertNew entry.1 entry.2) (empty : Table κ α)).keys =
      (entries.map Prod.fst).eraseDups := by
  induction entries using List.reverseRecOn with
  | nil => rfl
  | append_singleton entries entry ih =>
    rw [List.foldl_append, List.map_append, List.map_singleton, eraseDups_append_singleton,
      List.foldl_cons, List.foldl_nil, keys_insertNew, ih]

theorem keys_insertAll :
    (t.insertAll entries).keys =
      t.keys ++ ((entries.map Prod.fst).filter (· ∉ t.keys)).eraseDups := by
  induction entries generalizing t with
  | nil => simp
  | cons entry entries ih =>
    rw [insertAll_cons, ih, keys_insert, List.map_cons]
    by_cases hKey : entry.1 ∈ t.keys
    · simp [hKey]
    · have hDrop : (entries.map Prod.fst).filter (· ∉ t.keys ++ [entry.1]) =
          ((entries.map Prod.fst).filter (· ∉ t.keys)).filter fun key => !key == entry.1 := by
        rw [List.filter_filter]
        refine List.filter_congr fun key _ => ?_
        simp only [List.mem_append, List.mem_singleton, not_or, Bool.decide_and, decide_not]
        rw [Bool.and_comm]
        rfl
      rw [if_neg hKey, hDrop, List.filter_cons_of_pos (by simpa using hKey), List.eraseDups_cons,
        List.append_assoc, List.singleton_append]

/-- The value at a key is the last that was written. -/
theorem get?_insertAll :
    (t.insertAll entries).get? key = (entries.reverse.lookup key).or (t.get? key) := by
  induction entries generalizing t with
  | nil => rfl
  | cons entry entries ih =>
    have hLast : (if key = entry.1 then some entry.2 else t.get? key) =
        ([entry].lookup key).or (t.get? key) := by
      obtain ⟨first, found⟩ := entry
      by_cases hKey : key = first
      · simp [hKey]
      · have hFalse : (key == first) = false := by simp [hKey]
        simp [List.lookup_cons, hKey, hFalse]
    rw [insertAll_cons, ih, get?_insert, hLast, List.reverse_cons, List.lookup_append,
      Option.or_assoc]

theorem keys_ofList : (ofList entries).keys = (entries.map Prod.fst).eraseDups := by
  have hAll : (entries.map Prod.fst).filter (· ∉ (empty : Table κ α).keys) = entries.map Prod.fst :=
    List.filter_eq_self.mpr fun _ _ => rfl
  rw [ofList, keys_insertAll, hAll]
  rfl

theorem get?_ofList : (ofList entries).get? key = entries.reverse.lookup key := by
  rw [ofList, get?_insertAll, get?_empty, Option.or_none]

theorem write_of_notMem {entries : List (κ × α)} (h : key ∉ entries.map Prod.fst) :
    write key value entries = entries ++ [(key, value)] := by
  induction entries with
  | nil => rfl
  | cons entry entries ih =>
    rw [List.map_cons, List.mem_cons, not_or] at h
    rw [write, if_neg (Ne.symm h.1), ih h.2, List.cons_append]

theorem entries_insertAll (h : (t.keys ++ entries.map Prod.fst).Nodup) :
    (t.insertAll entries).entries = t.entries ++ entries := by
  induction entries generalizing t with
  | nil => simp
  | cons entry entries ih =>
    have hNew : entry.1 ∉ t.keys := by
      intro hMem
      exact (List.nodup_append.mp h).2.2 _ hMem _ List.mem_cons_self rfl
    have hEntries : (t.insert entry.1 entry.2).entries = t.entries ++ [entry] :=
      write_of_notMem hNew
    have hKeys : (t.insert entry.1 entry.2).keys = t.keys ++ [entry.1] := by
      rw [keys_insert, if_neg hNew]
    rw [insertAll_cons, ih, hEntries, List.append_assoc, List.singleton_append]
    rwa [hKeys, List.append_assoc, List.singleton_append]

theorem entries_ofList (h : (entries.map Prod.fst).Nodup) : (ofList entries).entries = entries :=
  entries_insertAll h

omit [DecidableEq κ] in
theorem eq_of_entries_eq {t t' : Table κ α} (h : t.entries = t'.entries) : t = t' := by
  cases t
  cases t'
  cases h
  rfl

theorem get?_mapValues {β : Type v} {f : κ → α → β} :
    (t.mapValues f).get? key = (t.get? key).map (f key) := by
  simp only [get?, mapValues]
  induction t.entries with
  | nil => rfl
  | cons entry entries ih =>
    obtain ⟨first, found⟩ := entry
    by_cases h : key = first
    · simp [h]
    · have hFalse : (key == first) = false := by simp [h]
      simpa [List.lookup_cons, hFalse] using ih

omit [DecidableEq κ] in
theorem mapValues_mapValues {β γ : Type v} {f : κ → α → β} {f' : κ → β → γ} :
    (t.mapValues f).mapValues f' = t.mapValues fun key value => f' key (f key value) :=
  eq_of_entries_eq (List.map_map ..)

theorem ofList_append_singleton {entry : κ × α} :
    ofList (entries ++ [entry]) = (ofList entries).insert entry.1 entry.2 := by
  simp [ofList, insertAll]

theorem ofList_entries (t : Table κ α) : ofList t.entries = t :=
  eq_of_entries_eq (entries_ofList t.nodup)

theorem lookup_eq_some_iff_mem (hNodup : (entries.map Prod.fst).Nodup) :
    entries.lookup key = some value ↔ (key, value) ∈ entries := by
  induction entries with
  | nil => simp
  | cons entry entries ih =>
    obtain ⟨first, found⟩ := entry
    rw [List.map_cons, List.nodup_cons] at hNodup
    rw [List.lookup_cons, List.mem_cons, Prod.mk.injEq]
    by_cases h : key = first
    · subst h
      have hFresh : (key, value) ∉ entries := fun hMem =>
        hNodup.1 (List.mem_map.mpr ⟨(key, value), hMem, rfl⟩)
      simp [hFresh, eq_comm]
    · have hFalse : (key == first) = false := by simp [h]
      simp [hFalse, h, ih hNodup.2]

theorem get?_eq_some_iff : t.get? key = some value ↔ (key, value) ∈ t.entries :=
  lookup_eq_some_iff_mem t.nodup

theorem exists_get?_eq_some (h : key ∈ t.keys) : ∃ value, t.get? key = some value := by
  obtain ⟨⟨_, value⟩, hMem, rfl⟩ := List.mem_map.mp h
  exact ⟨value, get?_eq_some_iff.mpr hMem⟩

theorem notMem_keys (h : t.get? key = none) : key ∉ t.keys := by
  intro hMem
  obtain ⟨value, hValue⟩ := exists_get?_eq_some hMem
  exact absurd (h.symm.trans hValue) nofun

theorem size_insert_of_new (h : t.get? key = none) : (t.insert key value).size = t.size + 1 := by
  have hEntries : (t.insert key value).entries = t.entries ++ [(key, value)] :=
    write_of_notMem (notMem_keys h)
  rw [size, hEntries, List.length_append]
  rfl

/-- An entry after writing is one of those written, or an old one whose key was not written. -/
theorem mem_entries_insertAll {entry : κ × α} (h : entry ∈ (t.insertAll entries).entries) :
    entry ∈ entries ∨ entry ∈ t.entries ∧ entry.1 ∉ entries.map Prod.fst := by
  induction entries generalizing t with
  | nil => exact Or.inr ⟨h, List.not_mem_nil⟩
  | cons first entries ih =>
    rw [insertAll_cons] at h
    rw [List.mem_cons, List.map_cons, List.mem_cons, not_or]
    obtain hMem | ⟨hMem, hRest⟩ := ih h
    · exact Or.inl (Or.inr hMem)
    · have hGet := get?_eq_some_iff.mpr hMem
      rw [get?_insert] at hGet
      split at hGet
      · rename_i hKey
        exact Or.inl (Or.inl (Prod.ext hKey (Option.some.inj hGet).symm))
      · rename_i hKey
        exact Or.inr ⟨get?_eq_some_iff.mp hGet, hKey, hRest⟩

theorem entries_eq_filterMap :
    t.entries = t.keys.filterMap fun key => (t.get? key).map (Prod.mk key) := by
  have hEach : ∀ entry ∈ t.entries, (t.get? entry.1).map (Prod.mk entry.1) = some entry := by
    intro entry hEntry
    rw [get?_eq_some_iff.mpr hEntry]
    rfl
  rw [keys, List.filterMap_map]
  exact ((List.filterMap_congr hEach).trans List.filterMap_some).symm

/-- A table is given by its keys in order and what is at each of them. -/
theorem eq_of_get?_eq {t' : Table κ α} (hKeys : t.keys = t'.keys)
    (hGet : ∀ key, t.get? key = t'.get? key) : t = t' := by
  apply eq_of_entries_eq
  rw [entries_eq_filterMap, entries_eq_filterMap, hKeys]
  simp only [hGet]

/-- Leaving out and taking each but once can be done in either order. -/
theorem eraseDups_filter {κ : Type u} [DecidableEq κ] (p : κ → Bool) (keys : List κ) :
    (keys.filter p).eraseDups = keys.eraseDups.filter p := by
  induction keys using (measure List.length).wf.induction with
  | h keys ih =>
    cases keys with
    | nil => rfl
    | cons key keys =>
      have hShorter : (keys.filter fun other => !other == key).length < (key :: keys).length :=
        Nat.lt_succ_of_le (List.length_filter_le _ _)
      rw [List.eraseDups_cons]
      by_cases hKey : p key = true
      · rw [List.filter_cons_of_pos hKey, List.filter_cons_of_pos hKey, List.eraseDups_cons,
          List.filter_comm, ih _ hShorter]
      · have hOther : (keys.filter fun other => !other == key).filter p = keys.filter p := by
          rw [List.filter_filter]
          refine List.filter_congr fun other _ => ?_
          by_cases hSame : other = key
          · simp [hSame, hKey]
          · simp [hSame]
        rw [List.filter_cons_of_neg hKey, List.filter_cons_of_neg hKey, ← ih _ hShorter, hOther]

theorem eraseDups_of_nodup {κ : Type u} [DecidableEq κ] {keys : List κ} (h : keys.Nodup) :
    keys.eraseDups = keys := by
  induction keys with
  | nil => rfl
  | cons key keys ih =>
    rw [List.nodup_cons] at h
    have hAll : ∀ other ∈ keys, (!other == key) = true := fun other hOther => by
      simpa using fun hSame : other = key => h.1 (hSame ▸ hOther)
    rw [List.eraseDups_cons, List.filter_eq_self.mpr hAll, ih h.2]

/-- Entries that are first put in a table of their own, where the later ones of a key replace the
earlier ones, are written like all of them. -/
theorem insertAll_entries_ofList : t.insertAll (ofList entries).entries = t.insertAll entries := by
  apply eq_of_get?_eq
  · have hKeys : (ofList entries).entries.map Prod.fst = (entries.map Prod.fst).eraseDups :=
      keys_ofList
    have hNodup : ((ofList entries).entries.map Prod.fst).Nodup := (ofList entries).nodup
    rw [keys_insertAll, keys_insertAll, eraseDups_of_nodup (hNodup.filter _), hKeys, eraseDups_filter]
  · intro key
    have hLast : (ofList entries).entries.reverse.lookup key = entries.reverse.lookup key := by
      rw [← get?_ofList, ← get?_ofList, ofList_entries]
    rw [get?_insertAll, get?_insertAll, hLast]
theorem get?_eq_none (h : key ∉ t.keys) : t.get? key = none :=
  Option.eq_none_iff_forall_ne_some.mpr fun _ hGet =>
    h (List.mem_map_of_mem (f := Prod.fst) (get?_eq_some_iff.mp hGet))

theorem get?_insertNew_self :
    (t.insertNew key value).get? key = some ((t.get? key).getD value) := by
  unfold insertNew
  split
  · rename_i hKey
    have hMem : key ∈ t.keys := by simpa [contains] using hKey
    obtain ⟨found, hFound⟩ := exists_get?_eq_some hMem
    rw [hFound]
    rfl
  · rename_i hKey
    have hNew : key ∉ t.keys := by simpa [contains] using hKey
    rw [get?_insert, if_pos rfl, get?_eq_none hNew]
    rfl

/-- Renaming keys keeps the value at a key that no other key is renamed to. -/
theorem get?_insertAll_map {f : κ → κ}
    (hOnly : ∀ name, f name = key ↔ name = key) (hNodup : (entries.map Prod.fst).Nodup) :
    (t.insertAll (entries.map fun e => (f e.1, e.2))).get? key =
      (entries.lookup key).or (t.get? key) := by
  induction entries generalizing t with
  | nil => rfl
  | cons entry entries ih =>
    obtain ⟨name, found⟩ := entry
    rw [List.map_cons, List.nodup_cons] at hNodup
    rw [List.map_cons, insertAll_cons, ih hNodup.2, get?_insert, List.lookup_cons]
    by_cases hName : name = key
    · subst hName
      have hNone : entries.lookup name = none := by
        rw [List.lookup_eq_none_iff]
        intro entry hEntry
        exact bne_iff_ne.mpr fun h => hNodup.1 (List.mem_map.mpr ⟨entry, hEntry, h.symm⟩)
      rw [hNone, if_pos ((hOnly name).mpr rfl).symm, beq_self_eq_true]
      rfl
    · have hRenamed : key ≠ f name := fun h => hName ((hOnly name).mp h.symm)
      rw [if_neg hRenamed, beq_false_of_ne (Ne.symm hName)]

end Workflow.Table
