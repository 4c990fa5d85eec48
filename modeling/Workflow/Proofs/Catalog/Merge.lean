import Mathlib.Data.List.Perm.Basic
import Workflow.Proofs.Table
import Workflow.Catalog.Discover

/-!
# Merging the tiers

Entries are added in order of precedence. After each step the winner of a stem is the first entry
added with it, and the warnings are those about files that cannot be read and one for every entry
that is not the winner of its stem.
-/

namespace Workflow

variable {entry : CatalogEntry} {added : List CatalogEntry} {failures : List CatalogWarning}

/-- What is told of an entry when the winners of the stems are known: nothing of a winner, of every
other one that it is shadowed. -/
def CatalogEntry.shadowed? (winner? : String → Option CatalogEntry) (entry : CatalogEntry) :
    Option CatalogWarning :=
  (winner? entry.stem).bind fun winner =>
    if winner.path = entry.path then none else some (.shadowed entry.stem entry.path winner.path)

namespace Catalog

def first? (entries : List CatalogEntry) (stem : String) : Option CatalogEntry :=
  entries.find? (·.stem == stem)

theorem first?_append (entries : List CatalogEntry) (stem : String) :
    first? (entries ++ [entry]) stem =
      (first? entries stem).or (if entry.stem = stem then some entry else none) := by
  simp [first?, List.find?_append, List.find?_singleton]

theorem stem_of_first?_eq_some {stem : String} (h : first? added stem = some entry) :
    entry.stem = stem := by
  have hBeq := List.find?_some h
  exact beq_iff_eq.mp hBeq

theorem exists_first?_eq_some (h : entry ∈ added) :
    ∃ winner, first? added entry.stem = some winner := by
  rw [← Option.isSome_iff_exists, first?, List.find?_isSome]
  exact ⟨entry, h, beq_self_eq_true _⟩

/-- What is found by stem among entries, each of which is the only one for its stem. -/
theorem first?_eq {offer : String → Option CatalogEntry}
    (hMem : ∀ entry, entry ∈ added ↔ offer entry.stem = some entry)
    (hStem : ∀ stem entry, offer stem = some entry → entry.stem = stem) : first? added = offer := by
  funext stem
  cases hOffer : offer stem with
  | none =>
    refine List.find?_eq_none.mpr fun entry hEntry hBeq => ?_
    rw [← beq_iff_eq.mp hBeq, (hMem entry).mp hEntry] at hOffer
    exact absurd hOffer nofun
  | some entry =>
    obtain rfl := hStem stem entry hOffer
    obtain ⟨found, hFound⟩ := exists_first?_eq_some ((hMem entry).mpr hOffer)
    have hOther := (hMem found).mp (List.mem_of_find?_eq_some hFound)
    rw [stem_of_first?_eq_some hFound, hOffer] at hOther
    exact hFound.trans hOther.symm

namespace Merge

/-- What holds when entries have been added and failures recorded. -/
structure Accounts (merge : Merge) (added : List CatalogEntry) (failures : List CatalogWarning) :
    Prop where
  winners : merge.winners.get? = first? added
  warnings : merge.warnings.Perm (failures ++ added.filterMap (·.shadowed? (first? added)))
  count : merge.winners.size + (added.filterMap (·.shadowed? (first? added))).length = added.length

variable {merge : Merge}

/-- An entry whose stem is taken leaves the winners as they are and is shadowed by one of them. -/
theorem Accounts.addEntry_of_taken {winner : CatalogEntry} (h : merge.Accounts added failures)
    (hNew : ∀ other ∈ added, other.path ≠ entry.path)
    (hTaken : first? added entry.stem = some winner) :
    (merge.addEntry entry).Accounts (added ++ [entry]) failures := by
  have hSame : first? (added ++ [entry]) = first? added := by
    funext stem
    rw [first?_append]
    split
    · next hStem => rw [← hStem, hTaken, Option.some_or]
    · rw [Option.or_none]
  -- the winner was added before, so it is not the entry itself
  have hShadow : entry.shadowed? (first? added) =
      some (.shadowed entry.stem entry.path winner.path) := by
    rw [CatalogEntry.shadowed?, hTaken, Option.bind_some,
      if_neg (hNew winner (List.mem_of_find?_eq_some hTaken))]
  have hAdd : merge.addEntry entry =
      { merge with
        warnings := merge.warnings ++ [.shadowed entry.stem entry.path winner.path] } := by
    rw [addEntry, h.winners, hTaken]
  rw [hAdd]
  refine ⟨h.winners.trans hSame.symm, ?_, ?_⟩
  · simpa [hSame, hShadow] using h.warnings.append_right [_]
  · simpa [hSame, hShadow, ← Nat.add_assoc] using h.count

/-- An entry whose stem is new wins it. -/
theorem Accounts.addEntry_of_new (h : merge.Accounts added failures)
    (hFree : first? added entry.stem = none) :
    (merge.addEntry entry).Accounts (added ++ [entry]) failures := by
  -- every stem that was taken keeps its winner, so the old warnings stay as they are
  have hOthers : added.filterMap (·.shadowed? (first? (added ++ [entry]))) =
      added.filterMap (·.shadowed? (first? added)) := by
    refine List.filterMap_congr fun other hOther => ?_
    obtain ⟨winner, hWinner⟩ := exists_first?_eq_some hOther
    rw [CatalogEntry.shadowed?, CatalogEntry.shadowed?, first?_append, hWinner, Option.some_or]
  have hOwn : entry.shadowed? (first? (added ++ [entry])) = none := by
    rw [CatalogEntry.shadowed?, first?_append, hFree, if_pos rfl]
    exact if_pos rfl
  have hGet : merge.winners.get? entry.stem = none := by rw [h.winners, hFree]
  have hAdd : merge.addEntry entry =
      { merge with winners := merge.winners.insert entry.stem entry } := by
    rw [addEntry, hGet]
  rw [hAdd]
  refine ⟨?_, ?_, ?_⟩
  · funext stem
    rw [Table.get?_insert, first?_append, h.winners]
    by_cases hStem : entry.stem = stem
    · rw [if_pos hStem.symm, if_pos hStem, ← hStem, hFree, Option.none_or]
    · rw [if_neg (Ne.symm hStem), if_neg hStem, Option.or_none]
  · rw [List.filterMap_append, hOthers]
    simpa [hOwn] using h.warnings
  · have hCount := h.count
    simp only [List.filterMap_append, hOthers, Table.size_insert_of_new hGet, List.filterMap_cons,
      hOwn, List.filterMap_nil, List.append_nil, List.length_append, List.length_singleton]
    omega

theorem Accounts.addEntry (h : merge.Accounts added failures)
    (hNew : ∀ other ∈ added, other.path ≠ entry.path) :
    (merge.addEntry entry).Accounts (added ++ [entry]) failures := by
  cases hFirst : first? added entry.stem with
  | none => exact h.addEntry_of_new hFirst
  | some winner => exact h.addEntry_of_taken hNew hFirst

theorem Accounts.addEntries {entries : List CatalogEntry} (h : merge.Accounts added failures)
    (hNodup : ((added ++ entries).map CatalogEntry.path).Nodup) :
    (entries.foldl Merge.addEntry merge).Accounts (added ++ entries) failures := by
  induction entries generalizing merge added with
  | nil => rwa [List.append_nil]
  | cons entry entries ih =>
    rw [List.foldl_cons, List.append_cons]
    rw [List.append_cons] at hNodup
    refine ih (h.addEntry fun other hOther hPath => ?_) hNodup
    rw [List.map_append, List.map_append, List.append_assoc, List.nodup_append] at hNodup
    exact hNodup.2.2 _ (List.mem_map_of_mem hOther) _ List.mem_cons_self hPath

/-- A tier adds the entries of its readable files and the failures of the others. -/
theorem Accounts.addTier {files : List Candidate} (h : merge.Accounts added failures)
    (hNodup : ((added ++ files.filterMap Candidate.entry?).map CatalogEntry.path).Nodup) :
    (merge.addTier files).Accounts (added ++ files.filterMap Candidate.entry?)
      (failures ++ files.filterMap Candidate.warning?) := by
  refine addEntries ⟨h.winners, ?_, h.count⟩ hNodup
  refine (h.warnings.append_right _).trans ?_
  rw [List.append_assoc, List.append_assoc]
  exact List.perm_append_comm.append_left failures

theorem Accounts.addTiers {tiers : List (List Candidate)} (h : merge.Accounts added failures)
    (hNodup : ((added ++ tiers.flatten.filterMap Candidate.entry?).map CatalogEntry.path).Nodup) :
    (tiers.foldl Merge.addTier merge).Accounts (added ++ tiers.flatten.filterMap Candidate.entry?)
      (failures ++ tiers.flatten.filterMap Candidate.warning?) := by
  induction tiers generalizing merge added failures with
  | nil => simpa using h
  | cons files tiers ih =>
    rw [List.flatten_cons, List.filterMap_append, ← List.append_assoc] at hNodup
    rw [List.foldl_cons, List.flatten_cons, List.filterMap_append, List.filterMap_append,
      ← List.append_assoc, ← List.append_assoc]
    refine ih (h.addTier ?_) hNodup
    rw [List.map_append] at hNodup
    exact (List.nodup_append.mp hNodup).1

theorem accounts_empty : ({} : Merge).Accounts [] [] :=
  ⟨rfl, List.Perm.nil, rfl⟩

theorem Accounts.first?_of_mem {stem : String} (h : merge.Accounts added failures)
    (hMem : (stem, entry) ∈ merge.winners.entries) : first? added stem = some entry := by
  rw [← h.winners, Table.get?_eq_some_iff]
  exact hMem

/-- The winners are the entries that win their own stem. -/
theorem Accounts.mem_values_iff (h : merge.Accounts added failures) :
    entry ∈ merge.winners.values ↔ first? added entry.stem = some entry := by
  constructor
  · intro hMem
    obtain ⟨⟨stem, _⟩, hEntry, rfl⟩ := List.mem_map.mp hMem
    have hFirst := h.first?_of_mem hEntry
    rwa [← stem_of_first?_eq_some hFirst] at hFirst
  · intro hFirst
    rw [← h.winners, Table.get?_eq_some_iff] at hFirst
    exact List.mem_map.mpr ⟨_, hFirst, rfl⟩

theorem Accounts.nodup_stems (h : merge.Accounts added failures) :
    (merge.winners.values.map CatalogEntry.stem).Nodup := by
  have hStems : merge.winners.values.map CatalogEntry.stem = merge.winners.keys := by
    rw [Table.values, Table.keys, List.map_map]
    exact List.map_congr_left fun _ hMem => stem_of_first?_eq_some (h.first?_of_mem hMem)
  rw [hStems]
  exact merge.winners.nodup

theorem Accounts.mem_entries_iff (h : merge.Accounts added failures) :
    entry ∈ merge.catalog.entries ↔ first? added entry.stem = some entry := by
  rw [← h.mem_values_iff, catalog, List.mem_mergeSort]

theorem length_entries (merge : Merge) :
    merge.catalog.entries.length = merge.winners.size := by
  rw [catalog, List.length_mergeSort, Table.values, List.length_map, Table.size]

/-- The entries of the catalog stand in the order of their stems, none of which comes twice. -/
theorem Accounts.pairwise_entries (h : merge.Accounts added failures) :
    merge.catalog.entries.Pairwise (·.stem < ·.stem) := by
  have hSorted : merge.catalog.entries.Pairwise fun a b => decide (a.stem ≤ b.stem) = true :=
    List.pairwise_mergeSort (fun _ _ _ => by simpa using String.le_trans)
      (fun a b => by simpa using String.le_total a.stem b.stem) _
  have hDistinct : merge.catalog.entries.Pairwise (·.stem ≠ ·.stem) :=
    List.pairwise_map.mp (((List.mergeSort_perm _ _).map _).nodup_iff.mpr h.nodup_stems)
  refine (hSorted.and hDistinct).imp fun {a b} hBoth => ?_
  by_contra hNot
  exact hBoth.2 (String.le_antisymm (of_decide_eq_true hBoth.1) (String.not_lt.mp hNot))

/-- The catalog finds the first entry added with a stem. -/
theorem Accounts.find?_catalog (h : merge.Accounts added failures) :
    merge.catalog.find? = first? added :=
  first?_eq (fun _ => h.mem_entries_iff) fun _ _ => stem_of_first?_eq_some

end Merge

end Catalog

end Workflow
