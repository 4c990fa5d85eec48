import Workflow.Proofs.Catalog.Merge
import Workflow.Proofs.Catalog.Scan
import Workflow.Catalog.Resolve

/-!
# What the catalog holds

The candidates are the workflow files of the tiers that can be surveyed; the other tiers are left out
without a warning. The catalog has for each stem the entry of the first tier in which the file with
that stem can be read, and a warning for every other candidate.
-/

namespace Workflow

/-- The entry for a stem in a tier, with the definition in the file that has the stem. -/
def CatalogEntry.of (tier : Path × Tier) (stem : String) (definition : Definition) :
    CatalogEntry where
  stem := stem
  name := definition.name
  path := tier.1.child (stem ++ workflowSuffix)
  description := definition.description
  stageCount := definition.stages.length
  tier := tier.2

namespace FileTree

/-- The entry that a tier has for a stem, if the file with the stem is there and can be read. -/
def offer? (tree : FileTree) (cwd : Path) (tier : Path × Tier) (stem : String) :
    Option CatalogEntry :=
  let path := tier.1.child (stem ++ workflowSuffix)
  if tree.isFile cwd path = .ok true then
    (tree.readDefinition cwd path).toOption.map (CatalogEntry.of tier stem)
  else none

/-- The files with the name of a workflow file in the directories of the tiers, each once. -/
structure AreCandidates (tree : FileTree) (cwd : Path) (tiers : List (Path × Tier))
    (files : List Candidate) : Prop where
  nodup : (files.map Candidate.path).Nodup
  mem_iff : ∀ file, file ∈ files ↔ ∃ tier ∈ tiers, ∃ name, isWorkflowName name ∧
    tree.isFile cwd (tier.1.child name) = .ok true ∧
    file = ⟨tier.1.child name, tier.2, tree.readDefinition cwd (tier.1.child name)⟩

/-- The tiers that are searched to the end. -/
def surveyed (tree : FileTree) (cwd : Path) (tiers : List (Path × Tier)) : List (Path × Tier) :=
  tiers.filter fun tier => tree.isSurveyed cwd tier.1

end FileTree

namespace Catalog

/-- The warning due to a candidate: that it cannot be read, or that the entry with its stem is that
of another. -/
def warningOf? (catalog : Catalog) (file : Candidate) : Option CatalogWarning :=
  match file.result with
  | .error reason => some (.unreadable file.path.name reason)
  | .ok definition => (file.entry definition).shadowed? catalog.find?

/-- A catalog that accounts for every candidate of the tiers and prefers the first tiers. -/
structure IsOf (catalog : Catalog) (tree : FileTree) (cwd : Path) (tiers : List (Path × Tier)) :
    Prop where
  sorted : catalog.entries.Pairwise (·.stem < ·.stem)
  find?_eq : ∀ stem, catalog.find? stem = tiers.findSome? (tree.offer? cwd · stem)
  accounts : ∃ files, tree.AreCandidates cwd tiers files ∧
    catalog.warnings.Perm (files.filterMap catalog.warningOf?) ∧
    catalog.entries.length + catalog.warnings.length = files.length

end Catalog

namespace Candidate

theorem entry_of {tier : Path × Tier} {stem : String}
    {result : Except SourceError Definition} (definition : Definition) :
    (mk (tier.1.child (stem ++ workflowSuffix)) tier.2 result).entry definition =
      CatalogEntry.of tier stem definition := by
  rw [entry, Path.name_child, workflowStem_append]
  rfl

theorem entry?_eq_some_iff {file : Candidate} {entry : CatalogEntry} :
    file.entry? = some entry ↔ ∃ definition, file.result = .ok definition ∧
      file.entry definition = entry := by
  unfold Candidate.entry?
  cases file.result <;> simp [Except.toOption]

end Candidate

namespace FileTree

variable {tree : FileTree} {cwd : Path} {tiers : List (Path × Tier)} {tier : Path × Tier}
  {stem : String} {entry : CatalogEntry}

theorem surveyed_eq_self (hAbs : ∀ tier ∈ tiers, tier.1.isAbsolute)
    (hPlain : ∀ tier ∈ tiers, ∀ place, tree.find cwd tier.1 = .ok (place, .directory) →
      tree.IsPlain tier.1 place) : tree.surveyed cwd tiers = tiers := by
  refine List.filter_eq_self.mpr fun tier hTier => ?_
  by_cases hFound : ∃ place, tree.find cwd tier.1 = .ok (place, .directory)
  · obtain ⟨place, hFound⟩ := hFound
    exact (hPlain tier hTier place hFound).isSurveyed (hAbs tier hTier) hFound
  · exact isSurveyed_of_not_found (not_exists.mp hFound)

theorem stem_of_offer? (h : tree.offer? cwd tier stem = some entry) : entry.stem = stem := by
  rw [offer?] at h
  split at h
  · obtain ⟨definition, -, rfl⟩ := Option.map_eq_some_iff.mp h
    rfl
  · exact absurd h nofun

theorem mem_candidates_iff (hAbs : tier.1.isAbsolute) (hSurveyed : tree.isSurveyed cwd tier.1)
    {file : Candidate} :
    file ∈ tree.candidates cwd tier.1 tier.2 ↔ ∃ name, isWorkflowName name ∧
      tree.isFile cwd (tier.1.child name) = .ok true ∧
      file = ⟨tier.1.child name, tier.2, tree.readDefinition cwd (tier.1.child name)⟩ := by
  simp only [candidates, List.mem_map, mem_workflowNames_iff hAbs hSurveyed, hasFile, and_assoc,
    eq_comm (b := file)]

theorem map_path_scan (tree : FileTree) (cwd : Path) (tiers : List (Path × Tier)) :
    (tree.scan cwd tiers).flatten.map Candidate.path =
      tiers.flatMap fun tier => (tree.workflowNames cwd tier.1).map tier.1.child := by
  rw [scan, ← List.flatMap_def, List.map_flatMap]
  refine List.flatMap_congr fun tier _ => ?_
  rw [candidates, List.map_map]
  rfl

theorem nodup_map_path_scan (tree : FileTree) (cwd : Path) (hNodup : (tiers.map Prod.fst).Nodup) :
    ((tree.scan cwd tiers).flatten.map Candidate.path).Nodup := by
  rw [map_path_scan, List.nodup_flatMap]
  constructor
  · intro tier _
    exact nodup_workflowNames.map fun _ _ h => (Path.child_inj.mp h).2
  · refine (List.pairwise_map.mp hNodup).imp fun {tier tier'} hNe path hPath hPath' => hNe ?_
    obtain ⟨name, -, rfl⟩ := List.mem_map.mp hPath
    obtain ⟨name', -, h⟩ := List.mem_map.mp hPath'
    exact (Path.child_inj.mp h).1.symm

theorem areCandidates_scan (hNodup : (tiers.map Prod.fst).Nodup)
    (hTiers : ∀ tier ∈ tiers, tier.1.isAbsolute ∧ tree.isSurveyed cwd tier.1) :
    tree.AreCandidates cwd tiers (tree.scan cwd tiers).flatten := by
  refine ⟨nodup_map_path_scan tree cwd hNodup, fun file => ?_⟩
  rw [scan, ← List.flatMap_def, List.mem_flatMap]
  refine exists_congr fun tier => and_congr_right fun hTier => ?_
  exact mem_candidates_iff (hTiers tier hTier).1 (hTiers tier hTier).2

theorem offer?_eq_some_iff :
    tree.offer? cwd tier stem = some entry ↔
      tree.isFile cwd (tier.1.child (stem ++ workflowSuffix)) = .ok true ∧
      ∃ definition,
        tree.readDefinition cwd (tier.1.child (stem ++ workflowSuffix)) = .ok definition ∧
        CatalogEntry.of tier stem definition = entry := by
  simp only [offer?]
  split
  · next hFile =>
    cases tree.readDefinition cwd (tier.1.child (stem ++ workflowSuffix)) with
    | ok definition => simp [Except.toOption, hFile]
    | error reason => simp [Except.toOption]
  · next hFile => simp [hFile]

theorem first?_candidates (hAbs : tier.1.isAbsolute) (hSurveyed : tree.isSurveyed cwd tier.1) :
    Catalog.first? ((tree.candidates cwd tier.1 tier.2).filterMap Candidate.entry?) =
      tree.offer? cwd tier := by
  refine Catalog.first?_eq (fun entry => ?_) fun _ _ => stem_of_offer?
  rw [List.mem_filterMap, offer?_eq_some_iff]
  simp only [mem_candidates_iff hAbs hSurveyed, Candidate.entry?_eq_some_iff]
  constructor
  · rintro ⟨_, ⟨name, hName, hFile, rfl⟩, definition, hRead, hEntry⟩
    obtain ⟨stem, rfl⟩ := isWorkflowName_iff.mp hName
    rw [Candidate.entry_of] at hEntry
    obtain rfl : entry.stem = stem := by rw [← hEntry]; rfl
    exact ⟨hFile, definition, hRead, hEntry⟩
  · rintro ⟨hFile, definition, hRead, hEntry⟩
    exact ⟨_, ⟨_, isWorkflowName_append _, hFile, rfl⟩, definition, hRead,
      (Candidate.entry_of definition).trans hEntry⟩

end FileTree

namespace Catalog

variable {catalog : Catalog} {files : List Candidate}

theorem map_path_entries_sublist (files : List Candidate) :
    ((files.filterMap Candidate.entry?).map CatalogEntry.path).Sublist
      (files.map Candidate.path) := by
  induction files with
  | nil => exact List.Sublist.refl []
  | cons file files ih =>
    rw [List.filterMap_cons, List.map_cons]
    cases hEntry : file.entry? with
    | none => exact ih.cons _
    | some entry =>
      obtain ⟨definition, -, rfl⟩ := Candidate.entry?_eq_some_iff.mp hEntry
      exact ih.cons_cons _

theorem warnings_perm (files : List Candidate) :
    (files.filterMap Candidate.warning? ++
        (files.filterMap Candidate.entry?).filterMap (·.shadowed? catalog.find?)).Perm
      (files.filterMap catalog.warningOf?) := by
  induction files with
  | nil => exact List.Perm.nil
  | cons file files ih =>
    simp only [List.filterMap_cons, Candidate.warning?, Candidate.entry?, warningOf?]
    cases file.result with
    | error reason => exact ih.cons _
    | ok definition =>
      simp only [Except.toOption, Option.map_some, List.filterMap_cons]
      cases (file.entry definition).shadowed? catalog.find? with
      | none => exact ih
      | some warning => exact List.perm_middle.trans (ih.cons warning)

theorem length_warnings_add_entries (files : List Candidate) :
    (files.filterMap Candidate.warning?).length + (files.filterMap Candidate.entry?).length =
      files.length := by
  induction files with
  | nil => rfl
  | cons file files ih =>
    simp only [List.filterMap_cons, Candidate.warning?, Candidate.entry?, List.length_cons]
    cases file.result with
    | error reason =>
      simp only [Except.toOption, Option.map_none, List.length_cons]
      omega
    | ok definition =>
      simp only [Except.toOption, Option.map_some, List.length_cons]
      omega

theorem accounts_scan (tree : FileTree) (cwd : Path) {tiers : List (Path × Tier)}
    (hNodup : (tiers.map Prod.fst).Nodup) :
    ((tree.scan cwd tiers).foldl Merge.addTier {}).Accounts
      ((tree.scan cwd tiers).flatten.filterMap Candidate.entry?)
      ((tree.scan cwd tiers).flatten.filterMap Candidate.warning?) := by
  -- files are told apart by their paths, so no entry is added twice
  have hPaths := (FileTree.nodup_map_path_scan tree cwd hNodup).sublist (map_path_entries_sublist _)
  have hMerge := Merge.accounts_empty.addTiers hPaths
  rwa [List.nil_append, List.nil_append] at hMerge

theorem isOf_ofScan_of_surveyed {tree : FileTree} {cwd : Path} {tiers : List (Path × Tier)}
    (hNodup : (tiers.map Prod.fst).Nodup)
    (hTiers : ∀ tier ∈ tiers, tier.1.isAbsolute ∧ tree.isSurveyed cwd tier.1) :
    (ofScan (tree.scan cwd tiers)).IsOf tree cwd tiers := by
  have hMerge := accounts_scan tree cwd hNodup
  have hFind := hMerge.find?_catalog
  refine ⟨hMerge.pairwise_entries, fun stem => ?_, _,
    FileTree.areCandidates_scan hNodup hTiers, ?_, ?_⟩
  · have hEntries : (tree.scan cwd tiers).flatten.filterMap Candidate.entry? =
        tiers.flatMap fun tier => (tree.candidates cwd tier.1 tier.2).filterMap Candidate.entry? := by
      rw [FileTree.scan, ← List.flatMap_def, List.filterMap_flatMap]
    have hTier : ∀ tier ∈ tiers,
        first? ((tree.candidates cwd tier.1 tier.2).filterMap Candidate.entry?) stem =
          tree.offer? cwd tier stem := fun tier hTier => by
      rw [FileTree.first?_candidates (hTiers tier hTier).1 (hTiers tier hTier).2]
    rw [ofScan, hFind, hEntries, first?, List.find?_flatMap]
    have hOffers := congrArg (List.findSome? id) (List.map_congr_left hTier)
    rwa [List.findSome?_map, List.findSome?_map, Function.id_comp, Function.id_comp] at hOffers
  · rw [ofScan]
    refine hMerge.warnings.trans ?_
    rw [← hFind]
    exact warnings_perm _
  · have hEntries := Merge.length_entries ((tree.scan cwd tiers).foldl Merge.addTier {})
    have hWarnings := hMerge.warnings.length_eq
    have hCount := hMerge.count
    have hFiles := length_warnings_add_entries (tree.scan cwd tiers).flatten
    rw [List.length_append] at hWarnings
    change (Merge.catalog _).entries.length + List.length (Merge.warnings _) = _
    omega

/-- Tiers that cannot be surveyed leave no trace in the catalog. -/
theorem ofScan_surveyed (tree : FileTree) (cwd : Path) (tiers : List (Path × Tier)) :
    ofScan (tree.scan cwd (tree.surveyed cwd tiers)) = ofScan (tree.scan cwd tiers) := by
  have hScan (merge : Merge) : (tree.scan cwd (tree.surveyed cwd tiers)).foldl Merge.addTier merge =
      (tree.scan cwd tiers).foldl Merge.addTier merge := by
    induction tiers generalizing merge with
    | nil => rfl
    | cons tier tiers ih =>
      by_cases hTier : tree.isSurveyed cwd tier.1
      · have hKept : tree.surveyed cwd (tier :: tiers) = tier :: tree.surveyed cwd tiers :=
          List.filter_cons_of_pos hTier
        rw [hKept]
        exact ih _
      · have hDropped : tree.surveyed cwd (tier :: tiers) = tree.surveyed cwd tiers :=
          List.filter_cons_of_neg hTier
        have hNone : tree.candidates cwd tier.1 tier.2 = [] := by
          rw [FileTree.candidates, FileTree.workflowNames_of_not_surveyed hTier, List.map_nil]
        have hSame : merge.addTier [] = merge := by
          simp [Merge.addTier]
        have hCons : tree.scan cwd (tier :: tiers) = [] :: tree.scan cwd tiers :=
          congrArg (· :: tree.scan cwd tiers) hNone
        rw [hDropped, ih, hCons, List.foldl_cons, hSame]
  rw [ofScan, hScan, ofScan]

/-- The catalog of a scan accounts for all candidates of the tiers that can be surveyed. -/
theorem isOf_ofScan {tree : FileTree} {cwd : Path} {tiers : List (Path × Tier)}
    (hNodup : (tiers.map Prod.fst).Nodup) (hAbs : ∀ tier ∈ tiers, tier.1.isAbsolute) :
    (ofScan (tree.scan cwd tiers)).IsOf tree cwd (tree.surveyed cwd tiers) := by
  rw [← ofScan_surveyed]
  refine isOf_ofScan_of_surveyed (hNodup.sublist (List.filter_sublist.map Prod.fst))
    fun tier hTier => ?_
  obtain ⟨hMem, hSurveyed⟩ := List.mem_filter.mp hTier
  exact ⟨hAbs tier hMem, hSurveyed⟩

end Catalog

end Workflow
