import Workflow.Proofs.Catalog.Discovery

/-!
# Looking up the catalog

With roots that have real paths there is a catalog. It accounts for all workflow files of the tiers
that can be surveyed, does not depend on the order in which directories list their names, and is what
a bare reference is looked up in. A tier with one file about which nothing can be told is lost with
all its files, and there is no warning of it.
-/

namespace Workflow

namespace Catalog

/-- What a bare reference means: the entry with that stem, and where there is none the error names
for each tier the file that was looked for. -/
structure Resolves (catalog : Catalog) (tree : FileTree) (cwd : Path) (roots : Roots)
    (tiers : List (Path × Tier)) (ref : String) : Prop where
  found : ∀ entry ∈ catalog.entries, entry.stem = ref →
    tree.resolve cwd roots ref = .ok ⟨entry.path, catalog.warnings⟩
  fails : (∃ e, tree.resolve cwd roots ref = .error e) ↔
    ∀ entry ∈ catalog.entries, entry.stem ≠ ref
  searched : ∀ e, tree.resolve cwd roots ref = .error e → ∃ unknown, e = .unresolved unknown ∧
    unknown.ref = ref ∧
    unknown.searched = tiers.map fun tier => tier.1.child (ref ++ workflowSuffix)

variable {catalog : Catalog} {tree : FileTree} {cwd : Path} {roots : Roots}
  {tiers : List (Path × Tier)} {ref : String}

theorem IsOf.find?_eq_some {entry : CatalogEntry} (h : catalog.IsOf tree cwd tiers) (hMem : entry ∈ catalog.entries) :
    catalog.find? entry.stem = some entry := by
  have hStems : (catalog.entries.map CatalogEntry.stem).Nodup :=
    List.pairwise_map.mpr (h.sorted.imp fun hLess => String.ne_of_lt hLess)
  obtain ⟨found, hFound⟩ := exists_first?_eq_some hMem
  have hSame := List.inj_on_of_nodup_map hStems (List.mem_of_find?_eq_some hFound) hMem
    (stem_of_first?_eq_some hFound)
  exact hFound.trans (congrArg some hSame)

theorem resolve_of_found {entry : CatalogEntry} (hTiers : tree.tiers cwd roots = .ok tiers)
    (hBare : isBareRef ref) (hFind : (ofScan (tree.scan cwd tiers)).find? ref = some entry) :
    tree.resolve cwd roots ref = .ok ⟨entry.path, (ofScan (tree.scan cwd tiers)).warnings⟩ := by
  rw [FileTree.resolve, if_pos hBare, FileTree.resolveStem, hTiers]
  refine Except.bind_eq_ok_iff.mpr ⟨tiers, rfl, ?_⟩
  dsimp only
  rw [hFind]

theorem resolve_of_unknown (hTiers : tree.tiers cwd roots = .ok tiers) (hBare : isBareRef ref)
    (hFind : (ofScan (tree.scan cwd tiers)).find? ref = none) :
    tree.resolve cwd roots ref = .error (.unresolved (.unknown ref
      (tiers.map fun tier => tier.1.child (ref ++ workflowSuffix))
      ((ofScan (tree.scan cwd tiers)).failuresOf ref))) := by
  rw [FileTree.resolve, if_pos hBare, FileTree.resolveStem, hTiers]
  refine Except.bind_eq_error_iff.mpr (Or.inr ⟨tiers, rfl, ?_⟩)
  dsimp only
  rw [hFind]

theorem resolves_of_bare {searched : List (Path × Tier)} (hTiers : tree.tiers cwd roots = .ok tiers)
    (h : (ofScan (tree.scan cwd tiers)).IsOf tree cwd searched) (hBare : isBareRef ref) :
    (ofScan (tree.scan cwd tiers)).Resolves tree cwd roots tiers ref := by
  cases hFind : (ofScan (tree.scan cwd tiers)).find? ref with
  | some entry =>
    have hOk := resolve_of_found hTiers hBare hFind
    have hEntry := List.mem_of_find?_eq_some hFind
    obtain rfl := stem_of_first?_eq_some hFind
    refine ⟨fun other hOther hSame => ?_, ?_, fun e he => ?_⟩
    · have hOtherFind := h.find?_eq_some hOther
      rw [hSame] at hOtherFind
      exact resolve_of_found hTiers hBare hOtherFind
    · constructor
      · rintro ⟨e, he⟩
        cases hOk.symm.trans he
      · exact fun hNone => absurd rfl (hNone entry hEntry)
    · cases hOk.symm.trans he
  | none =>
    have hError := resolve_of_unknown hTiers hBare hFind
    have hNone : ∀ entry ∈ (ofScan (tree.scan cwd tiers)).entries, entry.stem ≠ ref := by
      intro entry hEntry hSame
      rw [← hSame, h.find?_eq_some hEntry] at hFind
      cases hFind
    refine ⟨fun entry hEntry hSame => absurd hSame (hNone entry hEntry),
      iff_of_true ⟨_, hError⟩ hNone, fun e he => ?_⟩
    obtain rfl := Except.error.inj (hError.symm.trans he)
    exact ⟨_, rfl, rfl, rfl⟩

end Catalog

namespace FileTree

variable {tree : FileTree} {cwd : Path} {roots : Roots} {tiers : List (Path × Tier)}
  {tier : Path × Tier}

theorem catalog_of_tiers (h : tree.tiers cwd roots = .ok tiers) :
    tree.catalog cwd roots = .ok (Catalog.ofScan (tree.scan cwd tiers)) := by
  rw [catalog, h]
  rfl

/-- There is a catalog exactly if every root has a real path. -/
theorem exists_catalog_eq_ok_iff :
    (∃ catalog, tree.catalog cwd roots = .ok catalog) ↔
      ∀ root ∈ roots.all, ∃ real, tree.realPath cwd root.1 = .ok real := by
  constructor
  · rintro ⟨_, h⟩ root hRoot
    obtain ⟨tiers, hTiers, -⟩ := Except.map_eq_ok_iff.mp h
    obtain ⟨found, hFound, -⟩ := Except.bind_eq_ok_iff.mp hTiers
    obtain ⟨tier, -, hTier⟩ := Except.exists_of_mem_of_forall₂
      (Except.mapM_eq_ok_iff_forall₂.mp hFound).flip root hRoot
    obtain ⟨directory, hDirectory, -⟩ := Except.map_eq_ok_iff.mp hTier
    obtain ⟨real, hReal, -⟩ := Except.map_eq_ok_iff.mp hDirectory
    exact ⟨real, hReal⟩
  · intro h
    have hEach : ∀ root ∈ roots.all,
        ∃ tier, (tree.workflowsOf cwd root.1).map (·, root.2) = .ok tier := by
      intro root hRoot
      obtain ⟨real, hReal⟩ := h root hRoot
      exact ⟨_, by rw [workflowsOf, hReal]; rfl⟩
    obtain ⟨found, hFound⟩ := Except.exists_mapM_eq_ok hEach
    exact ⟨_, by rw [catalog, tiers, hFound]; rfl⟩

/-- The catalog accounts for every workflow file of the tiers that can be surveyed, which are all
tiers as long as their directories are plain, and bare references mean its entries. -/
theorem catalog_accounts (tree : FileTree) (cwd : Path) (roots : Roots) :
    ((∃ catalog, tree.catalog cwd roots = .ok catalog) ↔
      ∀ root ∈ roots.all, ∃ real, tree.realPath cwd root.1 = .ok real) ∧
    ∀ tiers, tree.tiers cwd roots = .ok tiers →
      (∃ directories, (roots.all.map Prod.fst).mapM (tree.workflowsOf cwd) = .ok directories ∧
        tiers.map Prod.fst = directories.eraseDups) ∧
      ((∀ tier ∈ tiers, ∀ place, tree.find cwd tier.1 = .ok (place, .directory) →
        tree.IsPlain tier.1 place) → tree.surveyed cwd tiers = tiers) ∧
      ∃ catalog : Catalog, catalog.IsOf tree cwd (tree.surveyed cwd tiers) ∧
        (∀ tree' : FileTree, tree.SameEntries tree' → tree'.catalog cwd roots = .ok catalog) ∧
        ∀ ref, isBareRef ref → catalog.Resolves tree cwd roots tiers ref := by
  refine ⟨exists_catalog_eq_ok_iff, fun tiers hTiers => ?_⟩
  have hIsOf : (Catalog.ofScan (tree.scan cwd tiers)).IsOf tree cwd (tree.surveyed cwd tiers) :=
    Catalog.isOf_ofScan (nodup_map_fst_tiers hTiers) fun _ => isAbsolute_of_mem_tiers hTiers
  refine ⟨exists_directories_of_tiers hTiers,
    surveyed_eq_self fun _ => isAbsolute_of_mem_tiers hTiers, _, hIsOf, fun tree' hSame => ?_,
    fun ref => Catalog.resolves_of_bare hTiers hIsOf⟩
  rw [← hSame.catalog_eq, catalog_of_tiers hTiers]

/-- A file that cannot be read leaves its stem to the next tier, and a file whose stem is taken is
shadowed. A tier that cannot be surveyed is passed over. -/
theorem catalog_accounts_at_broken_file :
    ∃ (tree : FileTree) (cwd : Path) (roots : Roots) (tiers : List (Path × Tier)),
      tree.tiers cwd roots = .ok tiers ∧ tiers.map Prod.snd = [.project, .repository, .global] ∧
      (tree.surveyed cwd tiers).map Prod.snd = [.project, .global] ∧
      ∃ catalog : Catalog, tree.catalog cwd roots = .ok catalog ∧
        catalog.IsOf tree cwd (tree.surveyed cwd tiers) ∧
        (catalog.find? "a").map (·.tier) = some .project ∧
        (catalog.find? "b").map (·.tier) = some .global ∧
        catalog.Resolves tree cwd roots tiers "b" := by
  obtain ⟨text, hText⟩ : ∃ text : String, text = "workflow w\x7bstart s;stage s kind=exit\x7d" :=
    ⟨_, rfl⟩
  obtain ⟨tree, hTree⟩ : ∃ tree : FileTree, tree =
      { entries := Table.ofList
          [(["p"], .directory), (["p", ".attractor"], .directory),
            (["p", ".attractor", "workflows"], .directory),
            (["p", ".attractor", "workflows", "a" ++ workflowSuffix], .file (bytesOfText text)),
            (["p", ".attractor", "workflows", "b" ++ workflowSuffix], .file (bytesOfText "?")),
            ([".attractor"], .directory), ([".attractor", "workflows"], .directory),
            ([".attractor", "workflows", "b" ++ workflowSuffix], .file (bytesOfText text)),
            (["h"], .directory), (["h", ".attractor"], .directory),
            (["h", ".attractor", "workflows"], .directory),
            (["h", ".attractor", "workflows", "a" ++ workflowSuffix], .file (bytesOfText text)),
            (["h", ".attractor", "workflows", "b" ++ workflowSuffix], .file (bytesOfText text))]
        rights := Table.ofList [([".attractor", "workflows"], { search := false })] } := ⟨_, rfl⟩
  obtain ⟨cwd, hCwd⟩ : ∃ cwd : Path, cwd = ⟨1, ["p"]⟩ := ⟨_, rfl⟩
  obtain ⟨roots, hRoots⟩ : ∃ roots : Roots, roots = ⟨⟨0, []⟩, some ⟨0, [".."]⟩, ⟨1, ["h"]⟩⟩ :=
    ⟨_, rfl⟩
  obtain ⟨tiers, hAll⟩ : ∃ tiers : List (Path × Tier), tiers =
      [(⟨1, ["p", ".attractor", "workflows"]⟩, .project),
        (⟨1, [".attractor", "workflows"]⟩, .repository),
        (⟨1, ["h", ".attractor", "workflows"]⟩, .global)] := ⟨_, rfl⟩
  have hTiers : tree.tiers cwd roots = .ok tiers := by
    rw [hTree, hCwd, hRoots, hAll, hText]
    decide +kernel
  have hSurveyed : tree.surveyed cwd tiers =
      [(⟨1, ["p", ".attractor", "workflows"]⟩, .project),
        (⟨1, ["h", ".attractor", "workflows"]⟩, .global)] := by
    rw [hTree, hCwd, hAll, hText]
    decide +kernel
  obtain ⟨-, hCatalog⟩ := catalog_accounts tree cwd roots
  obtain ⟨-, -, catalog, hIsOf, hSame, hResolves⟩ := hCatalog tiers hTiers
  have hBare : isBareRef "b" := by
    simp [isBareRef]
    decide
  refine ⟨tree, cwd, roots, tiers, hTiers, ?_, ?_, catalog, hSame tree ⟨.refl _, rfl⟩, hIsOf, ?_, ?_,
    hResolves "b" hBare⟩
  · rw [hAll]
    rfl
  · rw [hSurveyed]
    rfl
  · rw [hIsOf.find?_eq, hSurveyed, hTree, hCwd, hText]
    decide +kernel
  · rw [hIsOf.find?_eq, hSurveyed, hTree, hCwd, hText]
    decide +kernel

/-- A tier that cannot be surveyed gives neither entries nor warnings. -/
theorem catalog_of_not_surveyed (hTiers : tree.tiers cwd roots = .ok [tier])
    (h : ¬ tree.isSurveyed cwd tier.1) : tree.catalog cwd roots = .ok ⟨[], []⟩ := by
  have hNone : tree.surveyed cwd [tier] = [] := List.filter_cons_of_neg h
  rw [catalog_of_tiers hTiers, ← Catalog.ofScan_surveyed, hNone]
  exact congrArg (fun entries => Except.ok (Catalog.mk entries [])) List.mergeSort_nil

/-- A link into a directory that may not be searched takes the workflow beside it from the catalog.
Nothing tells of it. -/
theorem exists_files_unaccounted :
    ∃ (tree : FileTree) (cwd : Path) (roots : Roots) (tier : Path × Tier),
      tree.tiers cwd roots = .ok [tier] ∧
      (tree.offer? cwd tier "a").isSome ∧
      tree.isFile cwd (tier.1.child ("b" ++ workflowSuffix)) =
        .error ⟨.denied, tier.1.child ("b" ++ workflowSuffix)⟩ ∧
      tree.catalog cwd roots = .ok ⟨[], []⟩ := by
  obtain ⟨text, hText⟩ : ∃ text : String, text = "workflow w\x7bstart s;stage s kind=exit\x7d" :=
    ⟨_, rfl⟩
  obtain ⟨tree, hTree⟩ : ∃ tree : FileTree, tree =
      { entries := Table.ofList
          [([".attractor"], .directory), ([".attractor", "workflows"], .directory),
            ([".attractor", "workflows", "a" ++ workflowSuffix], .file (bytesOfText text)),
            ([".attractor", "workflows", "b" ++ workflowSuffix], .link "/d/b"),
            (["d"], .directory), (["d", "b"], .file (bytesOfText text))]
        rights := Table.ofList [(["d"], { search := false })] } := ⟨_, rfl⟩
  obtain ⟨tier, hTier⟩ : ∃ tier : Path × Tier,
      tier = (⟨1, [".attractor", "workflows"]⟩, .project) := ⟨_, rfl⟩
  obtain ⟨cwd, hCwd⟩ : ∃ cwd : Path, cwd = ⟨1, []⟩ := ⟨_, rfl⟩
  obtain ⟨roots, hRoots⟩ : ∃ roots : Roots, roots = ⟨⟨1, []⟩, none, ⟨1, []⟩⟩ := ⟨_, rfl⟩
  have hTiers : tree.tiers cwd roots = .ok [tier] := by
    rw [hTree, hText, hTier, hCwd, hRoots]
    decide +kernel
  have hLost : ¬ tree.isSurveyed cwd tier.1 := by
    rw [hTree, hText, hTier, hCwd]
    decide +kernel
  refine ⟨tree, cwd, roots, tier, hTiers, ?_, ?_, catalog_of_not_surveyed hTiers hLost⟩
  · rw [hTree, hText, hTier, hCwd]
    decide +kernel
  · rw [hTree, hText, hTier, hCwd]
    decide +kernel

end FileTree

end Workflow
