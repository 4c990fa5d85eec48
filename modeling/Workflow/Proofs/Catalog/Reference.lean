import Workflow.Proofs.Catalog.Resolve
import Workflow.Proofs.Text.Cut

/-!
# Stems as references

The stem of a catalog entry is looked up in the catalog only if it is a bare reference, and then it
leads back to the entry. A stem with an extension or a backslash is taken for a path from the
project. It means what is there, and that is the file of the entry only if a link leads to it.
-/

namespace Workflow

open Workflow.Text

namespace Path

variable {text : String}

theorem parse_of_single (hSlash : '/' ∉ text.toList) (hText : text ≠ "" ∧ text ≠ ".") :
    parse text = ⟨0, [text]⟩ := by
  have hNone : leadingSlashes text.toList = 0 := by
    cases hChars : text.toList with
    | nil => rfl
    | cons c cs =>
      have hFirst : c ≠ '/' := fun h => hSlash (by rw [hChars, h]; exact List.mem_cons_self)
      simp [leadingSlashes, hFirst]
  have hPieces : pieces "/" text = [text] := by
    have hSlash : ¬ "/".toList <:+: text.toList := mt singleton_infix_iff.mp hSlash
    rw [pieces, piecesFrom_of_not_infix (by decide) hSlash, List.map_singleton,
      String.ofList_toList]
  simp [parse, hNone, hPieces, hText]

end Path

/-- A text that is no bare reference has something beside points. -/
theorem ne_points_of_not_isBareRef {ref : String} (h : ¬ isBareRef ref) :
    (ref ≠ "" ∧ ref ≠ ".") ∧ ref ≠ ".." := by
  have hBare : ∀ ref ∈ ["", ".", ".."], isBareRef ref := by
    simp [isBareRef]
    decide
  refine ⟨⟨?_, ?_⟩, ?_⟩ <;> rintro rfl <;> exact h (hBare _ (by decide))

theorem append_workflowSuffix_ne (stem : String) : stem ++ workflowSuffix ≠ stem := by
  intro h
  have hLength := congrArg String.length h
  rw [String.length_append] at hLength
  have hSuffix : workflowSuffix.length = 8 := by decide
  omega

namespace FileTree

variable {tree : FileTree} {cwd : Path} {roots : Roots} {ref : String} {r : Resolution}

theorem resolve_explicit_eq_ok_iff (hBare : ¬ isBareRef ref) :
    tree.resolve cwd roots ref = .ok r ↔
      ∃ path, tree.realPath cwd (roots.project.join (.parse ref)) = .ok path ∧
        tree.isPresent cwd path = .ok true ∧ r = ⟨path, []⟩ := by
  rw [resolve, if_neg hBare, resolvePath]
  simp only [Except.bind_eq_ok_iff, Except.mapError_eq_ok_iff]
  refine exists_congr fun path => and_congr_right fun _ => ?_
  constructor
  · rintro ⟨present, hPresent, h⟩
    cases present with
    | true => exact ⟨hPresent, (Except.ok.inj h).symm⟩
    | false => cases h
  · rintro ⟨hPresent, rfl⟩
    exact ⟨true, hPresent, rfl⟩

end FileTree

namespace Catalog

variable {tree : FileTree} {cwd : Path} {tiers : List (Path × Tier)} {entry : CatalogEntry}

/-- An entry is found by its stem, and the stem with the suffix is the name of its file. -/
theorem find?_and_name_of_mem (hNodup : (tiers.map Prod.fst).Nodup)
    (hMem : entry ∈ (ofScan (tree.scan cwd tiers)).entries) :
    (ofScan (tree.scan cwd tiers)).find? entry.stem = some entry ∧
      entry.path.name = entry.stem ++ workflowSuffix := by
  have hAccounts := accounts_scan tree cwd hNodup
  rw [ofScan] at hMem ⊢
  have hFirst := hAccounts.mem_entries_iff.mp hMem
  refine ⟨(congrFun hAccounts.find?_catalog _).trans hFirst, ?_⟩
  obtain ⟨file, hFile, hEntry⟩ := List.mem_filterMap.mp (List.mem_of_find?_eq_some hFirst)
  obtain ⟨definition, -, rfl⟩ := Candidate.entry?_eq_some_iff.mp hEntry
  rw [FileTree.scan, ← List.flatMap_def, List.mem_flatMap] at hFile
  obtain ⟨tier, -, hFile⟩ := hFile
  obtain ⟨name, hName, rfl⟩ := List.mem_map.mp hFile
  obtain ⟨stem, rfl⟩ := isWorkflowName_iff.mp (FileTree.isWorkflowName_of_mem hName)
  rw [Candidate.entry_of]
  exact Path.name_child tier.1 (stem ++ workflowSuffix)

end Catalog

namespace FileTree

variable {tree : FileTree} {cwd : Path} {roots : Roots} {catalog : Catalog} {entry : CatalogEntry}

/-- A stem that is a bare reference leads back to its entry. Any other stem is a path from the
project. It leads to what is there, and to the entry only if there is a link somewhere. -/
theorem resolve_stem_of_mem_entries (h : tree.catalog cwd roots = .ok catalog)
    (hMem : entry ∈ catalog.entries) :
    (isBareRef entry.stem →
      tree.resolve cwd roots entry.stem = .ok ⟨entry.path, catalog.warnings⟩) ∧
    (¬ isBareRef entry.stem →
      (∀ r, tree.resolve cwd roots entry.stem = .ok r ↔
        ∃ path, tree.realPath cwd (roots.project.join (.parse entry.stem)) = .ok path ∧
          tree.isPresent cwd path = .ok true ∧ r = ⟨path, []⟩) ∧
      -- no name of a file has a slash
      ('/' ∉ entry.stem.toList → (∀ place target, tree.entry? place ≠ some (.link target)) →
        ∀ r, tree.resolve cwd roots entry.stem = .ok r → r.path ≠ entry.path)) := by
  obtain ⟨tiers, hTiers, rfl⟩ := Except.map_eq_ok_iff.mp h
  obtain ⟨hFind, hName⟩ := Catalog.find?_and_name_of_mem (nodup_map_fst_tiers hTiers) hMem
  refine ⟨fun hBare => Catalog.resolve_of_found hTiers hBare hFind, fun hBare =>
    ⟨fun r => resolve_explicit_eq_ok_iff hBare, fun hSlash hNone r hResolve hEq => ?_⟩⟩
  obtain ⟨hText, hParent⟩ := ne_points_of_not_isBareRef hBare
  have hStem : entry.stem ∉ ["", ".", ".."] := by simp [hText, hParent]
  have hParts : (roots.project.join (.parse entry.stem)).parts =
      roots.project.parts ++ [entry.stem] := by
    rw [Path.parse_of_single hSlash hText]
    rfl
  obtain ⟨path, hReal, -, rfl⟩ := (resolve_explicit_eq_ok_iff hBare).mp hResolve
  have hPath : path.name = entry.stem := name_realPath hNone hStem hParts hReal
  exact append_workflowSuffix_ne entry.stem (hName ▸ hEq ▸ hPath)

/-- Of two workflow files one has a stem with an extension, and a directory lies at the path that
this stem spells. -/
theorem exists_stem_with_extension :
    ∃ (tree : FileTree) (cwd : Path) (roots : Roots) (catalog : Catalog)
      (plain pointed : CatalogEntry),
      tree.catalog cwd roots = .ok catalog ∧
      (plain ∈ catalog.entries ∧ plain.stem = "a") ∧
      (pointed ∈ catalog.entries ∧ pointed.stem = "a.b") ∧
      (∀ place target, tree.entry? place ≠ some (.link target)) ∧
      tree.realPath cwd (roots.project.join (.parse "a.b")) = .ok ⟨1, ["a.b"]⟩ ∧
      tree.isPresent cwd ⟨1, ["a.b"]⟩ = .ok true := by
  obtain ⟨text, hText⟩ : ∃ text : String, text = "workflow w\x7bstart s;stage s kind=exit\x7d" :=
    ⟨_, rfl⟩
  obtain ⟨tree, hTree⟩ : ∃ tree : FileTree, tree =
      { entries := Table.ofList
          [([".attractor"], .directory), ([".attractor", "workflows"], .directory),
            ([".attractor", "workflows", "a" ++ workflowSuffix], .file (bytesOfText text)),
            ([".attractor", "workflows", "a.b" ++ workflowSuffix], .file (bytesOfText text)),
            (["a.b"], .directory)] } := ⟨_, rfl⟩
  obtain ⟨cwd, hCwd⟩ : ∃ cwd : Path, cwd = ⟨1, []⟩ := ⟨_, rfl⟩
  obtain ⟨roots, hRoots⟩ : ∃ roots : Roots, roots = ⟨⟨0, []⟩, none, ⟨1, []⟩⟩ := ⟨_, rfl⟩
  obtain ⟨tier, hTier⟩ : ∃ tier : Path × Tier,
      tier = (⟨1, [".attractor", "workflows"]⟩, .project) := ⟨_, rfl⟩
  have hTiers : tree.tiers cwd roots = .ok [tier] := by
    rw [hTree, hText, hCwd, hRoots, hTier]
    decide +kernel
  have hSurveyed : tree.surveyed cwd [tier] = [tier] := by
    rw [hTree, hText, hCwd, hTier]
    decide +kernel
  have hIsOf : (Catalog.ofScan (tree.scan cwd [tier])).IsOf tree cwd (tree.surveyed cwd [tier]) :=
    Catalog.isOf_ofScan (nodup_map_fst_tiers hTiers) fun _ => isAbsolute_of_mem_tiers hTiers
  have hEntry : ∀ stem ∈ ["a", "a.b"],
      ∃ entry ∈ (Catalog.ofScan (tree.scan cwd [tier])).entries, entry.stem = stem := by
    intro stem hStem
    have hOffer : (tree.offer? cwd tier stem).isSome := by
      rw [hTree, hText, hCwd, hTier]
      revert stem
      decide +kernel
    obtain ⟨entry, hEntry⟩ := Option.isSome_iff_exists.mp hOffer
    have hFind := hIsOf.find?_eq stem
    rw [hSurveyed, List.findSome?_singleton, hEntry] at hFind
    exact ⟨entry, List.mem_of_find?_eq_some hFind, stem_of_offer? hEntry⟩
  obtain ⟨plain, hPlain⟩ := hEntry "a" (by simp)
  obtain ⟨pointed, hPointed⟩ := hEntry "a.b" (by simp)
  refine ⟨tree, cwd, roots, _, plain, pointed, catalog_of_tiers hTiers, hPlain, hPointed,
    fun place target => entry?_ne_link ?_, ?_, ?_⟩
  all_goals
    simp only [hTree, hText, hCwd, hRoots]
    decide +kernel

/-- A stem without an extension leads back to its entry, one with an extension elsewhere. -/
theorem resolve_stem_at_extension :
    ∃ (tree : FileTree) (cwd : Path) (roots : Roots) (catalog : Catalog)
      (plain pointed : CatalogEntry),
      tree.catalog cwd roots = .ok catalog ∧
      (plain ∈ catalog.entries ∧ plain.stem = "a" ∧ isBareRef plain.stem) ∧
      (pointed ∈ catalog.entries ∧ pointed.stem = "a.b" ∧ ¬ isBareRef pointed.stem) ∧
      tree.resolve cwd roots plain.stem = .ok ⟨plain.path, catalog.warnings⟩ ∧
      tree.resolve cwd roots pointed.stem = .ok ⟨⟨1, ["a.b"]⟩, []⟩ ∧
      ⟨1, ["a.b"]⟩ ≠ pointed.path := by
  obtain ⟨tree, cwd, roots, catalog, plain, pointed, hCatalog, ⟨hPlain, hPlainStem⟩,
    ⟨hPointed, hPointedStem⟩, hNone, hReal, hPresent⟩ := exists_stem_with_extension
  have hBare : isBareRef plain.stem := by
    rw [hPlainStem]
    simp [isBareRef]
    decide
  have hNotBare : ¬ isBareRef pointed.stem := by
    rw [hPointedStem]
    simp [isBareRef]
    decide
  have hSlash : '/' ∉ pointed.stem.toList := by
    rw [hPointedStem]
    decide
  obtain ⟨hResolve, hOther⟩ := (resolve_stem_of_mem_entries hCatalog hPointed).2 hNotBare
  have hFound : tree.resolve cwd roots pointed.stem = .ok ⟨⟨1, ["a.b"]⟩, []⟩ :=
    (hResolve _).mpr ⟨_, hPointedStem ▸ hReal, hPresent, rfl⟩
  exact ⟨tree, cwd, roots, catalog, plain, pointed, hCatalog, ⟨hPlain, hPlainStem, hBare⟩,
    ⟨hPointed, hPointedStem, hNotBare⟩, (resolve_stem_of_mem_entries hCatalog hPlain).1 hBare,
    hFound, hOther hSlash hNone _ hFound⟩

/-- There is an entry to which its stem does not lead back. -/
theorem exists_entry_missed_by_stem :
    ∃ (tree : FileTree) (cwd : Path) (roots : Roots) (catalog : Catalog) (entry : CatalogEntry),
      tree.catalog cwd roots = .ok catalog ∧ entry ∈ catalog.entries ∧ entry.stem = "a.b" ∧
      entry.path ≠ ⟨1, ["a.b"]⟩ ∧ tree.resolve cwd roots "a.b" = .ok ⟨⟨1, ["a.b"]⟩, []⟩ := by
  obtain ⟨tree, cwd, roots, catalog, -, pointed, hCatalog, -, ⟨hPointed, hStem⟩, -, hReal,
    hPresent⟩ := exists_stem_with_extension
  have hNotBare : ¬ isBareRef "a.b" := by
    simp [isBareRef]
    decide
  obtain ⟨tiers, hTiers, rfl⟩ := Except.map_eq_ok_iff.mp hCatalog
  obtain ⟨-, hName⟩ := Catalog.find?_and_name_of_mem (nodup_map_fst_tiers hTiers) hPointed
  refine ⟨tree, cwd, roots, _, pointed, hCatalog, hPointed, hStem, fun hEq => ?_,
    (resolve_explicit_eq_ok_iff hNotBare).mpr ⟨_, hReal, hPresent, rfl⟩⟩
  rw [hEq, hStem] at hName
  revert hName
  decide

end FileTree

end Workflow
