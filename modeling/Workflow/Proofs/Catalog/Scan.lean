import Mathlib.Data.List.Perm.Basic
import Mathlib.Data.List.Nodup
import Workflow.Proofs.Files.Real
import Workflow.Catalog.Discover

/-!
# The workflow files of a tier

A name of a workflow file is a stem with the workflow suffix behind it. As long as a directory may
be read and it can be told of each name in it whether it is that of a file, the scan of the directory
gives every file with such a name once; otherwise it gives none at all. It never depends on the order
in which the directory lists its names.
-/

namespace Workflow

variable {name stem stem' : String}

theorem isWorkflowName_iff : isWorkflowName name ↔ ∃ stem, name = stem ++ workflowSuffix := by
  rw [isWorkflowName, List.isSuffixOf_iff_suffix]
  constructor
  · rintro ⟨stem, h⟩
    exact ⟨String.ofList stem, String.toList_injective (by simp [← h])⟩
  · rintro ⟨stem, rfl⟩
    exact ⟨stem.toList, by rw [String.toList_append]⟩

theorem isWorkflowName_append (stem : String) : isWorkflowName (stem ++ workflowSuffix) :=
  isWorkflowName_iff.mpr ⟨stem, rfl⟩

theorem workflowStem_append (stem : String) : workflowStem (stem ++ workflowSuffix) = stem := by
  rw [workflowStem, if_pos (isWorkflowName_append stem), String.toList_append,
    List.length_append, Nat.add_sub_cancel, List.take_left, String.ofList_toList]

/-- The name of a workflow file is followed as a name. -/
theorem notMem_of_isWorkflowName (h : isWorkflowName name) : name ∉ ["", ".", ".."] := by
  have hNone : ∀ name ∈ ["", ".", ".."], isWorkflowName name = false := by decide
  exact fun hMem => absurd (h.symm.trans (hNone name hMem)) nofun

namespace FileTree

variable {tree tree' : FileTree} {cwd directory : Path} {place : Location} {names : List String}
  {roots : Roots} {tiers : List (Path × Tier)}

section Tiers

theorem exists_directories_of_tiers (h : tree.tiers cwd roots = .ok tiers) :
    ∃ directories, (roots.all.map Prod.fst).mapM (tree.workflowsOf cwd) = .ok directories ∧
      tiers.map Prod.fst = directories.eraseDups := by
  obtain ⟨found, hFound, h⟩ := Except.bind_eq_ok_iff.mp h
  refine ⟨found.map Prod.fst, ?_, ?_⟩
  · rw [Except.mapM_eq_ok_iff_forall₂, List.forall₂_map_left_iff, List.forall₂_map_right_iff]
    refine (Except.mapM_eq_ok_iff_forall₂.mp hFound).imp fun root tier hTier => ?_
    obtain ⟨directory, hDirectory, rfl⟩ := Except.map_eq_ok_iff.mp hTier
    exact hDirectory
  · rw [← Except.ok.inj h]
    exact Table.keys_foldl_insertNew found

theorem isAbsolute_of_mem_tiers (h : tree.tiers cwd roots = .ok tiers) {tier : Path × Tier}
    (hTier : tier ∈ tiers) : tier.1.isAbsolute := by
  obtain ⟨directories, hAll, hTiers⟩ := exists_directories_of_tiers h
  have hMem : tier.1 ∈ directories.eraseDups := hTiers ▸ List.mem_map_of_mem hTier
  obtain ⟨root, -, hRoot⟩ :=
    Except.exists_of_mem_of_mapM_eq_ok hAll _ (List.mem_eraseDups.mp hMem)
  obtain ⟨real, hReal, hEq⟩ := Except.map_eq_ok_iff.mp hRoot
  have hAbs : real.isAbsolute := isAbsolute_realPath hReal
  exact hEq ▸ hAbs

theorem nodup_map_fst_tiers (h : tree.tiers cwd roots = .ok tiers) :
    (tiers.map Prod.fst).Nodup := by
  obtain ⟨found, -, h⟩ := Except.bind_eq_ok_iff.mp h
  rw [← Except.ok.inj h]
  exact Table.nodup _

end Tiers

/-- Whether a directory may be read and it can be told of each name of a workflow file in it whether
it is that of a file. A directory that is not there, or cannot be reached, has no names. -/
def isSurveyed (tree : FileTree) (cwd directory : Path) : Bool :=
  match tree.find cwd directory with
  | .ok (place, .directory) =>
    (tree.rightsAt place).read &&
      (tree.listed place).all fun name => (tree.hasFile cwd directory name).isOk
  | _ => true

theorem mem_listed_iff :
    name ∈ tree.listed place ↔
      isWorkflowName name ∧ ∃ entry, tree.entry? (place ++ [name]) = some entry := by
  rw [listed, List.mem_filter, and_comm, List.mem_map]
  refine and_congr_right fun _ => ?_
  constructor
  · rintro ⟨⟨_, entry⟩, hMem, rfl⟩
    exact ⟨entry, mem_children_iff.mp hMem⟩
  · rintro ⟨entry, hEntry⟩
    exact ⟨(name, entry), mem_children_iff.mpr hEntry, rfl⟩

theorem nodup_listed : (tree.listed place).Nodup := by
  have hKeys : (tree.children place).map Prod.fst =
      tree.entries.keys.filterMap (nameBelow? place) := by
    simp only [children, Table.keys, List.map_filterMap, List.filterMap_map, Option.map_map,
      Function.comp_def, Option.map_id']
  rw [listed, hKeys]
  refine List.Nodup.filter _ (tree.entries.nodup.filterMap fun other other' name hName hName' => ?_)
  rw [nameBelow?_eq_some_iff.mp hName, nameBelow?_eq_some_iff.mp hName']

theorem isFile_child_eq_true (hAbs : directory.isAbsolute) (hName : isWorkflowName name)
    (h : tree.isFile cwd (directory.child name) = .ok true) :
    ∃ place, tree.find cwd directory = .ok (place, .directory) ∧ name ∈ tree.listed place := by
  obtain ⟨_, bytes, hFind⟩ := isFile_eq_true_iff.mp h
  obtain ⟨place, hFound, entry, hEntry⟩ :=
    exists_entry?_of_find_child hAbs (notMem_of_isWorkflowName hName) hFind
  exact ⟨place, hFound, mem_listed_iff.mpr ⟨hName, entry, hEntry⟩⟩

theorem mem_sortNames_iff : name ∈ sortNames names ↔ name ∈ names :=
  List.mem_mergeSort

/-- The names in a directory are those that `filterM` leaves, and nothing where it fails. -/
theorem workflowNames_of_found (hFound : tree.find cwd directory = .ok (place, .directory))
    (hRead : (tree.rightsAt place).read) :
    tree.workflowNames cwd directory =
      (((tree.listed place).filterM (tree.hasFile cwd directory)).toOption.map sortNames).getD [] := by
  rw [workflowNames, hFound]
  simp only [hRead, Bool.not_true, Bool.false_eq_true, if_false]
  cases (tree.listed place).filterM (tree.hasFile cwd directory) <;> rfl

theorem workflowNames_of_not_found
    (h : ∀ place, tree.find cwd directory ≠ .ok (place, .directory)) :
    tree.workflowNames cwd directory = [] := by
  rw [workflowNames]
  split
  · next place hFound => exact absurd hFound (h place)
  · rfl

theorem isSurveyed_iff_of_found (hFound : tree.find cwd directory = .ok (place, .directory)) :
    tree.isSurveyed cwd directory ↔ (tree.rightsAt place).read ∧
      ∀ name ∈ tree.listed place, ∃ b, tree.hasFile cwd directory name = .ok b := by
  have hOk (x : Except FileError Bool) : x.isOk ↔ ∃ b, x = .ok b := by
    cases x <;> simp [Except.isOk, Except.toBool]
  rw [isSurveyed, hFound]
  simp only [Bool.and_eq_true, List.all_eq_true, hOk]

theorem isSurveyed_of_not_found (h : ∀ place, tree.find cwd directory ≠ .ok (place, .directory)) :
    tree.isSurveyed cwd directory := by
  rw [isSurveyed]
  split
  · next place hFound => exact absurd hFound (h place)
  · rfl

/-- The scan of a directory that can be surveyed gives the names of all workflow files in it. -/
theorem mem_workflowNames_iff (hAbs : directory.isAbsolute)
    (hSurveyed : tree.isSurveyed cwd directory) :
    name ∈ tree.workflowNames cwd directory ↔
      isWorkflowName name ∧ tree.hasFile cwd directory name = .ok true := by
  by_cases hFound : ∃ place, tree.find cwd directory = .ok (place, .directory)
  · obtain ⟨place, hFound⟩ := hFound
    obtain ⟨hRead, hTold⟩ := (isSurveyed_iff_of_found hFound).mp hSurveyed
    have hFiles : (tree.listed place).filterM (tree.hasFile cwd directory) =
        .ok ((tree.listed place).filter fun name => tree.hasFile cwd directory name = .ok true) := by
      refine Except.filterM_eq_ok_iff.mpr ⟨_, fun name hMem => ?_, rfl⟩
      obtain ⟨b, hb⟩ := hTold name hMem
      cases b <;> simp [hb]
    rw [workflowNames_of_found hFound hRead, hFiles]
    simp only [Except.toOption, Option.map_some, Option.getD_some]
    rw [mem_sortNames_iff, List.mem_filter, decide_eq_true_eq]
    refine and_congr_left fun hFile => ⟨fun hMem => (mem_listed_iff.mp hMem).1, fun hName => ?_⟩
    obtain ⟨place', hFound', hMem⟩ := isFile_child_eq_true hAbs hName hFile
    cases hFound.symm.trans hFound'
    exact hMem
  · rw [workflowNames_of_not_found (not_exists.mp hFound)]
    refine iff_of_false List.not_mem_nil fun hFile => hFound ?_
    obtain ⟨place, hPlace, -⟩ := isFile_child_eq_true hAbs hFile.1 hFile.2
    exact ⟨place, hPlace⟩

/-- A directory that cannot be surveyed gives no names, whatever files are in it. -/
theorem workflowNames_of_not_surveyed (h : ¬ tree.isSurveyed cwd directory) :
    tree.workflowNames cwd directory = [] := by
  by_cases hFound : ∃ place, tree.find cwd directory = .ok (place, .directory)
  · obtain ⟨place, hFound⟩ := hFound
    rw [isSurveyed_iff_of_found hFound] at h
    cases hRead : (tree.rightsAt place).read with
    | false =>
      rw [workflowNames, hFound]
      simp [hRead]
    | true =>
      rw [workflowNames_of_found hFound hRead]
      cases hFiles : (tree.listed place).filterM (tree.hasFile cwd directory) with
      | error e => rfl
      | ok files =>
        obtain ⟨q, hAll, -⟩ := Except.filterM_eq_ok_iff.mp hFiles
        exact absurd ⟨hRead, fun name hMem => ⟨q name, hAll name hMem⟩⟩ h
  · exact workflowNames_of_not_found (not_exists.mp hFound)

/-- A directory that may be read and searched, and in which the workflow files are no links and keep
the limits of the system. -/
structure IsPlain (tree : FileTree) (directory : Path) (place : Location) : Prop where
  read : (tree.rightsAt place).read
  search : (tree.rightsAt place).search
  within : ∀ name ∈ tree.listed place, name.toList.contains '\x00' = false ∧
    name.utf8ByteSize ≤ nameLimit ∧ (directory.child name).text.utf8ByteSize ≤ pathLimit
  noLink : ∀ name ∈ tree.listed place, ∀ target, tree.entry? (place ++ [name]) ≠ some (.link target)

theorem IsPlain.isSurveyed (h : tree.IsPlain directory place) (hAbs : directory.isAbsolute)
    (hFound : tree.find cwd directory = .ok (place, .directory)) :
    tree.isSurveyed cwd directory := by
  rw [isSurveyed_iff_of_found hFound]
  refine ⟨h.read, fun name hMem => ?_⟩
  obtain ⟨hName, entry, hEntry⟩ := mem_listed_iff.mp hMem
  obtain ⟨hNull, hShort, hLength⟩ := h.within name hMem
  have hPlain : ∀ target, entry ≠ .link target :=
    fun target hLink => h.noLink name hMem target (hLink ▸ hEntry)
  have hFind := find_child_eq_ok hAbs (notMem_of_isWorkflowName hName) hFound h.search hNull hShort
    hLength hEntry hPlain
  exact ⟨entry.isFile, by rw [hasFile, isFile, test, hFind]⟩

theorem not_isSurveyed_of_fault {e : FileError}
    (hFound : tree.find cwd directory = .ok (place, .directory)) (hMem : name ∈ tree.listed place)
    (hFault : tree.hasFile cwd directory name = .error e) : ¬ tree.isSurveyed cwd directory := by
  rw [isSurveyed_iff_of_found hFound]
  rintro ⟨-, hTold⟩
  obtain ⟨b, hb⟩ := hTold name hMem
  cases hFault.symm.trans hb

/-- One workflow file with a path that is too long keeps its directory from being surveyed. -/
theorem not_isSurveyed_of_tooLong (hFound : tree.find cwd directory = .ok (place, .directory))
    (hMem : name ∈ tree.listed place) (hNull : (directory.child name).hasNull = false)
    (hLong : pathLimit < (directory.child name).text.utf8ByteSize) :
    ¬ tree.isSurveyed cwd directory := by
  have hFind : tree.find cwd (directory.child name) = .error .nameTooLong := by
    rw [find, locate, hNull, if_neg Bool.false_ne_true, if_pos hLong]
    rfl
  have hFault : tree.hasFile cwd directory name = .error ⟨.nameTooLong, directory.child name⟩ := by
    rw [hasFile, isFile, test, hFind]
  exact not_isSurveyed_of_fault hFound hMem hFault

/-- A scan gives nothing or some of the listed names, in order. -/
theorem workflowNames_cases (tree : FileTree) (cwd directory : Path) :
    tree.workflowNames cwd directory = [] ∨
      ∃ place q, tree.workflowNames cwd directory = sortNames ((tree.listed place).filter q) := by
  rw [workflowNames]
  split
  · next place _ =>
    split
    · exact Or.inl rfl
    · split
      · next files hFiles =>
        obtain ⟨q, -, rfl⟩ := Except.filterM_eq_ok_iff.mp hFiles
        exact Or.inr ⟨place, q, rfl⟩
      · exact Or.inl rfl
  · exact Or.inl rfl

theorem nodup_workflowNames : (tree.workflowNames cwd directory).Nodup := by
  obtain hNone | ⟨place, q, hNames⟩ := workflowNames_cases tree cwd directory
  · rw [hNone]
    exact List.nodup_nil
  · rw [hNames]
    exact (List.mergeSort_perm _ _).nodup_iff.mpr (nodup_listed.filter q)

theorem isWorkflowName_of_mem (h : name ∈ tree.workflowNames cwd directory) :
    isWorkflowName name := by
  obtain hNone | ⟨place, q, hNames⟩ := workflowNames_cases tree cwd directory
  · rw [hNone] at h
    cases h
  · rw [hNames] at h
    exact (mem_listed_iff.mp (List.mem_of_mem_filter (mem_sortNames_iff.mp h))).1

theorem sortNames_congr {names' : List String} (h : names.Perm names') :
    sortNames names = sortNames names' := by
  have hSorted (names : List String) : (sortNames names).Pairwise (· ≤ ·) :=
    (List.pairwise_mergeSort (by simpa using fun _ _ _ => String.le_trans)
      (by simpa using String.le_total) names).imp of_decide_eq_true
  refine List.Perm.eq_of_pairwise (fun _ _ _ _ => String.le_antisymm) (hSorted names)
    (hSorted names') ?_
  exact (List.mergeSort_perm names _).trans (h.trans (List.mergeSort_perm names' _).symm)

/-- The scan of a directory does not depend on the order in which the directory lists its names. -/
theorem SameEntries.workflowNames_eq (h : tree.SameEntries tree') :
    tree.workflowNames cwd directory = tree'.workflowNames cwd directory := by
  have hListed (place : Location) : (tree.listed place).Perm (tree'.listed place) :=
    (h.children_perm.map Prod.fst).filter _
  have hTest : tree.hasFile = tree'.hasFile := by
    funext cwd directory name
    rw [hasFile, hasFile, h.isFile_eq]
  rw [workflowNames, workflowNames, h.find_eq, h.rightsAt_eq, hTest]
  split
  · next place hFound =>
    split
    · rfl
    · cases hFiles : (tree.listed place).filterM (tree'.hasFile cwd directory) with
      | ok files =>
        obtain ⟨files', hFiles', hPerm⟩ := Except.exists_filterM_of_perm (hListed place) hFiles
        rw [hFiles']
        exact sortNames_congr hPerm
      | error e =>
        cases hFiles' : (tree'.listed place).filterM (tree'.hasFile cwd directory) with
        | ok files =>
          obtain ⟨_, hOk, -⟩ := Except.exists_filterM_of_perm (hListed place).symm hFiles'
          exact absurd (hFiles.symm.trans hOk) nofun
        | error e' => rfl
  · rfl

theorem SameEntries.readDefinition_eq (h : tree.SameEntries tree') :
    tree.readDefinition = tree'.readDefinition := by
  funext cwd path
  rw [readDefinition, readDefinition, readText, readText, h.readBytes_eq]

theorem SameEntries.scan_eq (h : tree.SameEntries tree') : tree.scan = tree'.scan := by
  funext cwd tiers
  refine List.map_congr_left fun tier _ => ?_
  rw [candidates, candidates, h.workflowNames_eq, h.readDefinition_eq]

theorem SameEntries.tiers_eq (h : tree.SameEntries tree') : tree.tiers = tree'.tiers := by
  have hWorkflows : tree.workflowsOf = tree'.workflowsOf := by
    funext cwd root
    rw [workflowsOf, workflowsOf, h.realPath_eq]
  funext cwd roots
  rw [tiers, tiers, hWorkflows]

/-- The catalog does not depend on the order in which directories list their names. -/
theorem SameEntries.catalog_eq (h : tree.SameEntries tree') : tree.catalog = tree'.catalog := by
  funext cwd roots
  rw [catalog, catalog, h.tiers_eq, h.scan_eq]

end FileTree

end Workflow
