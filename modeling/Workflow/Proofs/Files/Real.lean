import Workflow.Proofs.Files.Child

/-!
# Real paths

Every real path is absolute. In a file tree without links the last name of a path, unless it leads
upwards, is the last name of its real path as well.
-/

namespace Workflow

namespace Path

theorem name_resolve_child {cwd p : Path} {name : String} (h : name ≠ "..") :
    (resolve cwd (p.child name)).name = name := by
  have hJoin : (cwd.join (p.child name)).parts = (cwd.join p).parts ++ [name] := by
    by_cases hAbs : p.slashes = 0 <;> simp [join, isAbsolute, child, hAbs]
  have hParts : ".." ∉ [name] := fun hMem => h (List.mem_singleton.mp hMem).symm
  rw [Path.name, resolve, hJoin, resolveParts_append hParts, List.getLast?_concat]
  rfl

end Path

namespace FileTree

variable {tree : FileTree} {cwd path real : Path} {name : String} {names : List String}

/-- A real path is what remains of a path after its links, seen from the current directory. -/
theorem exists_opened_of_realPath (h : tree.realPath cwd path = .ok real) :
    ∃ found reached, tree.openLinks cwd depthLimit [] ⟨if path.isAbsolute then 1 else 0, []⟩
      path.parts = .ok (found, reached) ∧ real = Path.resolve cwd found := by
  unfold realPath at h
  split at h
  · cases h
  · dsimp only at h
    split at h
    · cases h
    · next found reached hOpened =>
      split at h
      · cases h
      · exact ⟨found, reached, hOpened, (Except.ok.inj h).symm⟩

theorem isAbsolute_realPath (h : tree.realPath cwd path = .ok real) : real.isAbsolute := by
  obtain ⟨found, -, -, rfl⟩ := exists_opened_of_realPath h
  have hSlashes : max 1 (cwd.join found).slashes ≠ 0 := by omega
  exact decide_eq_true hSlashes

theorem entry?_ne_link {place : Location} {target : String}
    (h : tree.entries.entries.all fun e => e.2.isFile || e.2.isDirectory) :
    tree.entry? place ≠ some (.link target) := by
  intro hLink
  unfold FileTree.entry? at hLink
  split at hLink
  · cases hLink
  · have hKind := List.all_eq_true.mp h _ (Table.get?_eq_some_iff.mp hLink)
    cases hKind

section NoLinks

variable (hNone : ∀ place target, tree.entry? place ≠ some (.link target))
include hNone

theorem linkAt?_eq_none : tree.linkAt? cwd path = none := by
  rw [linkAt?]
  split
  · rfl
  · split
    · next hLink => exact absurd hLink (hNone _ _)
    · rfl

/-- Without links the last name of a path stays the last name of its real path. -/
theorem exists_openNames_eq_child
    {onLink : List Path → Path → List String → Except FileFault (Path × Bool)} {pending : List Path}
    {here : Path} (hName : name ∉ ["", ".", ".."]) :
    ∃ above : Path, tree.openNames cwd onLink pending here (names ++ [name]) =
      .ok (above.child name, true) := by
  simp only [List.mem_cons, List.not_mem_nil, or_false, not_or] at hName
  have hLink (path : Path) : tree.linkAt? cwd path = none := linkAt?_eq_none hNone
  induction names generalizing here with
  | nil => exact ⟨here, by simp [openNames, hName, hLink]⟩
  | cons first names ih =>
    rw [List.cons_append, openNames]
    split_ifs
    · exact ih
    · exact ih
    · dsimp only
      rw [hLink]
      exact ih

theorem name_realPath (hName : name ∉ ["", ".", ".."]) (hPath : path.parts = names ++ [name])
    (h : tree.realPath cwd path = .ok real) : real.name = name := by
  obtain ⟨found, reached, hOpened, rfl⟩ := exists_opened_of_realPath h
  obtain ⟨above, hAbove⟩ : ∃ above : Path, tree.openLinks cwd depthLimit []
      ⟨if path.isAbsolute then 1 else 0, []⟩ (names ++ [name]) = .ok (above.child name, true) :=
    exists_openNames_eq_child hNone hName
  rw [hPath, hAbove] at hOpened
  cases hOpened
  have hParent : name ≠ ".." := fun hEq => hName (by simp [hEq])
  exact Path.name_resolve_child hParent

end NoLinks

example : realPath { entries := Table.ofList [(["a.b"], .link "c"), (["c"], .file [])] }
    ⟨1, []⟩ ⟨1, ["a.b"]⟩ = .ok ⟨1, ["c"]⟩ := by
  decide +kernel

end FileTree

end Workflow
