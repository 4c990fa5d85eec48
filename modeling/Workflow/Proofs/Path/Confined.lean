import Workflow.Path.Confined
import Workflow.Proofs.Definition.Linked
import Workflow.Proofs.Path.Windows
import Workflow.Proofs.Text.Cut

/-!
# Files of prompts below a directory

Under POSIX rules a confined path stays below every directory it is joined to, at each of its steps.
Under Windows rules it does so exactly if it has neither a drive nor a root, and a confined path may
have one of them.
-/

namespace Workflow

open Workflow.Text

namespace Path

/-- The separators of either system. -/
def isSlash (c : Char) : Bool :=
  c == '/' || c == '\\'

theorem isSlash_eq_true_iff {c : Char} : isSlash c = true ↔ c = '/' ∨ c = '\\' := by
  simp [isSlash]

theorem isSlash_eq_false_iff {c : Char} : isSlash c = false ↔ c ≠ '/' ∧ c ≠ '\\' := by
  simp [isSlash]

section Confined

variable {file : String}

theorem isConfined_iff : isConfined file = true ↔
    (parse file).isAbsolute = false ∧ Windows.isAbsolute file = false ∧
      "..".toList ∉ file.toList.splitOnP isSlash := by
  have hUnified : (replace "\\" "/" file).toList =
      file.toList.map fun c => if c = '\\' then '/' else c := by
    rw [replace, String.toList_ofList]
    exact replaceFrom_singleton '\\' '/' file.toList
  have hPieces : piecesFrom "/".toList 0 (replace "\\" "/" file).toList =
      file.toList.splitOnP isSlash := by
    rw [hUnified]
    refine piecesFrom_map (fun c hc => ?_) (fun c hc => ?_) _
    · obtain rfl | rfl := isSlash_eq_true_iff.mp hc <;> rfl
    · obtain ⟨hSlash, hBackslash⟩ := isSlash_eq_false_iff.mp hc
      exact ⟨if_neg hBackslash, hSlash⟩
  simp only [isConfined, Bool.and_eq_true, Bool.not_eq_true', List.contains_eq_mem,
    decide_eq_false_iff_not, mem_pieces_iff, hPieces, and_assoc]

theorem dots_notMem_parse (h : isConfined file = true) : ".." ∉ (parse file).parts := by
  intro hMem
  have hPiece := mem_pieces_iff.mp (List.mem_of_mem_filter hMem)
  have hSplit : piecesFrom "/".toList 0 file.toList = file.toList.splitOnP (· == '/') := by
    have hMap := piecesFrom_map (f := id) (p := (· == '/')) (x := '/') (by simp) (by simp)
      file.toList
    rwa [List.map_id] at hMap
  rw [hSplit] at hPiece
  refine (isConfined_iff.mp h).2.2 (mem_splitOnP_of_le ?_ hPiece ?_)
  · intro c hc
    exact isSlash_eq_true_iff.mpr (.inl (beq_iff_eq.mp hc))
  · simp [isSlash]

theorem dots_notMem_parse_windows (h : isConfined file = true)
    (hFile : (WindowsPath.parse file).IsUnanchored) : ".." ∉ (WindowsPath.parse file).parts := by
  intro hMem
  obtain ⟨cs, hCs, hDots⟩ := List.mem_map.mp (List.mem_of_mem_filter hMem)
  have hPiece : "..".toList = cs := by rw [← hDots, String.toList_ofList]
  rw [WindowsPath.behindDrive_of_unanchored hFile, Windows.unifySlashes,
    piecesFrom_map (p := isSlash) ?_ ?_, ← hPiece] at hCs
  · exact (isConfined_iff.mp h).2.2 hCs
  · intro c hc
    obtain rfl | rfl := isSlash_eq_true_iff.mp hc <;> rfl
  · intro c hc
    obtain ⟨hSlash, hBackslash⟩ := isSlash_eq_false_iff.mp hc
    exact ⟨if_neg hSlash, hBackslash⟩

end Confined

/-- The parts of a place are those of a directory or go on behind them, all `..` resolved. -/
def IsBelow (base parts : List String) : Prop :=
  resolveParts [] base <+: resolveParts [] parts

theorem isBelow_append {parts : List String} (h : ".." ∉ parts) (base : List String) :
    IsBelow base (base ++ parts) := by
  rw [IsBelow, resolveParts_append h]
  exact List.prefix_append _ _

/-- No step along a path leads out of the directory it is joined to. -/
def StaysIn (p base : Path) : Prop :=
  ∀ n, (base.join { p with parts := p.parts.take n }).slashes = base.slashes ∧
    IsBelow base.parts (base.join { p with parts := p.parts.take n }).parts

theorem staysIn_of_isConfined {file : String} (h : isConfined file = true) (base : Path) :
    (parse file).StaysIn base := by
  have hRelative := (isConfined_iff.mp h).1
  intro n
  have hJoin : base.join { parse file with parts := (parse file).parts.take n } =
      { base with parts := base.parts ++ (parse file).parts.take n } :=
    if_neg (Bool.eq_false_iff.mp hRelative)
  rw [hJoin]
  exact ⟨rfl, isBelow_append (fun hMem => dots_notMem_parse h (List.mem_of_mem_take hMem)) _⟩

end Path

namespace WindowsPath

def StaysIn (p base : WindowsPath) : Prop :=
  ∀ n, (base.join { p with parts := p.parts.take n }).anchor = base.anchor ∧
    Path.IsBelow base.parts (base.join { p with parts := p.parts.take n }).parts

/-- A path with an anchor leads out of some directory before its first step. -/
theorem exists_not_staysIn {p : WindowsPath} (h : ¬ p.IsUnanchored) : ∃ base, ¬ p.StaysIn base := by
  cases hRooted : p.anchor.rooted with
  | true =>
    -- the root of the same drive is above each directory on it
    refine ⟨⟨⟨p.anchor.drive, true⟩, ["dir"]⟩, fun hStays => ?_⟩
    have hBelow := (hStays 0).2
    simp [join, hRooted, Path.IsBelow, Path.resolveParts] at hBelow
    split at hBelow <;> simp [Path.resolveParts] at hBelow
  | false =>
    -- a base without a drive does not have the one that the path leads to
    have hDrive : p.anchor.drive ≠ [] := fun hDrive => h ⟨hDrive, hRooted⟩
    refine ⟨⟨⟨[], true⟩, []⟩, fun hStays => ?_⟩
    have hAnchor := (hStays 0).1
    simp [join, hRooted, hDrive, sameDrive] at hAnchor
    rw [hAnchor] at hRooted
    cases hRooted

theorem forall_staysIn_iff {file : String} (h : Path.isConfined file = true) :
    (∀ base, (parse file).StaysIn base) ↔ (parse file).IsUnanchored := by
  constructor
  · intro hAll
    by_contra hAnchored
    obtain ⟨base, hLeaves⟩ := exists_not_staysIn hAnchored
    exact hLeaves (hAll base)
  · intro hFile base n
    have hTaken : ({ parse file with parts := (parse file).parts.take n } :
      WindowsPath).IsUnanchored := hFile
    rw [join_of_unanchored hTaken]
    -- each step goes down, since `..` is no part of the path
    refine ⟨rfl, Path.isBelow_append (fun hMem => ?_) _⟩
    exact Path.dots_notMem_parse_windows h hFile (List.mem_of_mem_take hMem)

end WindowsPath

namespace Definition

variable {d : Definition} {stage : Stage} {file : String}

theorem IsAccepted.isConfined (h : d.IsAccepted) (hStage : stage ∈ d.stages)
    (hKind : stage.kind = .llm) (hFile : stage.promptFile? = some file)
    (hGiven : allBlank file = false) : Path.isConfined file = true := by
  by_contra hNot
  have hFound : Diagnostic.unconfinedFile stage.id ∈ stage.check d.models := by
    simp [Stage.check, Stage.checkKind, hKind, Stage.checkPrompts, hFile, Stage.hasText, hGiven,
      Bool.eq_false_iff.mpr hNot]
  cases h.check stage hStage _ hFound

/-- Each confined path is accepted as the file of a prompt. -/
theorem exists_isAccepted_of_isConfined (h : Path.isConfined file = true)
    (hGiven : allBlank file = false) :
    ∃ d : Definition, ∃ stage ∈ d.stages, d.IsAccepted ∧ stage.kind = .llm ∧
      stage.promptFile? = some file := by
  obtain ⟨stage, hStage⟩ : ∃ stage : Stage, stage =
      { id := "s", kind := .llm, attrs := Table.ofList [("prompt_file", .str file)] } := ⟨_, rfl⟩
  obtain ⟨d, hd⟩ : ∃ d : Definition, d =
      { name := "w", start := "s", stages := [stage, { id := "z", kind := .exit }],
        transitions := [⟨"s", "z", none, .none⟩] } := ⟨_, rfl⟩
  have hFile : stage.promptFile? = some file := by rw [hStage]; rfl
  have hPrompt : stage.prompt? = none := by rw [hStage]; rfl
  have hReachable : d.reachable = ["z", "s"] := by
    simp [hd, hStage, reachable, visit, leadsTo, stage?, targets, stageIds]
  have hCheck : stage.check none = [] := by
    have hKind : stage.checkKind = [] := by
      simp [Stage.checkKind, hStage ▸ hPrompt, Stage.checkPrompts, Stage.hasText, hStage ▸ hFile,
        hGiven, h, hStage]
    rw [Stage.check, hKind, hStage]
    rfl
  have hValidate : d.validate = [] := by
    rw [validate, checkReachable, hReachable, hd]
    simp [checkVersion, repeated, checkStart, stageIds, hStage]
    exact ⟨hStage ▸ hCheck, rfl, rfl, rfl, rfl⟩
  refine ⟨d, stage, ?_, isAccepted_of_validate_eq_nil hValidate, by rw [hStage], hFile⟩
  rw [hd]
  exact List.mem_cons_self

/-- The file of an accepted prompt stays below every directory under POSIX rules. Under Windows
rules it may have a drive or a root, and it stays below every directory exactly if it has none. -/
theorem prompt_file_staysIn (h : d.IsAccepted) (hStage : stage ∈ d.stages)
    (hKind : stage.kind = .llm) (hFile : stage.promptFile? = some file)
    (hGiven : allBlank file = false) :
    ((Path.parse file).isAbsolute = false ∧ ∀ base, (Path.parse file).StaysIn base) ∧
      ((WindowsPath.parse file).anchor.rooted = true →
        (WindowsPath.parse file).anchor.drive = []) ∧
      ((∀ base, (WindowsPath.parse file).StaysIn base) ↔
        (WindowsPath.parse file).IsUnanchored) := by
  have hConfined := h.isConfined hStage hKind hFile hGiven
  obtain ⟨hPosix, hWindows, -⟩ := Path.isConfined_iff.mp hConfined
  refine ⟨⟨hPosix, Path.staysIn_of_isConfined hConfined⟩, ?_,
    WindowsPath.forall_staysIn_iff hConfined⟩
  intro hRooted
  rw [Path.Windows.isAbsolute, show Path.Windows.anchor file = (WindowsPath.parse file).anchor from
    rfl, hRooted] at hWindows
  simpa using hWindows

/-- Separators of both systems, empty parts and points. -/
theorem prompt_file_staysIn_at_mixed_separators :
    ∃ d : Definition, ∃ stage ∈ d.stages, d.IsAccepted ∧ stage.kind = .llm ∧
      stage.promptFile? = some "./a\\..b//c" ∧ allBlank "./a\\..b//c" = false ∧
      Path.parse "./a\\..b//c" = ⟨0, ["a\\..b", "c"]⟩ ∧
      (∀ base, (Path.parse "./a\\..b//c").StaysIn base) ∧
      WindowsPath.parse "./a\\..b//c" = ⟨⟨[], false⟩, ["a", "..b", "c"]⟩ ∧
      ∀ base, (WindowsPath.parse "./a\\..b//c").StaysIn base := by
  have hGiven : allBlank "./a\\..b//c" = false := by decide +kernel
  obtain ⟨d, stage, hStage, hAccepted, hKind, hFile⟩ :=
    exists_isAccepted_of_isConfined (by decide +kernel) hGiven
  obtain ⟨⟨-, hPosix⟩, -, hWindows⟩ :=
    prompt_file_staysIn hAccepted hStage hKind hFile hGiven
  have hPlain : WindowsPath.parse "./a\\..b//c" = ⟨⟨[], false⟩, ["a", "..b", "c"]⟩ := by
    decide +kernel
  refine ⟨d, stage, hStage, hAccepted, hKind, hFile, hGiven, by decide +kernel, hPosix, hPlain,
    hWindows.mpr ?_⟩
  rw [hPlain]
  exact ⟨rfl, rfl⟩

/-- The file of an accepted prompt can have a drive and go upwards on it. -/
theorem exists_prompt_file_leaving :
    ∃ d : Definition, ∃ stage ∈ d.stages, d.IsAccepted ∧ stage.kind = .llm ∧
      stage.promptFile? = some "C:..\\secrets.md" ∧ allBlank "C:..\\secrets.md" = false ∧
      WindowsPath.parse "C:..\\secrets.md" = ⟨⟨['C', ':'], false⟩, ["..", "secrets.md"]⟩ ∧
      ¬ (WindowsPath.parse "C:..\\secrets.md").StaysIn ⟨⟨['C', ':'], true⟩, ["work"]⟩ := by
  have hGiven : allBlank "C:..\\secrets.md" = false := by decide +kernel
  obtain ⟨d, stage, hStage, hAccepted, hKind, hFile⟩ :=
    exists_isAccepted_of_isConfined (by decide +kernel) hGiven
  have hDrive : WindowsPath.parse "C:..\\secrets.md" =
      ⟨⟨['C', ':'], false⟩, ["..", "secrets.md"]⟩ := by
    decide +kernel
  refine ⟨d, stage, hStage, hAccepted, hKind, hFile, hGiven, hDrive, ?_⟩
  intro hStays
  have hBelow := (hStays 1).2
  rw [hDrive] at hBelow
  revert hBelow
  unfold Path.IsBelow
  decide +kernel

end Definition

end Workflow
