import Workflow.Path.Windows
import Workflow.Text.Split

/-!
# Windows paths

A Windows path has parts behind its anchor. What it stands for in a directory depends on the anchor:
a root of its own leads out of the directory on the same drive, and another drive leads out of both.
-/

namespace Workflow

open Workflow.Path.Windows Workflow.Text

structure WindowsPath where
  anchor : Anchor
  parts : List String
  deriving DecidableEq, Repr

namespace WindowsPath

/-- What stands behind the drive of a text, with backslashes only. -/
def behindDrive (text : String) : List Char :=
  let cs := (splitExtended (unifySlashes text.toList)).2
  match share? cs with
  | some share => cs.drop share.length
  | none => cs.drop (letterDrive cs).drive.length

def parse (text : String) : WindowsPath :=
  { anchor := Path.Windows.anchor text
    parts := ((piecesFrom ['\\'] 0 (behindDrive text)).map String.ofList).filter fun part =>
      part ≠ "" ∧ part ≠ "." }

def IsUnanchored (p : WindowsPath) : Prop :=
  p.anchor.drive = [] ∧ p.anchor.rooted = false

/-- Drives are compared without regard to the case of letters. A share always comes with a root, so
the drives that are compared when paths are joined have ASCII letters only. -/
def sameDrive (drive other : List Char) : Bool :=
  drive.map Char.toLower == other.map Char.toLower

/-- The path `p` seen from `base`. -/
def join (base p : WindowsPath) : WindowsPath :=
  if p.anchor.rooted then
    if p.anchor.drive.isEmpty then { p with anchor := ⟨base.anchor.drive, true⟩ } else p
  else if p.anchor.drive.isEmpty || sameDrive p.anchor.drive base.anchor.drive then
    { base with parts := base.parts ++ p.parts }
  else p

theorem join_of_unanchored {p : WindowsPath} (h : p.IsUnanchored) (base : WindowsPath) :
    base.join p = { base with parts := base.parts ++ p.parts } := by
  simp [join, h.1, h.2]

theorem behindDrive_of_unanchored {text : String} (h : (parse text).IsUnanchored) :
    behindDrive text = unifySlashes text.toList := by
  obtain ⟨hDrive, hRooted⟩ : (Path.Windows.anchor text).drive = [] ∧
    (Path.Windows.anchor text).rooted = false := h
  -- the mark of an extended path would be part of its drive
  have hMark (cs : List Char) : (splitExtended cs).1 = [] → (splitExtended cs).2 = cs := by
    unfold splitExtended
    split
    · exact nofun
    · exact nofun
    · exact fun _ => rfl
  rw [Path.Windows.anchor] at hDrive hRooted
  rw [behindDrive]
  generalize unifySlashes text.toList = cs at hDrive hRooted ⊢
  cases hShare : share? (splitExtended cs).2 with
  | some share =>
    simp only [hShare] at hRooted
    cases hRooted
  | none =>
    simp only [hShare, List.append_eq_nil_iff] at hDrive
    simp only [hDrive.2, List.length_nil, List.drop_zero]
    exact hMark cs hDrive.1

end WindowsPath

end Workflow
