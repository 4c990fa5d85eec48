import Workflow.Files.Tree

/-!
# Real paths

The real path of a path is absolute and has neither links nor `..` in it. What is not there, or
cannot be reached, is taken for what it says. Links that lead back to themselves have no real path,
but they are told from others only when the path is followed.
-/

namespace Workflow

open Workflow.Text

/-- The path one directory above a path without links, which holds `..` at most at its front. -/
def Path.above (p : Path) : Path :=
  match p.isAbsolute, p.parts.getLast? with
  | false, none | false, some ".." => p.child ".."
  | _, _ => p.parent

namespace FileTree

def linkAt? (tree : FileTree) (cwd path : Path) : Option String :=
  match tree.locate false cwd path with
  | .error _ => none
  | .ok place =>
    match tree.entry? place with
    | some (.link target) => some target
    | _ => none

/-- Opens the links among names that follow the path `here`. `onLink` opens those among the names of
another link, and `pending` are the paths of the links that are just being opened. Gives the path
and whether it was reached; it is not when a link is met again, and then the names behind it stay
as they are. -/
def openNames (tree : FileTree) (cwd : Path)
    (onLink : List Path → Path → List String → Except FileFault (Path × Bool))
    (pending : List Path) (here : Path) : List String → Except FileFault (Path × Bool)
  | [] => .ok (here, true)
  | name :: names =>
    if name = "" ∨ name = "." then tree.openNames cwd onLink pending here names
    else if name = ".." then tree.openNames cwd onLink pending here.above names
    else
      let next := here.child name
      match tree.linkAt? cwd next with
      | none => tree.openNames cwd onLink pending next names
      | some target =>
        let rest := Path.parse ("/".intercalate names)
        if next ∈ pending then .ok (next.join rest, false)
        else
          let start := if isRooted target then ⟨1, []⟩ else here
          match onLink (next :: pending) start (pieces "/" target) with
          | .ok (reached, true) => tree.openNames cwd onLink pending reached names
          | .ok (reached, false) => .ok (reached.join rest, false)
          | .error fault => .error fault

/-- Opens links, not more than `room` within one another. -/
def openLinks (tree : FileTree) (cwd : Path) :
    Nat → List Path → Path → List String → Except FileFault (Path × Bool)
  | 0 => tree.openNames cwd fun _ _ _ => .error .tooDeep
  | room + 1 => tree.openNames cwd (tree.openLinks cwd room)

def realPath (tree : FileTree) (cwd path : Path) : Except FileError Path :=
  if path.hasNull then .error ⟨.nullCharacter, path⟩
  else
    let root : Path := ⟨if path.isAbsolute then 1 else 0, []⟩
    match tree.openLinks cwd depthLimit [] root path.parts with
    | .error fault => .error ⟨fault, path⟩
    | .ok (found, _) =>
      let real := Path.resolve cwd found
      match tree.locate true cwd real with
      | .error .tooManyLinks => .error ⟨.circular, real⟩
      | _ => .ok real

end FileTree

end Workflow
