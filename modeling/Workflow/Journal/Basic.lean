import Workflow.Files.Text
import Workflow.Journal.Level

/-!
# The journal

Parts of the program note what they do. A journal that has a file writes there what is noted by
the program at its threshold or above, one line a note, and adds to what the file held before.
-/

namespace Workflow

structure Note where
  source : String
  level : Int
  text : String
  deriving DecidableEq, Repr

namespace Note

/-- The source under which all parts of the program note. -/
def program : String := "attractor"

def isOwn (note : Note) : Bool :=
  note.source == program || (program ++ ".").toList.isPrefixOf note.source.toList

def line (note : Note) : String :=
  note.source ++ " | " ++ LogLevel.label note.level ++ " | " ++ note.text ++ "\n"

end Note

structure Journal where
  threshold : Int := 0
  file : Option Location := none
  deriving DecidableEq, Repr

namespace Journal

/-- The least level that is noted. Without a threshold only warnings are. -/
def least (journal : Journal) : Int :=
  if journal.threshold = 0 then LogLevel.warning.number else journal.threshold

def admits (journal : Journal) (note : Note) : Bool :=
  note.isOwn && decide (0 < note.level) && decide (journal.least ≤ note.level)

def add (journal : Journal) (tree : FileTree) (note : Note) : FileTree :=
  match journal.file with
  | some place => if journal.admits note then tree.append place (bytesOfText note.line) else tree
  | none => tree

def addAll (journal : Journal) (tree : FileTree) (notes : List Note) : FileTree :=
  notes.foldl journal.add tree

end Journal

/-- Opens a file for a journal. It is made if it is not there, and the directories above it. -/
def FileTree.openLog (tree : FileTree) (cwd path : Path) :
    Except FileError (FileTree × Location) := do
  let tree ← tree.makeDirectories cwd path.parent
  let place ← tree.target cwd (Path.resolve cwd path)
  .ok (tree.append place [], place)

end Workflow
