import Workflow.Files.Tree
import Workflow.Text.Lines
import Workflow.Text.Utf8

/-!
# Text files

The text of a file is its bytes decoded, with every line end written as a line feed.
-/

namespace Workflow

inductive TextError where
  | inaccessible (e : FileError)
  | undecodable (fault : Text.Utf8.Fault)
  deriving DecidableEq, Repr

def TextError.message : TextError → String
  | .inaccessible e => e.message
  | .undecodable fault => fault.message

def textOfBytes (bytes : List UInt8) : Except Text.Utf8.Fault String :=
  (Text.Utf8.decode bytes).map fun cs => String.ofList (Text.unifyLineFeeds cs)

def FileTree.readText (tree : FileTree) (cwd path : Path) : Except TextError String := do
  let bytes ← (tree.readBytes cwd path).mapError .inaccessible
  (textOfBytes bytes).mapError .undecodable

def bytesOfText (text : String) : List UInt8 :=
  text.toList.flatMap String.utf8EncodeChar

end Workflow
