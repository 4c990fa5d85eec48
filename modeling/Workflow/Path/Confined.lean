import Workflow.Path.Basic
import Workflow.Path.Windows

/-!
# Paths that stay below a directory

A path is confined when it is absolute under neither system's rules and has no part `..` between
slashes and backslashes.
-/

namespace Workflow.Path

open Workflow.Text

def isConfined (path : String) : Bool :=
  !(parse path).isAbsolute && !Windows.isAbsolute path &&
    !(pieces "/" (replace "\\" "/" path)).contains ".."

end Workflow.Path
