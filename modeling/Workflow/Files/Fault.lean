import Workflow.Path.Basic
import Workflow.Text.Quoted

/-!
# Faults of file access

What can go wrong when a path is followed in a file tree. Each fault has a text and the name under
which it is reported; those of the system have a number as well.
-/

namespace Workflow

inductive FileFault where
  | absent
  | present
  | notDirectory
  | isDirectory
  | nameTooLong
  | denied
  | tooManyLinks
  | nullCharacter
  | tooDeep
  | circular
  deriving DecidableEq, Repr

namespace FileFault

def kind : FileFault → String
  | .absent => "FileNotFoundError"
  | .present => "FileExistsError"
  | .notDirectory => "NotADirectoryError"
  | .isDirectory => "IsADirectoryError"
  | .nameTooLong | .tooManyLinks => "OSError"
  | .denied => "PermissionError"
  | .nullCharacter => "ValueError"
  | .tooDeep => "RecursionError"
  | .circular => "RuntimeError"

/-- The number of a fault of the system. The other faults never get as far as the system. -/
def number? : FileFault → Option Nat
  | .absent => some 2
  | .present => some 17
  | .notDirectory => some 20
  | .isDirectory => some 21
  | .nameTooLong => some 36
  | .denied => some 13
  | .tooManyLinks => some 40
  | .nullCharacter | .tooDeep | .circular => none

def text : FileFault → String
  | .absent => "No such file or directory"
  | .present => "File exists"
  | .notDirectory => "Not a directory"
  | .isDirectory => "Is a directory"
  | .nameTooLong => "File name too long"
  | .denied => "Permission denied"
  | .tooManyLinks => "Too many levels of symbolic links"
  | .nullCharacter => "embedded null byte"
  | .tooDeep => "maximum recursion depth exceeded"
  | .circular => "Symlink loop"

end FileFault

/-- A fault and the path, as it was given, at which it arose. -/
structure FileError where
  fault : FileFault
  path : Path
  deriving DecidableEq, Repr

def FileError.message (e : FileError) : String :=
  match e.fault.number? with
  | some number => s!"[Errno {number}] " ++ e.fault.text ++ ": " ++ Text.quote e.path.text
  | none =>
    if e.fault = .circular then e.fault.text ++ " from " ++ Text.quote e.path.text
    else e.fault.text

end Workflow
