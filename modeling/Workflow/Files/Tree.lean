import Workflow.Files.Fault
import Workflow.Table
import Workflow.Text.Lines
import Workflow.Text.Utf8

/-!
# File trees

A file tree holds files, directories and links at locations, the lists of names that lead to them
from the root. The root is always a directory. Paths are followed name by name from the root or the
current directory. The user of the program may lack rights at some locations, and what lies behind
a directory that may not be searched cannot be reached.
-/

namespace Workflow

open Workflow.Text

abbrev Location := List String

inductive FileTree.Entry where
  | file (bytes : List UInt8)
  | directory
  /-- A symbolic link with the text that it holds. -/
  | link (target : String)
  deriving DecidableEq, Repr

/-- What may be done with an entry. To search a directory is to look a name up in it. -/
structure FileTree.Rights where
  read : Bool := true
  write : Bool := true
  search : Bool := true
  deriving DecidableEq, Repr

structure FileTree where
  entries : Table Location FileTree.Entry := Table.empty
  /-- The rights at the locations where one of them is missing. -/
  rights : Table Location FileTree.Rights := Table.empty
  deriving DecidableEq, Repr

namespace FileTree

def entry? (tree : FileTree) (place : Location) : Option Entry :=
  if place = [] then some .directory else tree.entries.get? place

def rightsAt (tree : FileTree) (place : Location) : Rights :=
  (tree.rights.get? place).getD {}

def put (tree : FileTree) (place : Location) (entry : Entry) : FileTree :=
  { tree with entries := tree.entries.insert place entry }

def nameBelow? (directory place : Location) : Option String :=
  if place.dropLast = directory then place.getLast? else none

def children (tree : FileTree) (directory : Location) : List (String × Entry) :=
  tree.entries.entries.filterMap fun e =>
    (nameBelow? directory e.1).map fun name => (name, e.2)

def nameLimit : Nat := 255

/-- The most links that are followed on the way to one location. -/
def linkLimit : Nat := 40

def isRooted (target : String) : Bool :=
  target.toList.head? = some '/'

/-- Follows names from the location `here` up to the first link, for which `onLink` says how to go
on. The last name may have no entry; a link with that name is followed if `through`. -/
def walk (tree : FileTree) (through : Bool) (left : Nat)
    (onLink : Location → String → List String → Except FileFault (Location × Nat))
    (here : Location) : List String → Except FileFault (Location × Nat)
  | [] => .ok (here, left)
  | name :: names =>
    match tree.entry? here with
    | none => .error .absent
    | some .directory =>
      -- a link may end in a slash, and then there is nothing behind the last one
      if name = "" then tree.walk through left onLink here names
      else if !(tree.rightsAt here).search then .error .denied
      else if name = "." then tree.walk through left onLink here names
      else if name = ".." then tree.walk through left onLink here.dropLast names
      else if nameLimit < name.utf8ByteSize then .error .nameTooLong
      else match tree.entry? (here ++ [name]) with
        | some (.link target) =>
          if through || !names.isEmpty then onLink here target names
          else .ok (here ++ [name], left)
        | _ => tree.walk through left onLink (here ++ [name]) names
    | some _ => .error .notDirectory

/-- Follows names and not more than `left` links on the way. Gives the location and how many links
may be followed from there. -/
def follow (tree : FileTree) (through : Bool) :
    Nat → Location → List String → Except FileFault (Location × Nat)
  | 0 => tree.walk through 0 fun _ _ _ => .error .tooManyLinks
  | left + 1 => tree.walk through (left + 1) fun here target names =>
    tree.follow through left (if isRooted target then [] else here) (pieces "/" target ++ names)

def pathLimit : Nat := 4095

def locate (tree : FileTree) (through : Bool) (cwd path : Path) : Except FileFault Location :=
  if path.hasNull then .error .nullCharacter
  else if pathLimit < path.text.utf8ByteSize then .error .nameTooLong
  else
    let here := if path.isAbsolute then [] else cwd.parts
    let names := if path = ⟨0, []⟩ then ["."] else path.parts
    (tree.follow through linkLimit here names).map Prod.fst

def find (tree : FileTree) (cwd path : Path) : Except FileFault (Location × Entry) := do
  let place ← tree.locate true cwd path
  match tree.entry? place with
  | some entry => .ok (place, entry)
  | none => .error .absent

/-- Whether what lies at a path has a property. A path that leads nowhere has none; only a limit on
names and paths and a missing right are faults. -/
def test (tree : FileTree) (cwd path : Path) (p : Entry → Bool) : Except FileError Bool :=
  match tree.find cwd path with
  | .ok (_, entry) => .ok (p entry)
  | .error .nameTooLong => .error ⟨.nameTooLong, path⟩
  | .error .denied => .error ⟨.denied, path⟩
  | .error _ => .ok false

def Entry.isFile : Entry → Bool
  | .file _ => true
  | .directory | .link _ => false

def Entry.isDirectory : Entry → Bool
  | .directory => true
  | .file _ | .link _ => false

def isFile (tree : FileTree) (cwd path : Path) : Except FileError Bool :=
  tree.test cwd path Entry.isFile

def isDirectory (tree : FileTree) (cwd path : Path) : Except FileError Bool :=
  tree.test cwd path Entry.isDirectory

def isPresent (tree : FileTree) (cwd path : Path) : Except FileError Bool :=
  tree.test cwd path fun _ => true

def readBytes (tree : FileTree) (cwd path : Path) : Except FileError (List UInt8) :=
  match tree.find cwd path with
  | .error fault => .error ⟨fault, path⟩
  | .ok (place, entry) =>
    if !(tree.rightsAt place).read then .error ⟨.denied, path⟩
    else match entry with
      | .file bytes => .ok bytes
      | .directory => .error ⟨.isDirectory, path⟩
      | .link _ => .error ⟨.absent, path⟩

/-- The location of a file to be written; the directory it lies in must be there. -/
def target (tree : FileTree) (cwd path : Path) : Except FileError Location :=
  match tree.locate true cwd path with
  | .error fault => .error ⟨fault, path⟩
  | .ok place =>
    match tree.entry? place with
    | some .directory => .error ⟨.isDirectory, path⟩
    | some _ => if (tree.rightsAt place).write then .ok place else .error ⟨.denied, path⟩
    | none => if (tree.rightsAt place.dropLast).write then .ok place else .error ⟨.denied, path⟩

def write (tree : FileTree) (cwd path : Path) (bytes : List UInt8) : Except FileError FileTree :=
  (tree.target cwd path).map fun place => tree.put place (.file bytes)

def append (tree : FileTree) (place : Location) (bytes : List UInt8) : FileTree :=
  match tree.entry? place with
  | some (.file old) => tree.put place (.file (old ++ bytes))
  | _ => tree.put place (.file bytes)

def makeDirectory (tree : FileTree) (cwd path : Path) : Except FileError FileTree :=
  match tree.locate false cwd path with
  | .error fault => .error ⟨fault, path⟩
  | .ok place =>
    match tree.entry? place with
    | none =>
      if (tree.rightsAt place.dropLast).write then .ok (tree.put place .directory)
      else .error ⟨.denied, path⟩
    | some _ => do
      if ← tree.isDirectory cwd path then .ok tree else .error ⟨.present, path⟩

/-- The most calls of an operation on files within one another. -/
def depthLimit : Nat := 970

/-- Makes a directory with all above it, as far as they are not there already. Not more than `room`
directories are made. -/
def makeWithin (tree : FileTree) (cwd path : Path) (room : Nat) : Except FileError FileTree :=
  match room, tree.makeDirectory cwd path with
  | 0, _ => .error ⟨.tooDeep, path⟩
  | room + 1, .error ⟨.absent, _⟩ =>
    if path.parts.isEmpty then .error ⟨.absent, path⟩
    else do
      let tree ← tree.makeWithin cwd path.parent room
      tree.makeDirectory cwd path
  | _, result => result

def makeDirectories (tree : FileTree) (cwd path : Path) : Except FileError FileTree :=
  tree.makeWithin cwd path depthLimit

end FileTree

end Workflow
