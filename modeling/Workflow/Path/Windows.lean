/-!
# The anchor of a Windows path

Slashes count as backslashes. The drive is a letter with a colon, or a share of a server, and may
be extended by `\\?\`. A path is absolute when it has both a drive and a root.
-/

namespace Workflow.Path.Windows

structure Anchor where
  drive : List Char
  rooted : Bool
  deriving DecidableEq, Repr

def unifySlashes (cs : List Char) : List Char :=
  cs.map fun c => if c = '/' then '\\' else c

/-- The mark of an extended path at the front, and what remains without it. -/
def splitExtended (cs : List Char) : List Char × List Char :=
  match cs with
  | '\\' :: '\\' :: '?' :: '\\' :: 'U' :: 'N' :: 'C' :: '\\' :: rest =>
    (['\\', '\\', '?', '\\', 'U', 'N', 'C'], '\\' :: '\\' :: rest)
  | '\\' :: '\\' :: '?' :: '\\' :: rest => (['\\', '\\', '?', '\\'], rest)
  | cs => ([], cs)

/-- The share `\\server\name` at the front. -/
def share? (cs : List Char) : Option (List Char) :=
  match cs with
  | '\\' :: '\\' :: rest =>
    let server := rest.takeWhile (· ≠ '\\')
    match rest.drop server.length with
    | [] => none
    | _ :: after =>
      let name := after.takeWhile (· ≠ '\\')
      if server.isEmpty || (name.isEmpty && !after.isEmpty) then none
      else some ('\\' :: '\\' :: server ++ '\\' :: name)
  | _ => none

def letterDrive (cs : List Char) : Anchor :=
  match cs with
  | c :: ':' :: rest =>
    if c.isAlpha then ⟨[c, ':'], rest.head? == some '\\'⟩ else ⟨[], c == '\\'⟩
  | cs => ⟨[], cs.head? == some '\\'⟩

def anchor (path : String) : Anchor :=
  let (mark, cs) := splitExtended (unifySlashes path.toList)
  match share? cs with
  | some share => ⟨if mark.isEmpty then share else mark ++ share.tail, true⟩
  | none =>
    let found := letterDrive cs
    ⟨mark ++ found.drive, found.rooted⟩

def isAbsolute (path : String) : Bool :=
  let found := anchor path
  found.rooted && !found.drive.isEmpty

end Workflow.Path.Windows
