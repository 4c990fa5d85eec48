import Workflow.Command.Failure
import Workflow.Journal.Notes

/-!
# Acting

A command acts on files, a journal and a console. Acting stops at the first failure and keeps what
was done before it.
-/

namespace Workflow

open Console

structure Progress where
  tree : FileTree
  journal : Journal := {}
  messages : List Message := []
  /-- The text written to standard output. -/
  output : String := ""
  deriving DecidableEq, Repr

abbrev Act := ExceptT Failure (StateM Progress)

namespace Act

def say (message : Message) : Act Unit :=
  modify fun p => { p with messages := p.messages ++ [message] }

def echo (text : String) : Act Unit :=
  modify fun p => { p with output := p.output ++ text }

def note (notes : List Note) : Act Unit :=
  modify fun p => { p with tree := p.journal.addAll p.tree notes }

def take {ε α : Type} (failure : ε → Failure) (result : Except ε α) : Act α :=
  match result with
  | .ok value => pure value
  | .error e => throw (failure e)

def tree : Act FileTree := do
  return (← get).tree

def change (f : FileTree → Except FileError FileTree) : Act Unit := do
  let tree ← take FileError.failure (f (← tree))
  modify fun p => { p with tree }

/-- Opens the journal with a threshold and, if there is one, a log file. -/
def openJournal (cwd : Path) (threshold : Int) (file : Option Path) : Act Unit := do
  modify fun p => { p with journal := { threshold } }
  match file with
  | none => pure ()
  | some path =>
    let (tree, place) ← take .unlogged ((← tree).openLog cwd path)
    modify fun p => { p with tree, journal := { threshold, file := some place } }

end Act

end Workflow
