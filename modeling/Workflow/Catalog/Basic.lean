import Workflow.Definition.Reader
import Workflow.Files.Real
import Workflow.Files.Text

/-!
# The workflow catalog

Workflow files lie in up to three directories, the tiers, the most specific first: that of the
project, that of the repository and that of the user. The root of a tier may be a relative path,
which is taken from the current directory. A catalog entry is known by its stem, the name of its
file without the workflow suffix. A name without separator and without extension is a bare
reference; it means a stem, and every other reference is a path.
-/

namespace Workflow

open Workflow.Text

inductive Tier where
  | project
  | repository
  | global
  deriving DecidableEq, Repr

def Tier.word : Tier → String
  | .project => "project"
  | .repository => "repo"
  | .global => "global"

def workflowSuffix : String := ".awf.kdl"

def workflowsPlace : List String := [".attractor", "workflows"]

def isWorkflowName (name : String) : Bool :=
  workflowSuffix.toList.isSuffixOf name.toList

def workflowStem (name : String) : String :=
  if isWorkflowName name then
    String.ofList (name.toList.take (name.toList.length - workflowSuffix.toList.length))
  else (Path.parse name).stem

def isBareRef (ref : String) : Bool :=
  !ref.contains '/' && !ref.contains '\\' && (Path.parse ref).extension == ""

structure Roots where
  project : Path
  repository : Option Path := none
  home : Path
  deriving DecidableEq, Repr

/-- The tiers that have roots, most specific first. -/
def Roots.all (roots : Roots) : List (Path × Tier) :=
  (roots.project, .project) :: roots.repository.toList.map (·, .repository) ++
    [(roots.home, .global)]

namespace FileTree

def workflowsOf (tree : FileTree) (cwd root : Path) : Except FileError Path :=
  (tree.realPath cwd root).map fun real => { real with parts := real.parts ++ workflowsPlace }

/-- The directories to search, in order; one that comes again is left out. -/
def tiers (tree : FileTree) (cwd : Path) (roots : Roots) :
    Except FileError (List (Path × Tier)) := do
  let found ← roots.all.mapM fun root => (tree.workflowsOf cwd root.1).map (·, root.2)
  return (found.foldl (fun tiers tier => tiers.insertNew tier.1 tier.2) Table.empty).entries

end FileTree

inductive SourceError where
  | text (e : TextError)
  | definition (e : ReadError)
  deriving DecidableEq, Repr

def SourceError.message : SourceError → String
  | .text e => e.message
  | .definition e => e.message

def FileTree.readDefinition (tree : FileTree) (cwd path : Path) :
    Except SourceError Definition := do
  let source ← (tree.readText cwd path).mapError .text
  (Definition.parse source).mapError .definition

structure CatalogEntry where
  stem : String
  name : String
  path : Path
  description : Option String
  stageCount : Nat
  tier : Tier
  deriving DecidableEq, Repr

inductive CatalogWarning where
  | unreadable (file : String) (reason : SourceError)
  | shadowed (stem : String) (path winner : Path)
  deriving DecidableEq, Repr

def CatalogWarning.message : CatalogWarning → String
  | .unreadable file reason => "Failed to parse " ++ file ++ ": " ++ reason.message
  | .shadowed stem path winner =>
    "Workflow " ++ cited stem ++ " at " ++ path.text ++ " is shadowed by " ++ winner.text ++
      " (higher precedence)."

structure Catalog where
  entries : List CatalogEntry
  warnings : List CatalogWarning
  deriving DecidableEq, Repr

def Catalog.find? (catalog : Catalog) (stem : String) : Option CatalogEntry :=
  catalog.entries.find? (·.stem == stem)

end Workflow
