import Workflow.Catalog.Discover

/-!
# Resolving references

A bare reference names a catalog entry. Every other reference is a path, taken from the project,
and stands for its real path.
-/

namespace Workflow

/-- Why a reference leads to no workflow file. -/
inductive ResolutionError where
  | noFile (ref : String) (path : Path)
  | unknown (ref : String) (searched : List Path) (failures : List CatalogWarning)
  deriving DecidableEq, Repr

namespace ResolutionError

def ref : ResolutionError → String
  | .noFile ref _ => ref
  | .unknown ref _ _ => ref

def searched : ResolutionError → List Path
  | .noFile _ path => [path]
  | .unknown _ paths _ => paths

def message : ResolutionError → String
  | .noFile _ path =>
    "Workflow file not found: " ++ path.text ++ "\nProvide a valid path to a " ++
      workflowSuffix ++ " workflow file."
  | .unknown ref paths failures =>
    "Workflow " ++ cited ref ++ " not found.\nSearched:\n" ++
      "\n".intercalate (paths.map fun path => "  " ++ path.text) ++
      "\nPlace workflow files in " ++ "/".intercalate workflowsPlace ++
      "/ or provide a full path." ++
      String.join (failures.map fun warning => "\n" ++ warning.message)

end ResolutionError

/-- Why a reference cannot be resolved. -/
inductive ResolveError where
  | unresolved (e : ResolutionError)
  | inaccessible (e : FileError)
  deriving DecidableEq, Repr

structure Resolution where
  path : Path
  warnings : List CatalogWarning
  deriving DecidableEq, Repr

/-- The warnings about files that would have had the stem `ref`. -/
def Catalog.failuresOf (catalog : Catalog) (ref : String) : List CatalogWarning :=
  let opening := "Failed to parse " ++ ref ++ workflowSuffix ++ ":"
  catalog.warnings.filter fun warning => opening.toList.isPrefixOf warning.message.toList

namespace FileTree

def resolvePath (tree : FileTree) (cwd : Path) (roots : Roots) (ref : String) :
    Except ResolveError Resolution := do
  let path ← (tree.realPath cwd (roots.project.join (.parse ref))).mapError .inaccessible
  if ← (tree.isPresent cwd path).mapError .inaccessible then .ok ⟨path, []⟩
  else .error (.unresolved (.noFile ref path))

def resolveStem (tree : FileTree) (cwd : Path) (roots : Roots) (ref : String) :
    Except ResolveError Resolution := do
  let tiers ← (tree.tiers cwd roots).mapError .inaccessible
  let catalog := Catalog.ofScan (tree.scan cwd tiers)
  match catalog.find? ref with
  | some entry => .ok ⟨entry.path, catalog.warnings⟩
  | none =>
    let searched := tiers.map fun tier => tier.1.child (ref ++ workflowSuffix)
    .error (.unresolved (.unknown ref searched (catalog.failuresOf ref)))

/-- The workflow file that a reference means. -/
def resolve (tree : FileTree) (cwd : Path) (roots : Roots) (ref : String) :
    Except ResolveError Resolution :=
  if isBareRef ref then tree.resolveStem cwd roots ref else tree.resolvePath cwd roots ref

end FileTree

end Workflow
