import Workflow.Catalog.Basic

/-!
# Discovering workflow files

Every tier is scanned by itself and the scans are merged in order. The first tier that has a stem
wins; a file that cannot be read, and one whose stem is taken, gives a warning instead of an entry.
-/

namespace Workflow

/-- A workflow file of a tier, and the definition read from it. -/
structure Candidate where
  path : Path
  tier : Tier
  result : Except SourceError Definition

namespace Candidate

def entry (candidate : Candidate) (definition : Definition) : CatalogEntry where
  stem := workflowStem candidate.path.name
  name := definition.name
  path := candidate.path
  description := definition.description
  stageCount := definition.stages.length
  tier := candidate.tier

def entry? (candidate : Candidate) : Option CatalogEntry :=
  candidate.result.toOption.map candidate.entry

def warning? (candidate : Candidate) : Option CatalogWarning :=
  match candidate.result with
  | .error reason => some (.unreadable candidate.path.name reason)
  | .ok _ => none

end Candidate

namespace FileTree

/-- The names listed in a directory that are those of workflow files. -/
def listed (tree : FileTree) (place : Location) : List String :=
  ((tree.children place).map Prod.fst).filter isWorkflowName

def hasFile (tree : FileTree) (cwd directory : Path) (name : String) : Except FileError Bool :=
  tree.isFile cwd (directory.child name)

def sortNames (names : List String) : List String :=
  names.mergeSort fun a b => decide (a ≤ b)

/-- The names of the workflow files in a directory, in order. There are none if the directory may
not be read, or if it cannot be told of one name whether it is that of a file. -/
def workflowNames (tree : FileTree) (cwd directory : Path) : List String :=
  match tree.find cwd directory with
  | .ok (place, .directory) =>
    if !(tree.rightsAt place).read then []
    else match (tree.listed place).filterM (tree.hasFile cwd directory) with
      | .ok files => sortNames files
      | .error _ => []
  | _ => []

def candidates (tree : FileTree) (cwd directory : Path) (tier : Tier) : List Candidate :=
  (tree.workflowNames cwd directory).map fun name =>
    let path := directory.child name
    ⟨path, tier, tree.readDefinition cwd path⟩

/-- The candidates of each tier. -/
def scan (tree : FileTree) (cwd : Path) (tiers : List (Path × Tier)) : List (List Candidate) :=
  tiers.map fun tier => tree.candidates cwd tier.1 tier.2

end FileTree

namespace Catalog

/-- What has been merged so far: the entry of every stem, and the warnings. -/
structure Merge where
  winners : Table String CatalogEntry := Table.empty
  warnings : List CatalogWarning := []
  deriving DecidableEq, Repr

def Merge.addEntry (merge : Merge) (entry : CatalogEntry) : Merge :=
  match merge.winners.get? entry.stem with
  | some winner =>
    { merge with warnings := merge.warnings ++ [.shadowed entry.stem entry.path winner.path] }
  | none => { merge with winners := merge.winners.insert entry.stem entry }

/-- Adds a tier: first the files that cannot be read, then the others. -/
def Merge.addTier (merge : Merge) (candidates : List Candidate) : Merge :=
  (candidates.filterMap Candidate.entry?).foldl addEntry
    { merge with warnings := merge.warnings ++ candidates.filterMap Candidate.warning? }

def Merge.catalog (merge : Merge) : Catalog where
  entries := merge.winners.values.mergeSort fun a b => decide (a.stem ≤ b.stem)
  warnings := merge.warnings

def ofScan (tiers : List (List Candidate)) : Catalog :=
  (tiers.foldl Merge.addTier {}).catalog

end Catalog

/-- The catalog of the workflow files in a file tree. -/
def FileTree.catalog (tree : FileTree) (cwd : Path) (roots : Roots) : Except FileError Catalog :=
  (tree.tiers cwd roots).map fun tiers => Catalog.ofScan (tree.scan cwd tiers)

end Workflow
