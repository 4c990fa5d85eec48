import Workflow.Catalog.Resolve
import Workflow.Compile
import Workflow.Journal.Basic

/-!
# What the parts of the program note

Reading, validating, lowering, styling and compiling a workflow are noted once they have succeeded,
and so is every warning about a workflow file.
-/

namespace Workflow

open Workflow.Text

def Definition.readNote (d : Definition) : Note where
  source := "attractor.workflow.parser"
  level := LogLevel.debug.number
  text := "Parsed workflow " ++ quote d.name ++
    s!": {d.stages.length} stage(s), {d.transitions.length} transition(s)"

/-- The warnings of a definition that is accepted. -/
def Definition.acceptNotes (d : Definition) : List Note :=
  match d.accept with
  | .ok warnings => warnings.map fun warning =>
    { source := "attractor.workflow.validator"
      level := LogLevel.debug.number
      text := "Workflow " ++ quote d.name ++ ": " ++ warning.line }
  | .error _ => []

def Graph.lowerNote (g : Graph) : Note where
  source := "attractor.workflow.lowering"
  level := LogLevel.debug.number
  text := "Lowered workflow " ++ quote g.name ++
    s!" to {g.nodes.size} node(s) and {g.edges.length} edge(s)"

def styleNote (text : String) : Note :=
  ⟨"attractor.engine.stylesheet", LogLevel.debug.number, text⟩

/-- The blocks that a stylesheet loses, and the number of its rules. -/
def Graph.styleNotes (g : Graph) : List Note :=
  match g.styleSource? with
  | none => []
  | some source =>
    (Style.skipped source).map (fun selector =>
      styleNote ("Skipping unrecognised selector " ++ quote selector)) ++
    [styleNote (s!"Applied {(Style.parse source).length} stylesheet rule(s) to graph " ++
      quote g.name)]

def Compiled.note (c : Compiled) : Note where
  source := "attractor.workflow.loader"
  level := LogLevel.info.number
  text := "Compiled workflow " ++ quote c.definition.name ++
    s!" ({c.definition.stages.length} stage(s), {c.warnings.length} warning(s))"

/-- A definition is accepted twice when it is compiled, by itself and before it is lowered. -/
def Definition.compileNotes (d : Definition) : List Note :=
  d.acceptNotes ++ d.acceptNotes ++
    match d.toGraph, d.compile with
    | .ok g, .ok c => g.lowerNote :: g.styleNotes ++ [c.note]
    | _, _ => []

def readNotes (source : String) : List Note :=
  match Definition.parse source with
  | .ok d => [d.readNote]
  | .error _ => []

def compileNotes (source : String) : List Note :=
  match Definition.parse source with
  | .ok d => d.readNote :: d.compileNotes
  | .error _ => []

def CatalogWarning.note (warning : CatalogWarning) : Note where
  source := "attractor.workflow.discovery"
  level := LogLevel.warning.number
  text := warning.message

/-- What is noted about a candidate when it is read. -/
def Candidate.note (candidate : Candidate) : Note :=
  match candidate.result with
  | .ok d => d.readNote
  | .error reason => (CatalogWarning.unreadable candidate.path.name reason).note

def CatalogWarning.isShadow : CatalogWarning → Bool
  | .shadowed .. => true
  | .unreadable .. => false

/-- The tiers are read one after the other before they are merged. -/
def FileTree.catalogNotes (tree : FileTree) (cwd : Path) (roots : Roots) : List Note :=
  match tree.tiers cwd roots with
  | .ok tiers =>
    let scan := tree.scan cwd tiers
    scan.flatten.map Candidate.note ++
      ((Catalog.ofScan scan).warnings.filter CatalogWarning.isShadow).map CatalogWarning.note
  | .error _ => []

def FileTree.resolveNotes (tree : FileTree) (cwd : Path) (roots : Roots) (ref : String) :
    List Note :=
  if isBareRef ref then tree.catalogNotes cwd roots else []

end Workflow
