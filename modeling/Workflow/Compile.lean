import Workflow.Definition.Reader
import Workflow.Files.Text
import Workflow.Lowering
import Workflow.Style

/-!
# Compiling workflow sources

A source text, or that of a file, is read, validated, lowered and styled. Compiling gives the
definition, its graph and the warnings that validation found.
-/

namespace Workflow

structure Compiled where
  definition : Definition
  graph : Graph
  warnings : List Diagnostic
  deriving DecidableEq, Repr

inductive CompileError where
  | unreadable (e : ReadError)
  | unlowered (e : LoweringError)
  deriving DecidableEq, Repr

def Definition.compile (d : Definition) : Except LoweringError Compiled := do
  let warnings ← d.accept.mapError .rejected
  let graph ← d.toGraph
  .ok { definition := d, graph := graph.styled, warnings }

def compile (source : String) : Except CompileError Compiled := do
  let definition ← (Definition.parse source).mapError .unreadable
  definition.compile.mapError .unlowered

/-- Why a workflow file cannot be compiled. -/
inductive LoadError where
  | text (e : TextError)
  | compile (e : CompileError)
  deriving DecidableEq, Repr

def FileTree.compile (tree : FileTree) (cwd path : Path) : Except LoadError Compiled := do
  let source ← (tree.readText cwd path).mapError .text
  (Workflow.compile source).mapError .compile

end Workflow
