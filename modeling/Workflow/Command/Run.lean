import Workflow.Command.Act
import Workflow.Command.Request
import Workflow.Console.Sequence
import Workflow.Graph.Dot
import Workflow.Graph.Summary

/-!
# Running the command line

Settings are loaded and the journal is opened first, then the command is carried out. What people
read goes to the console, a compiled workflow to standard output or to a file.
-/

namespace Workflow

open Console

structure Surroundings where
  cwd : Path
  environment : Environment
  /-- The root of the repository around the current directory, unless the settings name one. -/
  repository : Option Path := none
  /-- Whether standard output is a terminal. -/
  terminal : Bool := false
  deriving DecidableEq, Repr

def Surroundings.roots (here : Surroundings) (settings : Settings) : Roots where
  project := here.cwd
  repository := settings.repoRoot.or here.repository
  home := settings.homeDir.getD here.environment.home

def Surroundings.written (here : Surroundings) (text : String) : String :=
  if here.terminal then text else withoutSequences text

namespace Command

open Act

def warn (warnings : List CatalogWarning) : Act Unit :=
  warnings.forM fun warning =>
    say (.ofMarkup .err (Markup.styled "yellow" "Warning:" ++ " " ++
      Markup.escape warning.message))

/-- Resolves a reference and tells the warnings that came up. -/
def resolve (cwd : Path) (roots : Roots) (ref : String) : Act Path := do
  let tree ← tree
  note (tree.resolveNotes cwd roots ref)
  let found ← take ResolveError.failure (tree.resolve cwd roots ref)
  warn found.warnings
  return found.path

def runInit (cwd : Path) (given : Option Path) : Act Unit := do
  let project ← take FileError.failure ((← tree).realPath cwd (given.getD cwd))
  unless ← take FileError.failure ((← tree).isDirectory cwd project) do
    throw (.refused ("Not a directory: " ++ project.text) 1)
  change fun tree =>
    tree.makeDirectories cwd { project with parts := project.parts ++ workflowsPlace }
  let file := Settings.fileOf project
  if ← take FileError.failure ((← tree).isPresent cwd file) then
    say (.inStyle .err "yellow" ("Config already exists: " ++ file.text))
  else
    change fun tree => tree.write cwd file (bytesOfText Settings.initialText)
    note [⟨"attractor.cli.app", LogLevel.info.number, "Wrote default config to " ++ file.text⟩]
  say (.inStyle .err "green" ("Initialised Attractor project at " ++ project.text))

def targetText (g : Graph) (dot : Bool) : Except Failure String :=
  if dot then .ok g.toDot
  else if g.writable then .ok (g.summary.text ++ "\n")
  else .error (.unexpected "ValueError" (Number.limitMessage none))

def writeTarget (cwd : Path) (text : String) (output : Path) : Act Unit := do
  change fun tree => tree.makeDirectories cwd output.parent
  change fun tree => tree.write cwd output (bytesOfText text)
  say (.inStyle .err "green" ("Wrote " ++ output.text))

def runCompile (here : Surroundings) (roots : Roots) (ref : String) (dot : Bool)
    (output : Option Path) : Act Unit := do
  let path ← resolve here.cwd roots ref
  let source ← take TextError.failure ((← tree).readText here.cwd path)
  note (compileNotes source)
  let compiled ← take CompileError.failure (Workflow.compile source)
  compiled.warnings.forM fun warning => say (.inStyle .err "yellow" warning.line)
  let text ← take id (targetText compiled.graph dot)
  match output with
  | some output => writeTarget here.cwd text output
  | none => echo (here.written text)

def readDefinition (cwd : Path) (roots : Roots) (ref : String) : Act (Path × Definition) := do
  let path ← resolve cwd roots ref
  let source ← take TextError.failure ((← tree).readText cwd path)
  note (readNotes source)
  let definition ← take ReadError.failure (Definition.parse source)
  return (path, definition)

def runValidate (cwd : Path) (roots : Roots) (ref : String) : Act Unit := do
  let (_, definition) ← readDefinition cwd roots ref
  let found := definition.validate
  found.forM fun diagnostic =>
    say (.inStyle .out (if diagnostic.isError then "red" else "yellow") diagnostic.line)
  let errors := (found.filter Diagnostic.isError).length
  if errors ≠ 0 then
    throw (.refused (definition.name ++
      s!": {errors} error(s), {found.length - errors} warning(s)") 1)
  say (.ofMarkup .out (Markup.styled "green" (Markup.escape definition.name ++ " is valid") ++
    s!" ({found.length} warning(s))"))

def entryRow (entry : CatalogEntry) : List String :=
  [entry.stem, entry.tier.word, toString entry.stageCount, entry.description.getD "",
    entry.path.text]

def runList (cwd : Path) (roots : Roots) : Act Unit := do
  let tree ← tree
  note (tree.catalogNotes cwd roots)
  let catalog ← take FileError.failure (tree.catalog cwd roots)
  if catalog.entries.isEmpty then say (.inStyle .err "yellow" "No workflows found.")
  else
    let columns := ["Name", "Location", "Stages", "Description", "Path"]
    say (.ofRows "Workflows" columns (catalog.entries.map entryRow))
  warn catalog.warnings

/-- Where a stage leads: its options, else its routes, else its transitions. -/
def targets (definition : Definition) (stage : Stage) : List String :=
  if !stage.choices.isEmpty then
    stage.choices.map fun choice => choice.key ++ " -> " ++ choice.target
  else if !stage.routes.isEmpty then
    stage.routes.map fun route => route.condition ++ " -> " ++ route.target
  else (definition.transitions.filter (·.source == stage.id)).map (·.target)

def stageRow (definition : Definition) (stage : Stage) : List String :=
  [stage.id, stage.kind.word, ", ".intercalate (targets definition stage)]

def runShow (cwd : Path) (roots : Roots) (ref : String) : Act Unit := do
  let (path, definition) ← readDefinition cwd roots ref
  let plain (text : String) : Act Unit := say (.ofMarkup .out text)
  plain (Markup.styled "bold" (Markup.escape definition.name) ++ "  " ++
    Markup.styled "dim" (Markup.escape path.text))
  match definition.description with
  | none | some "" => pure ()
  | some description => plain (Markup.escape description)
  match definition.goal with
  | none | some "" => pure ()
  | some goal => plain ("Goal: " ++ Markup.escape goal)
  plain ("Start: " ++ Markup.escape definition.start)
  say (.ofRows "Stages" ["Stage", "Kind", "Routes to"] (definition.stages.map (stageRow definition)))

def run (here : Surroundings) (roots : Roots) : Command → Act Unit
  | .init path => runInit here.cwd path
  | .compile ref dot output => runCompile here roots ref dot output
  | .validate ref => runValidate here.cwd roots ref
  | .list => runList here.cwd roots
  | .show ref => runShow here.cwd roots ref

end Command

/-- How a run ended: its exit code, the failure that ended it and what was done. -/
structure Ending where
  exitCode : Int
  failure : Option Failure := none
  progress : Progress
  deriving DecidableEq, Repr

def Act.finish (act : Act Int) (tree : FileTree) : Ending :=
  match act.run.run { tree } with
  | (.ok exitCode, progress) => { exitCode, progress }
  | (.error failure, progress) =>
    { exitCode := failure.exitCode
      failure
      progress := { progress with messages := progress.messages ++ failure.messages } }

namespace Request

open Act

def versionText : String := "attractor 0.1.0"

def misuseCode : Int := 2

def actStep (here : Surroundings) (settings : Settings) : Step → Act Int
  | .help => return 0
  | .misuse _ => return misuseCode
  | .command command => do
    command.run here (here.roots settings)
    return 0

def act (here : Surroundings) : Request → Act Int
  | .version => do
    say (.ofMarkup .err versionText)
    return 0
  | .help => return 0
  | .misuse _ => return misuseCode
  | .run verbose config step => do
    let settings ← take SettingsError.failure
      (Settings.load (← tree) here.cwd here.environment config here.cwd)
    let level := if verbose then LogLevel.debug else settings.logLevel
    openJournal here.cwd level.number settings.logFile
    actStep here settings step

end Request

def runCommandLine (here : Surroundings) (arguments : List String) (tree : FileTree) : Ending :=
  ((Request.read arguments).act here).finish tree

end Workflow
