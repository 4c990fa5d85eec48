import Workflow.Command.Run

/-!
# The program

The files that a request may touch are read into a file tree, the request is carried out there,
and what has changed is written back. Nothing is decided here.
-/

namespace Workflow.Disk

def pathOf (place : Location) : Path := ⟨1, place⟩

/-- The entry at a location of the disk that is no link, and whether it may be read. -/
def entry? (place : Location) : IO (Option (FileTree.Entry × Bool)) := do
  match ← (IO.FS.readBinFile (pathOf place).text).toBaseIO with
  | .ok bytes => return some (.file bytes.toList, true)
  | .error fault =>
    let .ok real ← (IO.FS.realPath (pathOf place).text).toBaseIO | return none
    if ← real.isDir then
      let names ← real.readDir.toBaseIO
      return some (.directory, names.toOption.isSome)
    match fault with
    | .permissionDenied .. => return some (.file [], false)
    | _ => return none

/-- Adds the entry at a location of the disk that is no link. -/
def addEntry (tree : FileTree) (place : Location) : IO FileTree := do
  if (tree.entry? place).isSome then return tree
  match ← entry? place with
  | some (entry, true) => return tree.put place entry
  | some (entry, false) =>
    return { tree.put place entry with rights := tree.rights.insert place { read := false } }
  | none => return tree

/-- Adds what lies at a location and on the way to it. A link is added as one to the real path. -/
def addPlace (tree : FileTree) (place : Location) : IO FileTree := do
  let step := fun ((tree, here) : FileTree × Location) (name : String) => do
    let part := here ++ [name]
    let found ← (IO.FS.realPath (pathOf part).text).toBaseIO
    let real := (found.toOption.map fun real => (Path.parse real.toString).parts).getD part
    let tree := if real = part then tree else tree.put part (.link (pathOf real).text)
    let above := (List.range real.length).map fun n => real.take (n + 1)
    return (← above.foldlM addEntry tree, real)
  return (← place.foldlM step (tree, [])).1

def addPath (cwd : Path) (tree : FileTree) (path : Path) : IO FileTree :=
  addPlace tree (Path.resolve cwd path).parts

/-- Adds a directory with the workflow files in it. -/
def addWorkflows (cwd : Path) (tree : FileTree) (path : Path) : IO FileTree := do
  let place := (Path.resolve cwd path).parts
  let tree ← addPlace tree place
  let .ok real ← (IO.FS.realPath (pathOf place).text).toBaseIO | return tree
  let .ok found ← real.readDir.toBaseIO | return tree
  let names := found.toList.map (·.fileName)
  (names.filter isWorkflowName).foldlM (fun tree name => addPlace tree (place ++ [name])) tree

/-- The paths that a command reads or writes, apart from workflow files of the catalog. -/
def touched (cwd : Path) : Command → List Path
  | .init path =>
    let project := Path.resolve cwd (path.getD cwd)
    [Settings.fileOf project, { project with parts := project.parts ++ workflowsPlace }]
  | .compile ref _ output => Path.parse ref :: output.toList
  | .validate ref | .show ref => [Path.parse ref]
  | .list => []

/-- The files that a request may touch. -/
def snapshot (here : Surroundings) (request : Request) : IO FileTree := do
  let tree ← addPath here.cwd {} here.cwd
  let .run _ config step := request | return tree
  let tree ← addPath here.cwd tree (config.getD (Settings.fileOf here.cwd))
  let .ok settings := Settings.load tree here.cwd here.environment config here.cwd | return tree
  let tree ← settings.logFile.toList.foldlM (addPath here.cwd) tree
  let .command command := step | return tree
  let tree ← (touched here.cwd command).foldlM (addPath here.cwd) tree
  let roots := here.roots settings
  let tree ← (roots.all.map Prod.fst).foldlM (addPath here.cwd) tree
  let .ok tiers := tree.tiers here.cwd roots | return tree
  (tiers.map Prod.fst).foldlM (addWorkflows here.cwd) tree

def store (old new : FileTree) : IO Unit :=
  new.entries.entries.forM fun (place, entry) => do
    if old.entry? place = some entry then return
    match entry with
    | .directory => IO.FS.createDirAll (pathOf place).text
    | .link _ => return
    | .file bytes => IO.FS.writeBinFile (pathOf place).text ⟨bytes.toArray⟩

def print (message : Console.Message) : IO Unit := do
  let stream ← match message with
    | .line .err _ | .table .err .. | .panel .err .. => IO.getStderr
    | _ => IO.getStdout
  match message with
  | .line _ text => stream.putStrLn text
  | .panel _ title text => stream.putStrLn (title ++ "\n" ++ text)
  | .table _ title columns rows =>
    stream.putStrLn title
    (columns :: rows).forM fun row => stream.putStrLn ("  ".intercalate row)

/-- The home directories in a table of users, a line each. -/
def usersOf (text : String) : List (String × Path) :=
  (Text.lines text).filterMap fun line =>
    match Text.pieces ":" line with
    | [name, _, _, _, _, home, _] => some (name, Path.parse home)
    | _ => none

def environment : IO Environment := do
  let names := Settings.names.map fun name => Settings.variablePrefix ++ Text.upper name
  let given ← names.filterMapM fun name => do
    return (← IO.getEnv name).map fun value => (name, value)
  let home := Environment.homeOf ((← IO.getEnv "HOME").getD "")
  let users ← match ← (IO.FS.readFile "/etc/passwd").toBaseIO with
    | .ok text => pure (usersOf text)
    | .error _ => pure []
  return { «variables» := given, home, users }

/-- The nearest directory, from a location upwards, that is the root of a repository. -/
def repositoryOf (place : Location) : IO (Option Path) := do
  let roots ← (List.range (place.length + 1)).reverse.filterM fun n => do
    return (← entry? (place.take n ++ [".git"])).isSome
  return roots.head?.map fun n => pathOf (place.take n)

def surroundings : IO Surroundings := do
  let cwd := Path.parse (← IO.currentDir).toString
  let terminal ← (← IO.getStdout).isTty
  return { cwd, environment := ← environment, repository := ← repositoryOf cwd.parts, terminal }

end Workflow.Disk

open Workflow in
def main (arguments : List String) : IO UInt32 := do
  let here ← Disk.surroundings
  let tree ← Disk.snapshot here (Request.read arguments)
  let ending := runCommandLine here arguments tree
  Disk.store tree ending.progress.tree
  ending.progress.messages.forM Disk.print
  (← IO.getStdout).putStr ending.progress.output
  return UInt32.ofNat (ending.exitCode % 256).toNat
