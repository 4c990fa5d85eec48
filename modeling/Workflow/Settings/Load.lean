import Workflow.Files.Text
import Workflow.Settings.Basic
import Workflow.Toml.Reader

/-!
# Loading settings

Settings are read from a file that is given, which must be there, or else from the one of the
project, which may be missing.
-/

namespace Workflow

inductive SettingsError where
  | notFound (path : Path)
  | unreadable (e : FileError)
  | malformed (path : Path)
  | invalid (path : Path)
  | unknownUser
  | tooManyDigits (count : Nat)
  | tooDeep
  | inaccessible (e : FileError)
  | undecodable (fault : Text.Utf8.Fault)
  deriving DecidableEq, Repr

def SettingsError.message : SettingsError → String
  | .notFound path => "Config file not found: " ++ path.text
  | .unreadable e => "Cannot read config file " ++ e.path.text ++ ": " ++ e.message
  | .malformed path => "Invalid TOML in " ++ path.text
  | .invalid path => "Invalid configuration in " ++ path.text
  | .unknownUser => "Could not determine home directory."
  | .tooManyDigits count => Number.limitMessage (some count)
  | .tooDeep => "maximum recursion depth exceeded"
  | .inaccessible e => e.message
  | .undecodable fault => fault.message

namespace Settings

def place : List String := [".attractor", "config.toml"]

/-- The file with the settings of a project. -/
def fileOf (project : Path) : Path :=
  { project with parts := project.parts ++ place }

/-- The fields of the settings file at a path, none if it is not there. -/
def readFile (tree : FileTree) (cwd path : Path) : Except SettingsError Toml.Fields := do
  if ← (tree.isFile cwd path).mapError .inaccessible then
    let bytes ← (tree.readBytes cwd path).mapError .unreadable
    let cs ← (Text.Utf8.decode bytes).mapError .undecodable
    (Toml.read (String.ofList cs)).mapError fun
      | .tooManyDigits count => .tooManyDigits count
      | .tooDeep => .tooDeep
      | _ => .malformed path
  else .ok []

def loadFrom (tree : FileTree) (cwd : Path) (env : Environment) (path : Path) :
    Except SettingsError Settings := do
  let fields ← readFile tree cwd path
  (ofDocument env fields).mapError fun
    | .unknownUser => .unknownUser
    | .invalid => .invalid path

def load (tree : FileTree) (cwd : Path) (env : Environment) (given : Option Path)
    (project : Path) : Except SettingsError Settings := do
  match given with
  | some path =>
    if ← (tree.isFile cwd path).mapError .inaccessible then loadFrom tree cwd env path
    else .error (.notFound path)
  | none => loadFrom tree cwd env (fileOf project)

def initialText : String :=
  "# Attractor configuration\n\n[general]\n# " ++
    " | ".intercalate (LogLevel.all.map LogLevel.word) ++
    "\nlog_level = \"INFO\"\n# log_file = \".attractor/attractor.log\"\n\n[discovery]\n" ++
    "# Global workflows live in <home_dir>/.attractor/workflows\n# home_dir = \"~\"\n" ++
    "# Repo workflows live in <repo_root>/.attractor/workflows\n" ++
    "# repo_root = \"/path/to/repo\"\n"

end Settings

end Workflow
