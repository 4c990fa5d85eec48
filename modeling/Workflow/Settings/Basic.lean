import Workflow.Journal.Level
import Workflow.Path.Basic
import Workflow.Table
import Workflow.Text.Blank
import Workflow.Toml.Document

/-!
# Settings

Settings are assigned by the fields of a document, at its top or in one of its tables, and by
variables of the environment, which win. An assignment that comes later replaces an earlier one.
-/

namespace Workflow

open Workflow.Text

structure Settings where
  logLevel : LogLevel := .info
  logFile : Option Path := none
  homeDir : Option Path := none
  repoRoot : Option Path := none
  deriving DecidableEq, Repr

structure Environment where
  «variables» : List (String × String) := []
  home : Path
  users : List (String × Path) := []
  deriving DecidableEq, Repr

/-- The home directory in the value of its variable. Without a name in it, that is the root. -/
def Environment.homeOf (text : String) : Path :=
  if text.toList.all (· == '/') then ⟨1, []⟩ else Path.parse text

/-- The path with `~` or `~name` at its front replaced by a home directory, if that is known. -/
def Environment.expand? (env : Environment) (path : Path) : Option Path :=
  match path.parts with
  | [] => some path
  | first :: rest =>
    match path.isAbsolute, first.toList with
    | false, '~' :: user =>
      let home := if user.isEmpty then some env.home else env.users.lookup (String.ofList user)
      home.map fun home => { home with parts := home.parts ++ rest }
    | _, _ => some path

namespace Settings

def names : List String := ["log_level", "log_file", "home_dir", "repo_root"]

/-- The fields of a document and those of its tables, in order. -/
def flatten (fields : Toml.Fields) : List (String × Toml.Value) :=
  fields.flatMap fun field =>
    match field.2 with
    | .table inner => inner
    | _ => [field]

def variablePrefix : String := "ATTRACTOR_"

/-- The setting that a variable is for. The names of settings are ASCII, so only the case of ASCII
letters is ignored. -/
def ofVariable? (word : String) : Option String :=
  if variablePrefix.toList.isPrefixOf word.toList then
    let name := String.ofList ((word.toList.drop variablePrefix.length).map Char.toLower)
    if names.contains name then some name else none
  else none

def overrides (given : List (String × String)) : List (String × Toml.Value) :=
  given.filterMap fun assigned =>
    (ofVariable? assigned.1).map fun name => (name, .string assigned.2)

def assignments (fields : Toml.Fields) (given : List (String × String)) :
    Table String Toml.Value :=
  Table.ofList (flatten fields ++ overrides given)

inductive Fault where
  | invalid
  | unknownUser
  deriving DecidableEq, Repr

def readLevel : Option Toml.Value → Except Fault LogLevel
  | none => .ok .info
  | some (.string text) =>
    let word := upper (trim text)
    match LogLevel.ofWord? (if word = "WARN" then "WARNING" else word) with
    | some level => .ok level
    | none => .error .invalid
  | some _ => .error .invalid

def readPath (env : Environment) : Option Toml.Value → Except Fault (Option Path)
  | none => .ok none
  | some (.string text) =>
    let path := Path.parse text
    match env.expand? path with
    | some path => .ok (some path)
    | none =>
      if (path.parts.head?.getD "").contains '\x00' then .error .invalid else .error .unknownUser
  | some _ => .error .invalid

def isUnknownUser {α : Type} : Except Fault α → Bool
  | .error .unknownUser => true
  | _ => false

/-- The settings that are assigned. A user who is not known outweighs every other fault. -/
def ofAssignments (env : Environment) (assigned : Table String Toml.Value) :
    Except Fault Settings :=
  let level := readLevel (assigned.get? "log_level")
  let path (name : String) := readPath env (assigned.get? name)
  match level, path "log_file", path "home_dir", path "repo_root" with
  | .ok logLevel, .ok logFile, .ok homeDir, .ok repoRoot =>
    .ok { logLevel, logFile, homeDir, repoRoot }
  | _, logFile, homeDir, repoRoot =>
    if [logFile, homeDir, repoRoot].any isUnknownUser then .error .unknownUser
    else .error .invalid

def ofDocument (env : Environment) (fields : Toml.Fields) : Except Fault Settings :=
  ofAssignments env (assignments fields env.variables)

end Settings

end Workflow
