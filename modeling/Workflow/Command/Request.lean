import Workflow.Command.Options
import Workflow.Path.Basic

/-!
# Requests

A command line asks for the version, for help, or for a command. The options before the name of
the command take effect before its own arguments are read, so a request keeps both apart.
-/

namespace Workflow

inductive Command where
  | init (path : Option Path)
  | compile (ref : String) (dot : Bool) (output : Option Path)
  | validate (ref : String)
  | list
  | show (ref : String)
  deriving DecidableEq, Repr

/-- What the arguments of a command ask for. -/
inductive Step where
  | help
  | misuse (fault : Misuse)
  | command (command : Command)
  deriving DecidableEq, Repr

inductive Request where
  | version
  | help
  | misuse (fault : Misuse)
  | run (verbose : Bool) (config : Option Path) (step : Step)
  deriving DecidableEq, Repr

def helpRule : OptionRule := { name := "--help" }

namespace Step

/-- Reads the arguments of a command and makes the command of them unless help is asked for. -/
def read (rules : List OptionRule)
    (make : List GivenOption → List String → Except Misuse Command) (arguments : List String) :
    Step :=
  match OptionRule.read (helpRule :: rules) true arguments with
  | .error fault => .misuse fault
  | .ok (given, rest) =>
    if given.any (·.name == helpRule.name) then .help
    else match make given rest with
      | .ok made => .command made
      | .error fault => .misuse fault

/-- Reads an argument that has to be a path. -/
def readPath (argument : String) : Except Misuse Path :=
  let path := Path.parse argument
  if path.hasNull then .error (.impossiblePath argument) else .ok path

/-- Reads the value of an option that has to be a path, if it is given. -/
def readPath? (given : List GivenOption) (name : String) : Except Misuse (Option Path) :=
  match optionValue? given name with
  | some value => (readPath value).map some
  | none => .ok none

def withoutArgument (command : Command) (arguments : List String) : Except Misuse Command :=
  match arguments with
  | [] => .ok command
  | extra :: _ => .error (.extraArgument extra)

def withArgument (make : String → Command) (arguments : List String) : Except Misuse Command :=
  match arguments with
  | [] => .error .missingArgument
  | [argument] => .ok (make argument)
  | _ :: extra :: _ => .error (.extraArgument extra)

def readInit : List String → Step :=
  read [] fun _ arguments =>
    match arguments with
    | [] => .ok (.init none)
    | [argument] => (readPath argument).map fun path => .init (some path)
    | _ :: extra :: _ => .error (.extraArgument extra)

def compileRules : List OptionRule :=
  [{ name := "--dot" }, { name := "--output", letter := some 'o', takesValue := true }]

def readCompile : List String → Step :=
  read compileRules fun given arguments => do
    let dot := (optionValue? given "--dot").isSome
    let output ← readPath? given "--output"
    withArgument (fun ref => .compile ref dot output) arguments

def readValidate : List String → Step :=
  read [] fun _ => withArgument .validate

def readList : List String → Step :=
  read [] fun _ => withoutArgument .list

def readShow : List String → Step :=
  read [] fun _ => withArgument .show

/-- A reader for the arguments behind the name of each command. -/
abbrev Readers := List (String × (List String → Step))

/-- Reads a group of commands: options of its own, then the name of a command. -/
def readGroup (readers : Readers) (arguments : List String) : Step :=
  let group := OptionRule.read [helpRule] false
  match arguments, group arguments with
  | [], _ => .misuse .missingCommand
  | _, .error fault => .misuse fault
  | _, .ok (given, rest) =>
    if !given.isEmpty then .help
    else match rest with
      | [] => .misuse .missingCommand
      | name :: rest =>
        match readers.lookup name, group (name :: rest) with
        | some read, _ => read rest
        | none, .ok (_ :: _, _) => .help
        | none, _ => .misuse (.unknownCommand name)

def readers : Readers :=
  [("init", readInit), ("compile", readCompile), ("validate", readValidate),
    ("workflows", readGroup [("list", readList), ("show", readShow)])]

end Step

namespace Request

def globalRules : List OptionRule :=
  [helpRule, { name := "--version", letter := some 'V' },
    { name := "--verbose", letter := some 'v' },
    { name := "--config", letter := some 'c', takesValue := true }]

/-- What an option asks for at once, before anything else is looked at. -/
def eager? (given : List GivenOption) : Option Request :=
  given.findSome? fun option =>
    if option.name = "--version" then some .version
    else if option.name = helpRule.name then some .help
    else none

/-- A name that is no command. One that was kept from being an option is read as one after all. -/
def refuse (arguments : List String) (name : String) : Request :=
  match OptionRule.read globalRules false arguments with
  | .error fault => .misuse fault
  | .ok (given, _) => (eager? given).getD (.misuse (.unknownCommand name))

def read (arguments : List String) : Request :=
  match OptionRule.read globalRules false arguments with
  | .error fault => .misuse fault
  | .ok (given, rest) =>
    match eager? given, Step.readPath? given "--config", rest with
    | some request, _, _ => request
    | none, .error fault, _ => .misuse fault
    | none, .ok _, [] => .misuse .missingCommand
    | none, .ok config, name :: rest =>
      match Step.readers.lookup name with
      | none => refuse (name :: rest) name
      | some step => .run (optionValue? given "--verbose").isSome config (step rest)

end Request

end Workflow
