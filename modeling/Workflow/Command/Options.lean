import Workflow.Text.Split

/-!
# Options of the command line

An option is a name behind two dashes, or a letter behind one; letters may share a dash. The value
of an option is joined to it or is the next argument. Two dashes alone end the options. Reading them
belongs to the outer layer of the program: the rules are those of the library for command lines, and
no theorem is about them.
-/

namespace Workflow

open Workflow.Text

structure OptionRule where
  name : String
  letter : Option Char := none
  takesValue : Bool := false
  deriving DecidableEq, Repr

structure GivenOption where
  name : String
  value : String := ""
  deriving DecidableEq, Repr

inductive Misuse where
  | unknownOption (text : String)
  | missingValue (option : String)
  | superfluousValue (option : String)
  | missingArgument
  | extraArgument (argument : String)
  | missingCommand
  /-- A path that no file can have. -/
  | impossiblePath (argument : String)
  | unknownCommand (name : String)
  deriving DecidableEq, Repr

namespace OptionRule

/-- Reads letters that share a dash. The name of an option that still lacks its value comes with
them. -/
def readLetters (rules : List OptionRule) :
    List Char → Except Misuse (List GivenOption × Option String)
  | [] => .ok ([], none)
  | c :: cs =>
    match rules.find? (·.letter == some c) with
    | none => .error (.unknownOption (String.ofList ['-', c]))
    | some rule =>
      if rule.takesValue then
        if cs.isEmpty then .ok ([], some rule.name)
        else .ok ([⟨rule.name, String.ofList cs⟩], none)
      else do
        let (given, open_) ← readLetters rules cs
        .ok (⟨rule.name, ""⟩ :: given, open_)

def readOption (rules : List OptionRule) (argument : String) :
    Except Misuse (List GivenOption × Option String) :=
  let (name, value) := match cut? "=" argument with
    | some (name, value) => (name, some value)
    | none => (argument, none)
  match rules.find? (·.name == name), value with
  | some rule, some value =>
    if rule.takesValue then .ok ([⟨name, value⟩], none) else .error (.superfluousValue name)
  | some rule, none => if rule.takesValue then .ok ([], some name) else .ok ([⟨name, ""⟩], none)
  | none, _ =>
    if ['-', '-'].isPrefixOf argument.toList then .error (.unknownOption name)
    else readLetters rules (argument.toList.drop 1)

def isOption (argument : String) : Bool :=
  ['-'].isPrefixOf argument.toList && argument.length ≠ 1

/-- Reads options and arguments. Unless they may be mixed, the first argument that is no option ends
the options. -/
def read (rules : List OptionRule) (mixed : Bool) :
    List String → Except Misuse (List GivenOption × List String)
  | [] => .ok ([], [])
  | argument :: rest =>
    if argument = "--" then .ok ([], rest)
    else if isOption argument then do
      let (given, open_) ← readOption rules argument
      match open_, rest with
      | none, rest =>
        let (more, arguments) ← read rules mixed rest
        .ok (given ++ more, arguments)
      | some name, value :: rest =>
        let (more, arguments) ← read rules mixed rest
        .ok (given ++ ⟨name, value⟩ :: more, arguments)
      | some name, [] => .error (.missingValue name)
    else if mixed then do
      let (more, arguments) ← read rules mixed rest
      .ok (more, argument :: arguments)
    else .ok ([], argument :: rest)

end OptionRule

def optionValue? (given : List GivenOption) (name : String) : Option String :=
  (given.reverse.find? (·.name == name)).map (·.value)

end Workflow
