import Workflow.Catalog.Resolve
import Workflow.Compile
import Workflow.Console.Message
import Workflow.Settings.Load

/-!
# Failures of a command

A command that fails shows what went wrong in a panel, or in a line if it was interrupted, and
ends with an exit code.
-/

namespace Workflow

inductive Failure where
  /-- A refusal with an exit code of its own. -/
  | refused (message : String) (exitCode : Int)
  | misconfigured (message : String)
  | malformed (message : String)
  | invalid (message : String)
  | unresolved (message : String)
  /-- Any other error of the compiler. -/
  | internal (message : String)
  /-- An error that no command foresees, with its kind. -/
  | unexpected (kind message : String)
  | interrupted
  /-- The log file cannot be opened; there is nothing to report it with. -/
  | unlogged (e : FileError)
  deriving DecidableEq, Repr

namespace Failure

open Console

def exitCode : Failure → Int
  | .refused _ code => code
  | .misconfigured _ => 2
  | .interrupted => 130
  | _ => 1

def messages : Failure → List Message
  | .refused message _ => [.ofPanel "Error" message]
  | .misconfigured message => [.ofPanel "Configuration Error" message]
  | .malformed message => [.ofPanel "Parse Error" message]
  | .invalid message => [.ofPanel "Invalid Workflow" message]
  | .unresolved message => [.ofPanel "Workflow Not Found" message]
  | .internal message => [.ofPanel "Error" message]
  | .unexpected kind message => [.ofPanel "Unexpected Error" (kind ++ ": " ++ message)]
  | .interrupted => [.ofMarkup .err ("\n" ++ Markup.styled "yellow" "Interrupted.")]
  | .unlogged _ => []

end Failure

/-! ## Errors as failures -/

def FileError.failure (e : FileError) : Failure :=
  .unexpected e.fault.kind e.message

def Text.Utf8.Fault.failure (fault : Text.Utf8.Fault) : Failure :=
  .unexpected "UnicodeDecodeError" fault.message

def TextError.failure : TextError → Failure
  | .inaccessible e => e.failure
  | .undecodable fault => fault.failure

def ReadError.failure : ReadError → Failure
  | .malformed e => .malformed e.message
  | .tooManyDigits count => .unexpected "ValueError" (ReadError.tooManyDigits count).message

def SourceError.failure : SourceError → Failure
  | .text e => e.failure
  | .definition e => e.failure

def NumberFault.failure : NumberFault → Failure
  | .outOfRange => .unexpected "OverflowError" "int too large to convert to float"
  | .notNumeric => .unexpected "TypeError" "priority must be a number"

def LoweringError.failure : LoweringError → Failure
  | .rejected errors => .invalid (rejectionMessage errors)
  | .expression e => .malformed e.message
  | .weight fault => fault.failure

def CompileError.failure : CompileError → Failure
  | .unreadable e => e.failure
  | .unlowered e => e.failure

def LoadError.failure : LoadError → Failure
  | .text e => e.failure
  | .compile e => e.failure

def ResolveError.failure : ResolveError → Failure
  | .unresolved e => .unresolved e.message
  | .inaccessible e => e.failure

def SettingsError.failure : SettingsError → Failure
  | .inaccessible e => e.failure
  | .undecodable fault => fault.failure
  | .unknownUser => .unexpected "RuntimeError" SettingsError.unknownUser.message
  | .tooManyDigits count => .unexpected "ValueError" (SettingsError.tooManyDigits count).message
  | .tooDeep => .unexpected "RecursionError" SettingsError.tooDeep.message
  | e => .misconfigured e.message

end Workflow
