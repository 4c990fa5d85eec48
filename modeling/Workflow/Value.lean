import Workflow.Number.Shortest
import Workflow.Text.Quoted
import Workflow.Table

/-!
# Values

The scalars that stages, graphs and run contexts hold. A value has three texts: `text` is how it
is displayed, `plain` is what conditions compare, and `quoted` is how messages show it.
-/

namespace Workflow

inductive Status where
  | success
  | fail
  | partialSuccess
  | retry
  deriving DecidableEq, Repr

def Status.word : Status → String
  | .success => "success"
  | .fail => "fail"
  | .partialSuccess => "partial_success"
  | .retry => "retry"

/-- The name under which a status is displayed. -/
def Status.label : Status → String
  | .success => "OutcomeStatus.SUCCESS"
  | .fail => "OutcomeStatus.FAIL"
  | .partialSuccess => "OutcomeStatus.PARTIAL_SUCCESS"
  | .retry => "OutcomeStatus.RETRY"

def Status.all : List Status := [.success, .fail, .partialSuccess, .retry]

def Status.ofWord? (word : String) : Option Status :=
  all.find? (·.word == word)

inductive Value where
  | none
  | bool (b : Bool)
  | int (n : Int)
  | float (x : Binary64)
  | str (s : String)
  | status (s : Status)
  deriving DecidableEq, Repr

/-- A bag of attributes, in order of first writing. -/
abbrev Attrs := Table String Value

namespace Value

instance : Inhabited Value := ⟨.none⟩

def boolText (b : Bool) : String :=
  if b then "True" else "False"

/-- The text of a value. It is given to integers of any length, although beyond 4300 digits
(`Number.digitLimit`) the program refuses to write one. No integer that is read is longer, but a
weight may be. -/
def text : Value → String
  | .none => "None"
  | .bool b => boolText b
  | .int n => toString n
  | .float x => x.text
  | .str s => s
  | .status s => s.label

def plain : Value → String
  | .none => ""
  | .status s => s.word
  | v => v.text

def quoted : Value → String
  | .str s => Text.quote s
  | .status s => "<" ++ s.label ++ ": " ++ Text.quote s.word ++ ">"
  | v => v.text

/-- Whether a value counts as given: everything but nothing, false, zero and the empty text. -/
def isGiven : Value → Bool
  | .none => false
  | .bool b => b
  | .int n => n != 0
  | .float x => !x.isZero
  | .str s => s != ""
  | .status _ => true

def string? : Value → Option String
  | .str s => some s
  | .status s => some s.word
  | _ => Option.none

def orElse (v : Value) (replacement : Value) : Value :=
  if v.isGiven then v else replacement

end Value

def Table.attr (attrs : Attrs) (name : String) : Value :=
  (attrs.get? name).getD .none

end Workflow
