import Workflow.Text.Uppercase

/-!
# Levels of the journal

A level is a number; five of them have a name that settings may use. Any text is understood as a
level when a journal is opened: a text that names none counts as `INFO`.
-/

namespace Workflow

inductive LogLevel where
  | debug
  | info
  | warning
  | error
  | critical
  deriving DecidableEq, Repr

namespace LogLevel

def all : List LogLevel := [.debug, .info, .warning, .error, .critical]

def word : LogLevel → String
  | .debug => "DEBUG"
  | .info => "INFO"
  | .warning => "WARNING"
  | .error => "ERROR"
  | .critical => "CRITICAL"

def number : LogLevel → Int
  | .debug => 10
  | .info => 20
  | .warning => 30
  | .error => 40
  | .critical => 50

def ofWord? (word : String) : Option LogLevel :=
  all.find? (·.word == word)

theorem ofWord?_word (level : LogLevel) : ofWord? level.word = some level := by
  cases level <;> decide

/-- The other words for levels, with their numbers. -/
def otherWords : List (String × Int) := [("WARN", 30), ("FATAL", 50), ("NOTSET", 0)]

/-- The number that a text in any letter case stands for. -/
def numberOf (text : String) : Int :=
  let word := Text.upper text
  match ofWord? word with
  | some level => level.number
  | none => (otherWords.lookup word).getD info.number

/-- The name of a level in a line of the journal. -/
def label (number : Int) : String :=
  match all.find? (·.number == number) with
  | some level => level.word
  | none => s!"Level {number}"

end LogLevel

end Workflow
