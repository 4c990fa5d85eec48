import Workflow.Console.Markup

/-!
# Messages on the console

What a command shows is a line, a table or a panel, each of them on one of two streams. Their texts
are given in markup and kept as they are shown. They belong to the outer layer of the program, and
no theorem is about them.
-/

namespace Workflow.Console

inductive Stream where
  | out
  | err
  deriving DecidableEq, Repr

inductive Message where
  | line (stream : Stream) (text : String)
  | table (stream : Stream) (title : String) (columns : List String) (rows : List (List String))
  | panel (stream : Stream) (title text : String)
  deriving DecidableEq, Repr

namespace Message

open Markup

def ofMarkup (stream : Stream) (markup : String) : Message :=
  .line stream (shown markup)

/-- A text in a style of its own. -/
def inStyle (stream : Stream) (style text : String) : Message :=
  ofMarkup stream (styled style (escape text))

def ofRows (title : String) (columns : List String) (rows : List (List String)) : Message :=
  .table .out title columns (rows.map fun row => row.map fun cell => shown (escape cell))

def ofPanel (title text : String) : Message :=
  .panel .err title (shown (styled "bold red" (escape text)))

end Message

end Workflow.Console
