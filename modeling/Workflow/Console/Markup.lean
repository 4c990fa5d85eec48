import Workflow.Console.Emoji.Basic

/-!
# Markup

Texts for the console are written in markup: a tag is a bracket, one of the letters `a` to `z` or
one of `#`, `/` and `@`, and what follows up to the closing bracket without another opening one.
A tag behind an odd number of backslashes is text. `escape` writes a text so that it has no tags,
and `shown` is what the console shows of a text in markup.

Markup belongs to the outer layer of the program: it is that of the library behind the console, and
no theorem is about it.
-/

namespace Workflow.Console.Markup

def beginsTag (c : Char) : Bool :=
  ('a' ≤ c && c ≤ 'z') || c = '#' || c = '/' || c = '@'

/-- Whether an opening bracket, of which only what follows is given, begins a tag. -/
def isTag (cs : List Char) : Bool :=
  match cs with
  | [] => false
  | c :: rest => beginsTag c && (rest.takeWhile (· ≠ '[')).contains ']'

def backslashes (count : Nat) : List Char :=
  List.replicate count '\\'

/-- Escapes a text that continues some backslashes. A single one at the end is doubled too. -/
def escapeFrom (count : Nat) : List Char → List Char
  | [] => backslashes (if count = 1 then 2 else count)
  | '\\' :: cs => escapeFrom (count + 1) cs
  | '[' :: cs =>
    backslashes (if isTag cs then 2 * count + 1 else count) ++ '[' :: escapeFrom 0 cs
  | c :: cs => backslashes count ++ c :: escapeFrom 0 cs

def escape (text : String) : String :=
  String.ofList (escapeFrom 0 text.toList)

inductive Mode where
  | text
  | tag
  | escaped
  deriving DecidableEq, Repr

def extend (cs : List Char) : List (List Char) → List (List Char)
  | [] => [cs]
  | piece :: pieces => (cs ++ piece) :: pieces

/-- The pieces of a text that continues some backslashes. Tags end a piece and are left out; a tag
that is text is a piece of its own. -/
def piecesFrom (mode : Mode) (count : Nat) : List Char → List (List Char)
  | [] => [backslashes count]
  | c :: cs =>
    match mode with
    | .tag => if c = ']' then piecesFrom .text 0 cs else piecesFrom .tag 0 cs
    | .escaped =>
      extend [c] (if c = ']' then [] :: piecesFrom .text 0 cs else piecesFrom .escaped 0 cs)
    | .text =>
      if c = '\\' then piecesFrom .text (count + 1) cs
      else if c = '[' then
        if isTag cs then
          [] :: backslashes (count / 2) ::
            if count % 2 = 0 then piecesFrom .tag 0 cs
            else extend ['['] (piecesFrom .escaped 0 cs)
        else extend (backslashes (count - 1) ++ ['[']) (piecesFrom .text 0 cs)
      else extend (backslashes count ++ [c]) (piecesFrom .text 0 cs)

def isHidden (c : Char) : Bool :=
  c = '\x07' || c = '\x08' || c = '\x0b' || c = '\x0c' || c = '\r'

/-- The text that is shown. A code of an emoji lies within one piece. -/
def shown (markup : String) : String :=
  let pieces := piecesFrom .text 0 markup.toList
  String.ofList ((pieces.flatMap Emoji.decode).filter fun c => !isHidden c)

def styled (style markup : String) : String :=
  "[" ++ style ++ "]" ++ markup ++ "[/" ++ style ++ "]"

end Workflow.Console.Markup
