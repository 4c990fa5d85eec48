import Workflow.Text.Numeral
import Workflow.Text.Blank
import Workflow.Text.Quoted
import Workflow.Routing.Expr

/-!
# Tokens of routing expressions

`Token.scan` cuts a text into tokens, or names the first place where none begins. Positions count
characters from the start of the text.
-/

namespace Workflow.Routing

open Workflow.Text

inductive Token.Kind where
  | opening
  | closing
  | string
  | number
  | word
  | and
  | or
  | not
  | equal
  | differ
  | assign
  deriving DecidableEq, Repr

structure Token where
  kind : Token.Kind
  value : String
  position : Nat
  deriving DecidableEq, Repr

/-- Why a text has no tokens. -/
inductive LexicalFault where
  | unterminatedString (position : Nat)
  | invalidNumber (text : String) (position : Nat)
  | unexpectedChar (c : Char) (position : Nat)
  deriving DecidableEq, Repr

def LexicalFault.message : LexicalFault → String
  | .unterminatedString position => s!"Unterminated string at position {position}"
  | .invalidNumber text position =>
    "Invalid number " ++ quote text ++ s!" at position {position}"
  | .unexpectedChar c position =>
    "Unexpected character " ++ quote (String.singleton c) ++ s!" at position {position}"

namespace Token

/-- What stands at the front of a text, with the number of characters after its first one. -/
inductive Front where
  | blank
  | token (kind : Kind) (value : List Char) (more : Nat)
  | fault (describe : Nat → LexicalFault)

def frontSymbol (c : Char) (cs : List Char) : Front :=
  match c, cs with
  | '&', '&' :: _ => .token .and ['&', '&'] 1
  | '|', '|' :: _ => .token .or ['|', '|'] 1
  | '=', '=' :: _ => .token .equal ['=', '='] 1
  | '!', '=' :: _ => .token .differ ['!', '='] 1
  | '!', _ => .token .not ['!'] 0
  | '=', _ => .token .assign ['='] 0
  | '(', _ => .token .opening ['('] 0
  | ')', _ => .token .closing [')'] 0
  | c, _ => .fault (.unexpectedChar c)

/-- The characters that a backslash before them turns into others. -/
def escapes : List (Char × Char) := [('n', '\n'), ('t', '\t')]

/-- Reads on in a string behind its opening quote: `read` has its characters so far, the last one
first, and `index` counts what is passed. The result counts the closing quote as well. -/
def readString (read : List Char) (index : Nat) : List Char → Option (List Char × Nat)
  | [] => none
  | '"' :: _ => some (read.reverse, index + 1)
  | '\\' :: c :: cs => readString ((escapes.lookup c).getD c :: read) (index + 2) cs
  | c :: cs => readString (c :: read) (index + 1) cs

def front (c : Char) (cs : List Char) : Front :=
  if isBlank c then .blank
  else if c == '"' then
    match readString [] 0 cs with
    | none => .fault .unterminatedString
    | some (text, more) => .token .string text more
  else if isDigit c then
    let more := cs.takeWhile fun d => isDigit d || d == '.'
    if isDecimalText (c :: more) then .token .number (c :: more) more.length
    else .fault (.invalidNumber (String.ofList (c :: more)))
  else if isLetter c || c == '_' then
    let more := cs.takeWhile isWordChar
    .token .word (c :: more) more.length
  else frontSymbol c cs

/-- The tokens of a text that begins at `position`; `skip` characters belong to the last token. -/
def scanFrom (position : Nat) : Nat → List Char → Except LexicalFault (List Token)
  | _, [] => .ok []
  | skip + 1, _ :: cs => scanFrom (position + 1) skip cs
  | 0, c :: cs =>
    match front c cs with
    | .blank => scanFrom (position + 1) 0 cs
    | .token kind value more => do
      let tokens ← scanFrom (position + 1) more cs
      .ok (⟨kind, String.ofList value, position⟩ :: tokens)
    | .fault describe => .error (describe position)

def scan (text : String) : Except LexicalFault (List Token) :=
  scanFrom 0 0 text.toList

end Token

end Workflow.Routing
