import Workflow.Text.Literal
import Workflow.Text.Numeral
import Workflow.Text.Quoted
import Workflow.Source.Place

/-!
# Tokens of workflow files

Between tokens stand spaces, tabs, carriage returns and comments. A line feed or a semicolon is a
token of its own, since it ends a node. `Token.scan` finds the tokens of a source text, or the
first place where there is none.
-/

namespace Workflow.Source

open Workflow.Text

inductive Token.Kind where
  | word
  | string
  | number
  | boolean
  | opening
  | closing
  | equals
  | newline
  deriving DecidableEq, Repr

def Token.Kind.name : Token.Kind → String
  | .word => "IDENT"
  | .string => "STRING"
  | .number => "NUMBER"
  | .boolean => "BOOLEAN"
  | .opening => "LBRACE"
  | .closing => "RBRACE"
  | .equals => "EQUALS"
  | .newline => "NEWLINE"

structure Token where
  kind : Token.Kind
  value : String
  place : Place
  deriving DecidableEq, Repr

inductive LexicalFault where
  | unterminatedComment
  | unterminatedString
  | invalidNumber (text : String)
  | unexpectedChar (c : Char)
  deriving DecidableEq, Repr

def LexicalFault.message : LexicalFault → String
  | .unterminatedComment => "Unterminated block comment"
  | .unterminatedString => "Unterminated string"
  | .invalidNumber text => "Invalid number " ++ quote text
  | .unexpectedChar c => "Unexpected character " ++ quote (String.singleton c)

namespace Token

/-- The length of a block comment whose opening is past, with its closing. -/
def commentLength? : List Char → Option Nat
  | [] => none
  | '*' :: '/' :: _ => some 2
  | _ :: cs => (commentLength? cs).map (· + 1)

/-- What stands at the front of a text, with the number of characters after its first one. -/
inductive Front where
  | gap (more : Nat)
  | token (kind : Kind) (value : List Char) (more : Nat)
  | fault (fault : LexicalFault)

def isWordRest (c : Char) : Bool :=
  isAlphanumeric c || c == '_' || c == '.' || c == '-'

def frontNumber (c : Char) (cs : List Char) : Front :=
  let more := cs.takeWhile fun d => isDigit d || d == '.'
  let digits := if c == '-' then more else c :: more
  if isDecimalText digits then .token .number (c :: more) more.length
  else .fault (.invalidNumber (String.ofList (c :: more)))

def frontWord (c : Char) (cs : List Char) : Front :=
  let text := c :: cs.takeWhile isWordRest
  let kind := if String.ofList text = "true" ∨ String.ofList text = "false" then .boolean else .word
  .token kind text (text.length - 1)

def front (c : Char) (cs : List Char) : Front :=
  match c, cs with
  | '/', '/' :: cs => .gap (1 + (cs.takeWhile (· ≠ '\n')).length)
  | '/', '*' :: cs =>
    match commentLength? cs with
    | some length => .gap (1 + length)
    | none => .fault .unterminatedComment
  | c, cs =>
    if c == ' ' || c == '\t' || c == '\r' then .gap 0
    else if c == '\n' || c == ';' then .token .newline ['\n'] 0
    else if c == '\x7b' then .token .opening [c] 0
    else if c == '\x7d' then .token .closing [c] 0
    else if c == '=' then .token .equals [c] 0
    else if c == '"' then
      match readLiteral cs with
      | some (text, rest) => .token .string text (cs.length - rest.length)
      | none => .fault .unterminatedString
    else if isDigit c || c == '-' then frontNumber c cs
    else if isLetter c || c == '_' then frontWord c cs
    else .fault (.unexpectedChar c)

/-- The tokens of a text that begins at `place`; `skip` characters belong to what came last. -/
def scanFrom (place : Place) : Nat → List Char → Except (LexicalFault × Place) (List Token)
  | _, [] => .ok []
  | skip + 1, c :: cs => scanFrom (place.next c) skip cs
  | 0, c :: cs =>
    match front c cs with
    | .gap more => scanFrom (place.next c) more cs
    | .token kind value more => do
      let tokens ← scanFrom (place.next c) more cs
      .ok (⟨kind, String.ofList value, place⟩ :: tokens)
    | .fault fault => .error (fault, place)

def scan (source : String) : Except (LexicalFault × Place) (List Token) :=
  scanFrom .start 0 source.toList

end Token

end Workflow.Source
