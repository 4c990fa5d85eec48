import Workflow.Console.Emoji.Names
import Workflow.Text.Blank
import Workflow.Text.Split

/-!
# Emoji codes

A code is the name of an emoji between two colons. It may end in the way the emoji is to be drawn,
as text or as a picture. Codes are read from left to right; one that names no emoji stays as it is,
and its second colon begins no other. The codes belong to the outer layer of the program: they are
those of the library behind the console, and no theorem is about them.
-/

namespace Workflow.Console.Emoji

open Workflow.Text

def pairs : List String → List (String × String)
  | name :: emoji :: words => (name, emoji) :: pairs words
  | _ => []

def table : List (String × String) :=
  lines.flatMap fun line => pairs (pieces " " line)

/-- The small letter of a capital one, if it is one of the letters that names are made of. The last
two are the signs of a unit. -/
def small (c : Char) : Char :=
  if ('A' ≤ c && c ≤ 'Z') || ('À' ≤ c && c ≤ 'Þ' && c ≠ '×') then Char.ofNat (c.toNat + 32)
  else if c = '\u212a' then 'k'
  else if c = '\u212b' then 'å'
  else c

def styles : List (String × Char) :=
  [("-text", '\ufe0e'), ("-emoji", '\ufe0f')]

def splitStyle (code : List Char) : List Char × List Char :=
  match styles.find? fun style => style.1.toList.isSuffixOf code with
  | some (ending, mark) => (code.take (code.length - ending.length), [mark])
  | none => (code, [])

/-- What stands for a code. The case of its name does not matter. -/
def ofCode? (code : List Char) : Option (List Char) :=
  let (name, marks) := splitStyle code
  (table.lookup (String.ofList (name.map small))).map fun emoji => emoji.toList ++ marks

/-- The code at the front of a text that follows a colon, and what follows its second colon. -/
def code? (cs : List Char) : Option (List Char × List Char) :=
  let code := cs.takeWhile fun c => c ≠ ':' && !isBlank c
  match cs.drop code.length with
  | ':' :: rest => some (code, rest)
  | _ => none

theorem length_lt_of_code? {cs code rest : List Char} (h : code? cs = some (code, rest)) :
    rest.length < cs.length := by
  simp only [code?] at h
  split at h
  · rename_i hDrop
    cases h
    have hLength := congrArg List.length hDrop
    simp only [List.length_drop, List.length_cons] at hLength
    omega
  · cases h

def decode (cs : List Char) : List Char :=
  match cs with
  | [] => []
  | c :: cs =>
    if c = ':' then
      match _h : code? cs with
      | some (code, rest) => (ofCode? code).getD (':' :: code ++ [':']) ++ decode rest
      | none => c :: decode cs
    else c :: decode cs
termination_by cs.length
decreasing_by
  · have := length_lt_of_code? _h
    simp only [List.length_cons]
    omega
  all_goals simp

end Workflow.Console.Emoji
