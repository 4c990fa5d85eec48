import Workflow.Toml.Document

/-!
# Dates and times of TOML documents

A date has a year of four digits, a month and a day. A time may follow it, with an offset behind
it, or stand alone.
-/

namespace Workflow.Toml

/-- What is read from the front of a text, and the rest of it. -/
abbrev Front (α : Type) := α × List Char

def pair? (low high : Nat) : List Char → Option (Front Nat)
  | c :: d :: rest =>
    let value := 10 * (c.toNat - 48) + (d.toNat - 48)
    if c.isDigit && d.isDigit && decide (low ≤ value) && decide (value ≤ high) then
      some (value, rest)
    else none
  | _ => none

def skip? (c : Char) : List Char → Option (List Char)
  | d :: rest => if d = c then some rest else none
  | [] => none

/-- What follows a time. Its seconds may have a fraction. -/
def afterTime? (cs : List Char) : Option (List Char) := do
  let (_, rest) ← pair? 0 23 cs
  let (_, rest) ← pair? 0 59 (← skip? ':' rest)
  let (_, rest) ← pair? 0 59 (← skip? ':' rest)
  match rest with
  | '.' :: d :: fraction => some (if d.isDigit then fraction.dropWhile Char.isDigit else rest)
  | _ => some rest

def afterSign? (cs : List Char) : Option (List Char) := do
  let (_, rest) ← pair? 0 23 cs
  let (_, rest) ← pair? 0 59 (← skip? ':' rest)
  return rest

def afterOffset (cs : List Char) : List Char :=
  match cs with
  | c :: rest =>
    if c = 'Z' || c = 'z' then rest
    else if c = '+' || c = '-' then (afterSign? rest).getD cs
    else cs
  | [] => []

/-- What follows the time and the offset behind a date, if there are any. -/
def afterClock (cs : List Char) : List Char :=
  match cs with
  | c :: rest =>
    if c = 'T' || c = 't' || c = ' ' then ((afterTime? rest).map afterOffset).getD cs else cs
  | [] => []

def daysOf (year month : Nat) : Nat :=
  if month = 2 then
    if (year % 4 = 0 ∧ year % 100 ≠ 0) ∨ year % 400 = 0 then 29 else 28
  else if month = 4 ∨ month = 6 ∨ month = 9 ∨ month = 11 then 30
  else 31

structure Date where
  year : Nat
  month : Nat
  day : Nat
  deriving DecidableEq, Repr

def Date.isValid (date : Date) : Bool :=
  date.year ≠ 0 && decide (date.day ≤ daysOf date.year date.month)

def date? (cs : List Char) : Option (Front Date) := do
  let (century, rest) ← pair? 0 99 cs
  let (year, rest) ← pair? 0 99 rest
  let (month, rest) ← pair? 1 12 (← skip? '-' rest)
  let (day, rest) ← pair? 1 31 (← skip? '-' rest)
  return (⟨100 * century + year, month, day⟩, rest)

def readMoment? (cs : List Char) : Option (Except Fault (Front Value)) :=
  let upTo (rest : List Char) : Front Value :=
    (.moment (String.ofList (cs.take (cs.length - rest.length))), rest)
  match date? cs with
  | some (date, rest) => some (if date.isValid then .ok (upTo (afterClock rest)) else .error .value)
  | none => (afterTime? cs).map fun rest => .ok (upTo rest)

end Workflow.Toml
