import Workflow.Toml.Scalar

/-!
# Reading TOML

A document is read statement by statement: fields, headers of tables and of items of arrays,
comments and empty lines. Every step of a reader uses up some text; the count that bounds them is
taken from the length of the text.
-/

namespace Workflow.Toml

def isBareKey (c : Char) : Bool :=
  c.isAlphanum || c = '-' || c = '_'

def skipBlanks (cs : List Char) : List Char :=
  cs.dropWhile isBlank

def skipComment (cs : List Char) : Except Fault (List Char) :=
  match cs with
  | '#' :: rest =>
    if (rest.takeWhile (· ≠ '\n')).any isForbidden then .error .comment
    else .ok (rest.dropWhile (· ≠ '\n'))
  | _ => .ok cs

def skipGaps (inComment : Bool) : List Char → Except Fault (List Char)
  | [] => .ok []
  | c :: cs =>
    if c = '\n' then skipGaps false cs
    else if inComment then if isForbidden c then .error .comment else skipGaps true cs
    else if isBlank c then skipGaps false cs
    else if c = '#' then skipGaps true cs
    else .ok (c :: cs)

def readPart (cs : List Char) : Except Fault (Front String) :=
  let named (r : List Char × List Char) := (String.ofList r.1, r.2)
  match cs with
  | '"' :: rest => (readBasic false rest).map named
  | '\'' :: rest => (readLiteral false rest).map named
  | _ =>
    let name := cs.takeWhile isBareKey
    if name.isEmpty then .error .key else .ok (named (name, cs.drop name.length))

def readKey : Nat → List Char → Except Fault (Front Key)
  | 0, _ => .error .key
  | fuel + 1, cs => do
    let (part, rest) ← readPart cs
    match skipBlanks rest with
    | '.' :: rest =>
      let (key, rest) ← readKey fuel (skipBlanks rest)
      .ok (part :: key, rest)
    | rest => .ok ([part], rest)

def readSign (cs : List Char) : Except Fault (List Char) :=
  match cs with
  | '=' :: rest => .ok (skipBlanks rest)
  | _ => .error .key

/-- How deep brackets may nest: an array takes two of it and a table three. -/
def nestingRoom : Nat := 970

mutual

def readValue : Nat → Nat → List Char → Except Fault (Front Value)
  | 0, _, _ => .error .unclosed
  | fuel + 1, room, '[' :: rest =>
    if room < 2 then .error .tooDeep
    else do readItems fuel (room - 2) [] (← skipGaps false rest)
  | fuel + 1, room, '\x7b' :: rest =>
    if room < 3 then .error .tooDeep
    else match skipBlanks rest with
      | '\x7d' :: rest => .ok (.table [], rest)
      | rest => readInline fuel (room - 3) [] [] rest
  | _ + 1, _, cs => readScalar cs

/-- The items of an array from here on, behind the ones read, kept in reverse. -/
def readItems : Nat → Nat → List Value → List Char → Except Fault (Front Value)
  | 0, _, _, _ => .error .unclosed
  | _ + 1, _, items, ']' :: rest => .ok (.array items.reverse, rest)
  | fuel + 1, room, items, cs => do
    let (item, rest) ← readValue fuel room cs
    match ← skipGaps false rest with
    | ']' :: rest => .ok (.array (item :: items).reverse, rest)
    | ',' :: rest => readItems fuel room (item :: items) (← skipGaps false rest)
    | _ => .error .unclosed

def readInline : Nat → Nat → Fields → List Key → List Char → Except Fault (Front Value)
  | 0, _, _, _, _ => .error .unclosed
  | fuel + 1, room, fields, closed, cs => do
    let (key, rest) ← readKey cs.length cs
    let (value, rest) ← readValue fuel room (← readSign rest)
    let (fields, closed) ← addInline fields closed key value
    match skipBlanks rest with
    | '\x7d' :: rest => .ok (.table fields, rest)
    | ',' :: rest => readInline fuel room fields closed (skipBlanks rest)
    | _ => .error .unclosed

end

def readField (draft : Draft) (cs : List Char) : Except Fault (Front Draft) := do
  let (key, rest) ← readKey cs.length cs
  let rest ← readSign rest
  let (value, rest) ← readValue (2 * rest.length + 2) nestingRoom rest
  .ok (← draft.assign key value, rest)

/-- A header, from behind its first bracket. -/
def readHeader (draft : Draft) (cs : List Char) : Except Fault (Front Draft) :=
  let draft := draft.settle
  match cs with
  | '[' :: rest => do
    let (key, rest) ← readKey rest.length (skipBlanks rest)
    match rest with
    | ']' :: ']' :: rest => .ok (← draft.openItem key, rest)
    | _ => .error .unclosed
  | _ => do
    let (key, rest) ← readKey cs.length (skipBlanks cs)
    match rest with
    | ']' :: rest => .ok (← draft.openTable key, rest)
    | _ => .error .unclosed

def readStatement (draft : Draft) (cs : List Char) : Except Fault (Front Draft) :=
  match cs with
  | '[' :: rest => readHeader draft rest
  | c :: _ =>
    if isBareKey c || c = '"' || c = '\'' then readField draft cs
    else if c = '#' || c = '\n' then .ok (draft, cs)
    else .error .statement
  | [] => .ok (draft, [])

def readStatements : Nat → Draft → List Char → Except Fault Draft
  | 0, _, _ => .error .trailing
  | fuel + 1, draft, cs => do
    let (draft, rest) ← readStatement draft (skipBlanks cs)
    match ← skipComment (skipBlanks rest) with
    | [] => .ok draft
    | '\n' :: rest => readStatements fuel draft rest
    | _ => .error .trailing

def joinLineEnds : List Char → List Char
  | '\r' :: '\n' :: cs => '\n' :: joinLineEnds cs
  | c :: cs => c :: joinLineEnds cs
  | [] => []

def read (text : String) : Except Fault Fields :=
  let cs := joinLineEnds text.toList
  (readStatements (cs.length + 1) {} cs).map (·.fields)

end Workflow.Toml
