import Workflow.Source.Token
import Workflow.Number.Decimal
import Workflow.Value

/-!
# The node tree of a workflow file

A node is a word, followed on its line by arguments and by properties `key=value`, and possibly by
a block of child nodes. Blocks nest at most `nestingLimit` deep. The readers recurse on the
nesting that is still allowed and give back the rest of the tokens with a bound on its length.
-/

namespace Workflow.Source

open Workflow.Text

structure Node where
  name : String
  place : Place
  args : List Value
  props : Attrs
  children : List Node
  deriving Repr

/-- Why tokens make up no tree. The end of the input is the token `none`. -/
inductive GrammarFault where
  | expectedWord (found : Option Token)
  | expectedValue (found : Option Token)
  | unexpectedEnd
  | unexpectedClosing
  | nestedTooDeeply
  deriving DecidableEq, Repr

def describeToken : Option Token → String
  | some token => token.kind.name ++ " (" ++ quote token.value ++ ")"
  | none => "EOF (" ++ quote "" ++ ")"

def GrammarFault.message : GrammarFault → String
  | .expectedWord found => "Expected IDENT but got " ++ describeToken found
  | .expectedValue found => "Expected a value but got " ++ describeToken found
  | .unexpectedEnd => "Unexpected end of input, expected '\x7d'"
  | .unexpectedClosing => "Unexpected '\x7d'"
  | .nestedTooDeeply => "Blocks nested too deeply"

inductive TreeError where
  | grammar (fault : GrammarFault) (found : Option Token)
  | tooManyDigits (count : Nat)
  deriving DecidableEq, Repr

def nestingLimit : Nat := 64

namespace Node

/-- The value of a numeral; a point makes it a binary number. -/
def readNumber (text : String) : Except TreeError Value :=
  let cs := text.toList
  if cs.contains '.' then .ok (.float (Number.ofPointed cs))
  else
    let count := (Number.splitSign cs).2.length
    if Number.digitLimit < count then .error (.tooManyDigits count)
    else .ok (.int (Number.ofNumeral cs))

def readValue (t : Token) : Except TreeError Value :=
  match t.kind with
  | .string | .word => .ok (.str t.value)
  | .number => readNumber t.value
  | .boolean => .ok (.bool (t.value == "true"))
  | _ => .error (.grammar (.expectedValue (some t)) (some t))

def endsLine (t : Token) : Bool :=
  t.kind = .newline || t.kind = .opening || t.kind = .closing

/-- The result of reading from `ts`: a value and a rest that is not longer. -/
abbrev Reading (α : Type) (ts : List Token) :=
  Except TreeError (α × { rest : List Token // rest.length ≤ ts.length })

def readItems (args : List Value) (props : Attrs) (ts : List Token) :
    Reading (List Value × Attrs) ts :=
  match ts with
  | [] => .ok ((args.reverse, props), ⟨[], Nat.le_refl _⟩)
  | t :: rest =>
    if endsLine t then .ok ((args.reverse, props), ⟨t :: rest, Nat.le_refl _⟩)
    else
      match rest with
      | e :: values =>
        if t.kind = .word ∧ e.kind = .equals then
          match values with
          | [] => .error (.grammar (.expectedValue none) none)
          | v :: rest => do
            let value ← readValue v
            let (items, ⟨rest', h⟩) ← readItems args (props.insert t.value value) rest
            .ok (items, ⟨rest', by simp only [List.length_cons]; omega⟩)
        else do
          let value ← readValue t
          let (items, ⟨rest', h⟩) ← readItems (value :: args) props (e :: values)
          .ok (items, ⟨rest', Nat.le_succ_of_le h⟩)
      | [] => do
        let value ← readValue t
        .ok (((value :: args).reverse, props), ⟨[], Nat.zero_le _⟩)
termination_by ts.length

/-- Reads nodes up to the end of the input or, in a block, past its closing brace. -/
def readNodes (inBlock : Bool)
    (readNode : (t : Token) → (ts : List Token) → Reading Node ts) (ts : List Token) :
    Reading (List Node) ts :=
  match ts with
  | [] =>
    if inBlock then .error (.grammar .unexpectedEnd none) else .ok ([], ⟨[], Nat.le_refl _⟩)
  | t :: rest =>
    if t.kind = .newline then do
      let (nodes, ⟨rest', h⟩) ← readNodes inBlock readNode rest
      .ok (nodes, ⟨rest', Nat.le_succ_of_le h⟩)
    else if t.kind = .closing then
      if inBlock then .ok ([], ⟨rest, Nat.le_succ _⟩)
      else .error (.grammar .unexpectedClosing (some t))
    else do
      let (node, ⟨rest₁, h₁⟩) ← readNode t rest
      let (nodes, ⟨rest₂, h₂⟩) ← readNodes inBlock readNode rest₁
      .ok (node :: nodes, ⟨rest₂, by simp only [List.length_cons]; omega⟩)
termination_by ts.length
decreasing_by all_goals simp only [List.length_cons]; omega

def readNode (depth : Nat) (t : Token) (ts : List Token) : Reading Node ts := do
  if t.kind ≠ .word then .error (.grammar (.expectedWord (some t)) (some t))
  match ← readItems [] Table.empty ts with
  | ((args, props), ⟨[], _⟩) =>
    .ok (⟨t.value, t.place, args, props, []⟩, ⟨[], Nat.zero_le _⟩)
  | ((args, props), ⟨b :: block, h⟩) =>
    if b.kind = .opening then
      match depth with
      | 0 => .error (.grammar .nestedTooDeeply (some b))
      | depth + 1 => do
        let (children, ⟨rest, hRest⟩) ← readNodes true (readNode depth) block
        .ok (⟨t.value, t.place, args, props, children⟩,
          ⟨rest, Nat.le_trans hRest (Nat.le_of_lt h)⟩)
    else .ok (⟨t.value, t.place, args, props, []⟩, ⟨b :: block, h⟩)

def ofTokens (ts : List Token) : Except TreeError (List Node) :=
  (readNodes false (readNode nestingLimit) ts).map (·.1)

end Node

end Workflow.Source
