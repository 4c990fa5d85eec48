import Workflow.Routing.Token

/-!
# Reading routing expressions

An expression is read from its tokens by recursion on the nesting that is still allowed. Each
reader gives back the rest of the tokens with a proof that it is shorter. `&&` binds tighter than
`||`, both group to the left, and `!` binds tightest.
-/

namespace Workflow.Routing

open Workflow.Text

inductive Expectation where
  | opening
  | closing
  | string
  | operand
  | finish
  | shallow
  | function (name : String)
  | equality
  | plain
  | comparison (subject : Subject)
  | literal
  deriving DecidableEq, Repr

def Expectation.message : Expectation → String
  | .opening => "Expected lparen"
  | .closing => "Expected rparen"
  | .string => "Expected string"
  | .operand => "Unexpected token"
  | .finish => "Unexpected token"
  | .shallow => "Expression nested too deeply"
  | .function name => "Unknown function " ++ quote name
  | .equality => "Expected '=='"
  | .plain => "exists() does not support comparison operators"
  | .comparison subject => subject.word ++ "() requires comparison (== or !=)"
  | .literal => "Expected literal"

/-- Why a text is no expression, or one that cannot be compiled. -/
inductive Fault where
  | empty
  | lexical (fault : LexicalFault)
  | tooManyOperands
  | misplaced (expected : Expectation) (found : Option Token)
  | tooManyGroups (count : Nat)
  deriving DecidableEq, Repr

def operandLimit : Nat := 256

def nestingLimit : Nat := 64

def groupLimit : Nat := 128

structure ExprError where
  fault : Fault
  expression : String
  deriving DecidableEq, Repr

def ExprError.message (e : ExprError) : String :=
  match e.fault with
  | .empty => "Empty expression"
  | .lexical fault => fault.message
  | .tooManyOperands => s!"Expression has more than {operandLimit} operands"
  | .misplaced expected (some token) =>
    expected.message ++ s!" at position {token.position} (found " ++ quote token.value ++ ")"
  | .misplaced expected none =>
    expected.message ++ s!" at position {e.expression.length} (found " ++
      quote "end of expression" ++ ")"
  | .tooManyGroups count =>
    s!"DNF expansion exceeds {groupLimit} clauses ({count}); simplify the expression"

/-- The result of reading from the front of `ts`: a value and the shorter rest. -/
abbrev Reading (α : Type) (ts : List Token) :=
  Except Fault (α × { rest : List Token // rest.length < ts.length })

def misplaced {α : Type} (expected : Expectation) (ts : List Token) : Except Fault α :=
  .error (.misplaced expected ts.head?)

def expect (kind : Token.Kind) (expected : Expectation) (ts : List Token) : Reading Token ts :=
  match ts with
  | t :: rest =>
    if t.kind = kind then .ok (t, ⟨rest, Nat.lt_succ_self _⟩) else misplaced expected (t :: rest)
  | [] => misplaced expected []

/-- Reads the operands that follow `first`, each after an operator, and joins them to the left. -/
def chain (kind : Token.Kind) (join : Expr → Expr → Expr)
    (operand : (ts : List Token) → Reading Expr ts) (first : Expr) (ts : List Token) :
    Except Fault (Expr × { rest : List Token // rest.length ≤ ts.length }) :=
  match ts with
  | [] => .ok (first, ⟨[], Nat.le_refl _⟩)
  | t :: ts =>
    if t.kind = kind then do
      let (second, ⟨rest, hRest⟩) ← operand ts
      let (joined, ⟨rest', hRest'⟩) ← chain kind join operand (join first second) rest
      .ok (joined, ⟨rest', by simp only [List.length_cons]; omega⟩)
    else .ok (first, ⟨t :: ts, Nat.le_refl _⟩)
termination_by ts.length

def joined (kind : Token.Kind) (join : Expr → Expr → Expr)
    (operand : (ts : List Token) → Reading Expr ts) (ts : List Token) : Reading Expr ts := do
  let (first, ⟨rest, hRest⟩) ← operand ts
  let (all, ⟨rest', hRest'⟩) ← chain kind join operand first rest
  .ok (all, ⟨rest', Nat.lt_of_le_of_lt hRest' hRest⟩)

def alternatives (operand : (ts : List Token) → Reading Expr ts) (ts : List Token) :
    Reading Expr ts :=
  joined .or .or (joined .and .and operand) ts

def readLiteralValue (ts : List Token) : Reading String ts :=
  match ts with
  | [] => misplaced .literal []
  | t :: rest =>
    if t.kind = .string ∨ t.kind = .number ∨
        (t.kind = .word ∧ (t.value = "true" ∨ t.value = "false")) then
      .ok (t.value, ⟨rest, Nat.lt_succ_self _⟩)
    else misplaced .literal (t :: rest)

/-- What may follow the parenthesis of a comparison: its relation. -/
def readRelation (subject : Subject) (ts : List Token) : Reading Relation ts :=
  match ts with
  | [] => misplaced (.comparison subject) []
  | t :: rest =>
    if t.kind = .assign then misplaced .equality (t :: rest)
    else if t.kind = .equal then .ok (.equal, ⟨rest, Nat.lt_succ_self _⟩)
    else if t.kind = .differ then .ok (.differ, ⟨rest, Nat.lt_succ_self _⟩)
    else misplaced (.comparison subject) (t :: rest)

/-- A presence test takes no relation. -/
def refuseRelation (ts : List Token) : Except Fault Unit :=
  match ts with
  | [] => .ok ()
  | t :: rest =>
    if t.kind = .assign then misplaced .equality (t :: rest)
    else if t.kind = .equal ∨ t.kind = .differ then misplaced .plain (t :: rest)
    else .ok ()

def readArgument (ts : List Token) : Reading String ts := do
  let (_, ⟨ts₁, h₁⟩) ← expect .opening .opening ts
  let (argument, ⟨ts₂, h₂⟩) ← expect .string .string ts₁
  let (_, ⟨ts₃, h₃⟩) ← expect .closing .closing ts₂
  .ok (argument.value, ⟨ts₃, by omega⟩)

def readComparison (subject : Subject) (ts : List Token) : Reading Expr ts := do
  let (argument, ⟨ts₁, h₁⟩) ← readArgument ts
  let (relation, ⟨ts₂, h₂⟩) ← readRelation subject ts₁
  let (value, ⟨ts₃, h₃⟩) ← readLiteralValue ts₂
  .ok (.compare subject argument relation value, ⟨ts₃, by omega⟩)

def readPresence (ts : List Token) : Reading Expr ts := do
  let (path, rest) ← readArgument ts
  refuseRelation rest.val
  .ok (.present path, rest)

def readWord (t : Token) (rest : List Token) : Reading Expr (t :: rest) :=
  let longer {α : Type} : Reading α rest → Reading α (t :: rest) :=
    Except.map fun read => (read.1, ⟨read.2.val, Nat.lt_succ_of_lt read.2.property⟩)
  if t.value = "true" then .ok (.literal true, ⟨rest, Nat.lt_succ_self _⟩)
  else if t.value = "false" then .ok (.literal false, ⟨rest, Nat.lt_succ_self _⟩)
  else if t.value = "outcome" then longer (readComparison .outcome rest)
  else if t.value = "output" then longer (readComparison .output rest)
  else if t.value = "exists" then longer (readPresence rest)
  else misplaced (.function t.value) (t :: rest)

/-- Reads an operand within which negations and parentheses may nest `depth` levels deep. -/
def readOperand (depth : Nat) (ts : List Token) : Reading Expr ts :=
  match ts with
  | [] => misplaced .operand []
  | t :: rest =>
    if t.kind = .not then
      match depth with
      | 0 => misplaced .shallow rest
      | depth + 1 => do
        let (operand, ⟨rest', hRest⟩) ← readOperand depth rest
        .ok (.not operand, ⟨rest', Nat.lt_succ_of_lt hRest⟩)
    else if t.kind = .opening then
      match depth with
      | 0 => misplaced .shallow rest
      | depth + 1 => do
        let (inner, ⟨ts₁, h₁⟩) ← alternatives (readOperand depth) rest
        let (_, ⟨ts₂, h₂⟩) ← expect .closing .closing ts₁
        .ok (inner, ⟨ts₂, by simp only [List.length_cons]; omega⟩)
    else if t.kind = .word then readWord t rest
    else misplaced .operand (t :: rest)

def Token.joins (t : Token) : Bool :=
  t.kind = .and || t.kind = .or

def Expr.ofTokens (ts : List Token) : Except Fault Expr :=
  if operandLimit ≤ ts.countP Token.joins then .error .tooManyOperands
  else do
    let (e, ⟨rest, _⟩) ← alternatives (readOperand nestingLimit) ts
    if rest.isEmpty then .ok e else misplaced .finish rest

def Expr.read (text : String) : Except Fault Expr :=
  if allBlank text then .error .empty
  else match Token.scan text with
    | .error fault => .error (.lexical fault)
    | .ok tokens => ofTokens tokens

def Expr.parse (text : String) : Except ExprError Expr :=
  (Expr.read text).mapError fun fault => ⟨fault, text⟩

end Workflow.Routing
