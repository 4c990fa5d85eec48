import Workflow.Number.Binary64
import Workflow.Text.Numeral
import Workflow.Text.Blank

/-!
# Reading numbers

Numbers are read from text with blanks around them, decimal digits of any script, and single
underscores between two digits.
-/

namespace Workflow.Number

open Workflow.Text

def ofDigits (digits : List Char) : Nat :=
  digits.foldl (fun n c => 10 * n + (c.toNat - 48)) 0

/-- An integer is read from at most this many digits. -/
def digitLimit : Nat := 4300

/-- What is said of an integer beyond that limit, with its number of digits where it was read. -/
def limitMessage (count : Option Nat) : String :=
  let found := match count with
    | some count => s!": value has {count} digits"
    | none => ""
  s!"Exceeds the limit ({digitLimit} digits) for integer string conversion" ++ found ++
    "; use sys.set_int_max_str_digits() to increase the limit"

/-- The blanks that may surround a number: all but the information separators. -/
def isNumberBlank (c : Char) : Bool :=
  isBlank c && !(0x1C ≤ c.toNat && c.toNat ≤ 0x1F)

/-- A decimal digit of another script becomes the ASCII digit of its value. -/
def asciiDigit (c : Char) : Char :=
  match decimalValue? c with
  | some d => Char.ofNat (48 + d)
  | none => c

/-- Drops underscores, each of which has to stand between two digits. The first argument tells
whether a digit came before. -/
def joinDigits (afterDigit : Bool) : List Char → Option (List Char)
  | [] => some []
  | '_' :: d :: cs =>
    if afterDigit && d.isDigit then (joinDigits true cs).map (d :: ·) else none
  | '_' :: [] => none
  | c :: cs => (joinDigits c.isDigit cs).map (c :: ·)

def numberChars (s : String) : Option (List Char) :=
  joinDigits false ((dropEnd isNumberBlank (s.toList.dropWhile isNumberBlank)).map asciiDigit)

def splitSign : List Char → Bool × List Char
  | '-' :: cs => (true, cs)
  | '+' :: cs => (false, cs)
  | cs => (false, cs)

def ofNumeral (cs : List Char) : Int :=
  let signed := splitSign cs
  Binary64.signed signed.1 (ofDigits signed.2)

def readInt? (s : String) : Option Int := do
  let signed := splitSign (← numberChars s)
  let digits := signed.2
  if digits.isEmpty || !digits.all Char.isDigit || digitLimit < digits.length then none
  else some (Binary64.signed signed.1 (ofDigits digits))

/-- The number nearest to `significand * 10 ^ power`. Powers far outside the range are not worked
out: they round to zero or to infinity. -/
def decimal (negative : Bool) (significand : Nat) (power : Int) : Binary64 :=
  if significand = 0 then Binary64.ofWord negative 0
  else
    let size : Int := (Nat.toDigits 10 significand).length + power
    if 400 < size then Binary64.infinity negative
    else if size < -400 then Binary64.ofWord negative 0
    else
      Binary64.ofRatio negative (significand * Nat.pow 10 power.toNat) (Nat.pow 10 (-power).toNat)

def ofPointed (cs : List Char) : Binary64 :=
  let signed := splitSign cs
  let whole := signed.2.span Char.isDigit
  let fraction := whole.2.drop 1
  decimal signed.1 (ofDigits (whole.1 ++ fraction)) (-fraction.length)

def readExponent? : List Char → Option Int
  | [] => some 0
  | c :: cs =>
    if c == 'e' || c == 'E' then
      let signed := splitSign cs
      if signed.2.isEmpty || !signed.2.all Char.isDigit then none
      else some (Binary64.signed signed.1 (ofDigits signed.2))
    else none

def fractionPart : List Char → List Char × List Char
  | '.' :: cs => cs.span Char.isDigit
  | cs => ([], cs)

def readMagnitude? (negative : Bool) (cs : List Char) : Option Binary64 := do
  let word := String.ofList (cs.map Char.toLower)
  if word = "inf" ∨ word = "infinity" then some (Binary64.infinity negative)
  else if word = "nan" then some Binary64.nan
  else
    let whole := cs.span Char.isDigit
    let fraction := fractionPart whole.2
    let digits := whole.1 ++ fraction.1
    if digits.isEmpty then none
    else
      let power ← readExponent? fraction.2
      some (decimal negative (ofDigits digits) (power - fraction.1.length))

def readBinary64? (s : String) : Option Binary64 := do
  let signed := splitSign (← numberChars s)
  readMagnitude? signed.1 signed.2

end Workflow.Number
