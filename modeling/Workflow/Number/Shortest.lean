import Workflow.Number.Binary64

/-!
# The shortest decimal of a binary number

A finite number is written with the fewest digits that read back as it, the nearest such decimal,
and the even one of two equally near. The exponents from -4 to 15 are written positionally, with
at least one digit after the point; all others with an exponent of a sign and two digits or more.
-/

namespace Workflow.Binary64

def ratio (significand : Nat) (exponent : Int) : Nat × Nat :=
  (significand * Nat.pow 2 exponent.toNat, Nat.pow 2 (-exponent).toNat)

/-- The ends of the interval of reals that round to a number, both over `4 * 2 ^ exponent`. -/
def interval (significand : Nat) (exponent : Int) : Nat × Nat :=
  let below := if significand = fractionSize ∧ leastExponent < exponent then 1 else 2
  (4 * significand - below, 4 * significand + 2)

/-- Whether `digits * 10 ^ power` rounds to the number; the ends belong to an even number. -/
def readsBack (significand : Nat) (exponent : Int) (digits : Nat) (power : Int) : Bool :=
  let ends := interval significand exponent
  let decimal := (4 * digits * Nat.pow 10 power.toNat) * Nat.pow 2 (-exponent).toNat
  let unit := Nat.pow 10 (-power).toNat * Nat.pow 2 exponent.toNat
  if significand % 2 = 0 then ends.1 * unit ≤ decimal && decimal ≤ ends.2 * unit
  else ends.1 * unit < decimal && decimal < ends.2 * unit

/-- The greatest `k` with `10 ^ k ≤ num / den`, sought downward from `start`. -/
def floorLogTen (num den : Nat) : Nat → Int → Int
  | 0, start => start
  | fuel + 1, start =>
    if den * Nat.pow 10 start.toNat ≤ num * Nat.pow 10 (-start).toNat then start
    else floorLogTen num den fuel (start - 1)

/-- The shortest decimal of at most `17` digits, from `count` digits on, with the leading digit
at `10 ^ top`: its digits and the power of ten of the last one. -/
def shortestFrom (significand : Nat) (exponent top : Int) : Nat → Nat → Nat × Int
  | 0, _ => (0, 0)
  | fuel + 1, count =>
    let power := top + 1 - count
    let value := ratio significand exponent
    let num := value.1 * Nat.pow 10 (-power).toNat
    let den := value.2 * Nat.pow 10 power.toNat
    let low := num / den
    let hitLow := readsBack significand exponent low power
    let hitHigh := readsBack significand exponent (low + 1) power
    if hitLow && hitHigh then (roundDiv num den, power)
    else if hitLow then (low, power)
    else if hitHigh then (low + 1, power)
    else shortestFrom significand exponent top fuel (count + 1)

def dropZeros (digits : List Char) : List Char :=
  (digits.reverse.dropWhile (· == '0')).reverse

def shortest (significand : Nat) (exponent : Int) : List Char × Int :=
  let value := ratio significand exponent
  let guess : Int := (significand.log2 + exponent) * 30103 / 100000 + 1
  let top := floorLogTen value.1 value.2 4 guess
  let found := shortestFrom significand exponent top 17 1
  let digits := Nat.toDigits 10 found.1
  (dropZeros digits, found.2 + digits.length - 1)

def exponentText (power : Int) : List Char :=
  let digits := Nat.toDigits 10 power.natAbs
  (if power < 0 then '-' else '+') :: (List.replicate (2 - digits.length) '0' ++ digits)

/-- The text of the decimal with these digits, whose first digit counts `10 ^ power`. -/
def layout (digits : List Char) (power : Int) : List Char :=
  if -4 ≤ power ∧ power < 16 then
    if power < 0 then
      '0' :: '.' :: (List.replicate (-power - 1).toNat '0' ++ digits)
    else
      let whole := power.toNat + 1
      let rest := digits.drop whole
      digits.take whole ++ List.replicate (whole - digits.length) '0' ++
        '.' :: (if rest.isEmpty then ['0'] else rest)
  else
    match digits with
    | [] => []
    | [d] => d :: 'e' :: exponentText power
    | d :: rest => d :: '.' :: rest ++ 'e' :: exponentText power

def text (x : Binary64) : String :=
  match x.view with
  | .nan => "nan"
  | .infinite negative => if negative then "-inf" else "inf"
  | .finite negative m e =>
    let body := if m = 0 then ['0', '.', '0'] else
      let found := shortest m e
      layout found.1 found.2
    String.ofList (if negative then '-' :: body else body)

end Workflow.Binary64
