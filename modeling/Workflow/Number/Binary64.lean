/-!
# Binary floating point numbers of 64 bits

A number is its word of 64 bits. All arithmetic is exact and then rounded once, to the nearest
representable number and to the even one of two equally near, by `Binary64.ofRatio`.
-/

namespace Workflow

/-- The word holds a sign bit, eleven bits of exponent and 52 bits of fraction. -/
structure Binary64 where
  bits : UInt64
  deriving DecidableEq, Repr

namespace Binary64

/-- What a word stands for: `significand * 2 ^ exponent` with a sign when it is finite. -/
inductive View where
  | nan
  | infinite (negative : Bool)
  | finite (negative : Bool) (significand : Nat) (exponent : Int)
  deriving DecidableEq, Repr

def fractionSize : Nat := Nat.pow 2 52

def signSize : Nat := Nat.pow 2 63

def leastExponent : Int := -1074

def infinityWord : Nat := 2047 * fractionSize

def view (x : Binary64) : View :=
  let word := x.bits.toNat
  let negative := decide (signSize ≤ word)
  let magnitude := word % signSize
  let fraction := magnitude % fractionSize
  let biased := magnitude / fractionSize
  if biased = 2047 then
    if fraction = 0 then .infinite negative else .nan
  else if biased = 0 then .finite negative fraction leastExponent
  else .finite negative (fractionSize + fraction) ((biased : Int) - 1075)

def ofWord (negative : Bool) (magnitude : Nat) : Binary64 :=
  ⟨UInt64.ofNat (magnitude + if negative then signSize else 0)⟩

def nan : Binary64 := ⟨UInt64.ofNat (infinityWord + Nat.pow 2 51)⟩

def infinity (negative : Bool) : Binary64 := ofWord negative infinityWord

/-- The integer nearest to `num / den`, and the even one of two equally near. -/
def roundDiv (num den : Nat) : Nat :=
  let quotient := num / den
  let twice := 2 * (num % den)
  if twice < den then quotient
  else if den < twice then quotient + 1
  else quotient + quotient % 2

/-- The ratio `num / den` divided by `2 ^ exponent`, again as a ratio. -/
def scaleDown (num den : Nat) (exponent : Int) : Nat × Nat :=
  (num * Nat.pow 2 (-exponent).toNat, den * Nat.pow 2 exponent.toNat)

/-- The greatest `k` with `2 ^ k ≤ num / den`, for positive `num` and `den`. -/
def floorLog (num den : Nat) : Int :=
  let k : Int := (num.log2 : Int) - den.log2
  let scaled := scaleDown num den k
  if scaled.2 ≤ scaled.1 then k else k - 1

/-- The number nearest to `num / den`, for a positive `den`. -/
def ofRatio (negative : Bool) (num den : Nat) : Binary64 :=
  if num = 0 then ofWord negative 0
  else
    let exponent := max leastExponent (floorLog num den - 52)
    let scaled := scaleDown num den exponent
    let word := (exponent - leastExponent).toNat * fractionSize + roundDiv scaled.1 scaled.2
    if infinityWord ≤ word then infinity negative else ofWord negative word

/-- The number nearest to an integer, unless that is beyond the finite numbers. -/
def ofInt? (n : Int) : Option Binary64 :=
  let x := ofRatio (n < 0) n.natAbs 1
  match x.view with
  | .infinite _ => none
  | _ => some x

def ofScaled (n : Int) (exponent : Int) : Binary64 :=
  ofRatio (n < 0) (n.natAbs * Nat.pow 2 exponent.toNat) (Nat.pow 2 (-exponent).toNat)

def signed (negative : Bool) (n : Nat) : Int :=
  if negative then -n else n

def isZero (x : Binary64) : Bool :=
  match x.view with
  | .finite _ m _ => m == 0
  | _ => false

def mul (x y : Binary64) : Binary64 :=
  match x.view, y.view with
  | .nan, _ | _, .nan => nan
  | .infinite s, .infinite t => infinity (s != t)
  | .infinite s, .finite t m _ => if m = 0 then nan else infinity (s != t)
  | .finite s m _, .infinite t => if m = 0 then nan else infinity (s != t)
  | .finite s m e, .finite t n f =>
    if m * n = 0 then ofWord (s != t) 0
    else ofScaled (signed (s != t) (m * n)) (e + f)

def add (x y : Binary64) : Binary64 :=
  match x.view, y.view with
  | .nan, _ | _, .nan => nan
  | .infinite s, .infinite t => if s = t then infinity s else nan
  | .infinite s, .finite .. => infinity s
  | .finite .., .infinite t => infinity t
  | .finite s m e, .finite t n f =>
    if m = 0 ∧ n = 0 then ofWord (s && t) 0
    else
      let low := min e f
      ofScaled (signed s m * Int.pow 2 (e - low).toNat + signed t n * Int.pow 2 (f - low).toNat) low

def truncate? (x : Binary64) : Option Int :=
  match x.view with
  | .finite negative m e => some (signed negative (m * Nat.pow 2 e.toNat / Nat.pow 2 (-e).toNat))
  | _ => none

def isInt (x : Binary64) (n : Int) : Bool :=
  match x.view with
  | .finite negative m e =>
    signed negative (m * Nat.pow 2 e.toNat) == n * Int.pow 2 (-e).toNat
  | _ => false

end Binary64

end Workflow
