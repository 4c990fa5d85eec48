import Workflow.Text.Quoted

/-!
# Decoding UTF-8

A lead byte says how many bytes follow and between which bounds the first of them lies. Every
later byte is between 0x80 and 0xBF. Decoding stops at the first fault, which is told with the
bytes of the character that was being read.
-/

namespace Workflow.Text.Utf8

inductive Reason where
  | startByte
  | continuation
  | endOfData
  deriving DecidableEq, Repr

/-- Why bytes are no text: the bytes from `start` on, `count` of them, belong to no character. -/
structure Fault where
  first : UInt8
  start : Nat
  count : Nat
  reason : Reason
  deriving DecidableEq, Repr

def Reason.text : Reason → String
  | .startByte => "invalid start byte"
  | .continuation => "invalid continuation byte"
  | .endOfData => "unexpected end of data"

def Fault.message (fault : Fault) : String :=
  let place :=
    if fault.count = 1 then
      "byte 0x" ++ String.ofList (hexDigits 2 fault.first.toNat) ++ s!" in position {fault.start}"
    else s!"bytes in position {fault.start}-{fault.start + fault.count - 1}"
  "'utf-8' codec can't decode " ++ place ++ ": " ++ fault.reason.text

/-- A character of which some bytes are still to come, the next of them between `low` and
`high`. -/
structure Partial where
  first : UInt8
  taken : Nat
  value : Nat
  owed : Nat
  low : UInt8
  high : UInt8
  deriving DecidableEq, Repr

def lead? (b : UInt8) : Option Partial :=
  let begun (value owed : Nat) (low high : UInt8) := some (Partial.mk b 1 value owed low high)
  if b < 0xC2 then none
  else if b < 0xE0 then begun (b.toNat - 0xC0) 1 0x80 0xBF
  else if b < 0xF0 then
    begun (b.toNat - 0xE0) 2 (if b = 0xE0 then 0xA0 else 0x80) (if b = 0xED then 0x9F else 0xBF)
  else if b < 0xF5 then
    begun (b.toNat - 0xF0) 3 (if b = 0xF0 then 0x90 else 0x80) (if b = 0xF4 then 0x8F else 0xBF)
  else none

def Partial.push (p : Partial) (b : UInt8) : Partial :=
  { p with
    taken := p.taken + 1
    value := p.value * 64 + (b.toNat - 0x80)
    owed := p.owed - 1
    low := 0x80
    high := 0xBF }

def Partial.fault (p : Partial) (position : Nat) (reason : Reason) : Fault :=
  ⟨p.first, position - p.taken, p.taken, reason⟩

/-- Decodes the bytes from `position` on, behind the characters `read`, kept in reverse. -/
def decodeFrom (position : Nat) (read : List Char) (current : Option Partial) :
    List UInt8 → Except Fault (List Char)
  | [] =>
    match current with
    | none => .ok read.reverse
    | some p => .error (p.fault position .endOfData)
  | b :: bytes =>
    match current with
    | none =>
      if b < 0x80 then decodeFrom (position + 1) (Char.ofNat b.toNat :: read) none bytes
      else match lead? b with
        | none => .error ⟨b, position, 1, .startByte⟩
        | some p => decodeFrom (position + 1) read (some p) bytes
    | some p =>
      if p.low ≤ b ∧ b ≤ p.high then
        let p := p.push b
        if p.owed = 0 then decodeFrom (position + 1) (Char.ofNat p.value :: read) none bytes
        else decodeFrom (position + 1) read (some p) bytes
      else .error (p.fault position .continuation)

def decode (bytes : List UInt8) : Except Fault (List Char) :=
  decodeFrom 0 [] none bytes

end Workflow.Text.Utf8
