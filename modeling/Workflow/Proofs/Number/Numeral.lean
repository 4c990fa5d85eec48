import Mathlib.Data.Nat.Digits.Defs
import Workflow.Number.Decimal

/-!
# Integers in decimal

The decimal spelling of an integer is read back as that integer, and the value of a numeral is
bounded by how many digits it has.
-/

namespace Workflow.Number

/-- An integer in decimal, with a minus sign if it is negative. -/
def numeral (n : Int) : List Char :=
  if n < 0 then '-' :: Nat.toDigits 10 n.natAbs else Nat.toDigits 10 n.natAbs

theorem isDigit_of_mem_toDigits {n : Nat} {c : Char} (h : c ∈ Nat.toDigits 10 n) :
    c.isDigit = true :=
  Nat.isDigit_of_mem_toDigits (by decide) (by decide) h

theorem ofDigits_eq_ofDigitChars (cs : List Char) : ofDigits cs = Nat.ofDigitChars 10 cs 0 := by
  rw [Nat.ofDigitChars_eq_foldl]
  rfl

theorem ofDigits_toDigits (n : Nat) : ofDigits (Nat.toDigits 10 n) = n := by
  rw [ofDigits_eq_ofDigitChars, Nat.ofDigitChars_ten_toDigits]

theorem ofDigits_append_zeros (cs : List Char) (n : Nat) :
    ofDigits (cs ++ List.replicate n '0') = ofDigits cs * 10 ^ n := by
  induction n with
  | zero => simp
  | succ n ih =>
    have hLast : ofDigits (cs ++ List.replicate n '0' ++ ['0']) =
        10 * ofDigits (cs ++ List.replicate n '0') := List.foldl_append
    rw [List.replicate_succ', ← List.append_assoc, hLast, ih, Nat.pow_succ', Nat.mul_left_comm]

theorem digitValue_lt {c : Char} (h : c.isDigit = true) : c.toNat - 48 < 10 := by
  simp only [Char.isDigit, Bool.and_eq_true, decide_eq_true_eq] at h
  have hHigh : c.toNat ≤ 57 := h.2
  omega

theorem ofDigits_lt {cs : List Char} (h : ∀ c ∈ cs, c.isDigit = true) :
    ofDigits cs < 10 ^ cs.length := by
  rw [ofDigits_eq_ofDigitChars]
  induction cs with
  | nil => decide
  | cons c cs ih =>
    rw [List.forall_mem_cons] at h
    have hFirst := digitValue_lt h.1
    have hRest := ih h.2
    rw [Nat.ofDigitChars_cons, Nat.ofDigitChars_eq_ofDigitChars_zero, List.length_cons, pow_succ,
      Nat.mul_zero, Nat.zero_add]
    calc 10 ^ cs.length * (c.toNat - 48) + Nat.ofDigitChars 10 cs 0
        < 10 ^ cs.length * (c.toNat - 48) + 10 ^ cs.length := Nat.add_lt_add_left hRest _
      _ = 10 ^ cs.length * (c.toNat - 48 + 1) := by rw [Nat.mul_add, Nat.mul_one]
      _ ≤ 10 ^ cs.length * 10 := Nat.mul_le_mul_left _ hFirst

theorem natAbs_signed (negative : Bool) (n : Nat) : (Binary64.signed negative n).natAbs = n := by
  cases negative <;> simp [Binary64.signed]

theorem splitSign_of_digits {cs : List Char} (h : ∀ c ∈ cs, c.isDigit = true) :
    splitSign cs = (false, cs) := by
  match cs with
  | [] => rfl
  | c :: cs =>
    have hDigit := h c List.mem_cons_self
    unfold splitSign
    split <;> simp_all

theorem splitSign_numeral (n : Int) :
    splitSign (numeral n) = (decide (n < 0), Nat.toDigits 10 n.natAbs) := by
  unfold numeral
  split
  · rename_i h
    simp [splitSign, h]
  · rename_i h
    rw [splitSign_of_digits fun c => isDigit_of_mem_toDigits, decide_eq_false h]

theorem ofNumeral_numeral (n : Int) : ofNumeral (numeral n) = n := by
  rw [ofNumeral, splitSign_numeral]
  simp only [ofDigits_toDigits, Binary64.signed, decide_eq_true_eq]
  split <;> omega

theorem point_notMem_numeral (n : Int) : '.' ∉ numeral n := by
  have hPoint : '.' ∉ Nat.toDigits 10 n.natAbs := fun hMem => by
    cases isDigit_of_mem_toDigits hMem
  unfold numeral
  split
  · exact List.not_mem_cons_of_ne_of_not_mem (by decide) hPoint
  · exact hPoint

theorem natAbs_ofNumeral_lt {cs : List Char} (h : ∀ c ∈ (splitSign cs).2, c.isDigit = true) :
    (ofNumeral cs).natAbs < 10 ^ (splitSign cs).2.length := by
  rw [ofNumeral, natAbs_signed]
  exact ofDigits_lt h

/-- A numeral is not written longer than it was. -/
theorem length_toDigits_ofNumeral_le {cs : List Char}
    (h : ∀ c ∈ (splitSign cs).2, c.isDigit = true) :
    (Nat.toDigits 10 (ofNumeral cs).natAbs).length ≤ max 1 (splitSign cs).2.length := by
  rw [Nat.length_toDigits_le_iff (by decide) (by omega)]
  calc (ofNumeral cs).natAbs
      < 10 ^ (splitSign cs).2.length := natAbs_ofNumeral_lt h
    _ ≤ 10 ^ max 1 (splitSign cs).2.length := Nat.pow_le_pow_right (by decide) (by omega)

end Workflow.Number
