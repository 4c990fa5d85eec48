import Mathlib.Algebra.Group.Nat.Defs
import Workflow.Number.Binary64

/-!
# Integers as binary numbers

Every integer of at most 53 binary digits is a binary number, and conversion gives that number.
-/

namespace Workflow.Binary64

theorem fractionSize_eq : fractionSize = 4503599627370496 := rfl

theorem signSize_eq : signSize = 9223372036854775808 := rfl

section Words

variable {negative : Bool} {magnitude biased fraction : Nat}

theorem toNat_ofWord (h : magnitude < signSize) :
    (ofWord negative magnitude).bits.toNat = magnitude + if negative then signSize else 0 := by
  rw [signSize_eq] at h
  simp only [ofWord, UInt64.toNat_ofNat', signSize_eq]
  apply Nat.mod_eq_of_lt
  split <;> omega

theorem view_ofWord (hLow : 0 < biased) (hHigh : biased < 2047) (hFraction : fraction < fractionSize) :
    (ofWord negative (biased * fractionSize + fraction)).view =
      .finite negative (fractionSize + fraction) ((biased : Int) - 1075) := by
  rw [fractionSize_eq] at hFraction
  have hSize : biased * fractionSize + fraction < signSize := by
    rw [fractionSize_eq, signSize_eq]
    omega
  have hWord : (ofWord negative (biased * fractionSize + fraction)).bits.toNat =
      biased * fractionSize + fraction + if negative then signSize else 0 := toNat_ofWord hSize
  have hSign : decide (signSize ≤ (ofWord negative (biased * fractionSize + fraction)).bits.toNat) =
      negative := by
    rw [hWord]
    cases negative
    · simpa using hSize
    · simp
  have hMagnitude : (ofWord negative (biased * fractionSize + fraction)).bits.toNat % signSize =
      biased * fractionSize + fraction := by
    rw [hWord]
    cases negative
    · simpa using Nat.mod_eq_of_lt hSize
    · simpa using Nat.mod_eq_of_lt hSize
  have hBiased : (biased * fractionSize + fraction) / fractionSize = biased := by
    rw [fractionSize_eq]
    omega
  have hRest : (biased * fractionSize + fraction) % fractionSize = fraction := by
    rw [fractionSize_eq]
    omega
  simp only [view, hSign, hMagnitude, hBiased, hRest]
  rw [if_neg (by omega), if_neg (by omega)]

end Words

theorem view_zero : (ofWord false 0).view = .finite false 0 leastExponent := by
  decide

section Small

variable {n : Nat} {negative : Bool}

theorem floorLog_one (h : n ≠ 0) : floorLog n 1 = n.log2 := by
  have hOne : Nat.log2 1 = 0 := by decide
  have hPow : 2 ^ n.log2 ≤ n := Nat.log2_self_le h
  have hScaled : scaleDown n 1 ((n.log2 : Int) - (0 : Nat)) = (n, 2 ^ n.log2) := by
    simp [scaleDown]
  simp only [floorLog, hOne, hScaled, if_pos hPow]
  omega

theorem log2_le_of_lt (h : n ≠ 0) (hSmall : n < 2 ^ 53) : n.log2 ≤ 52 :=
  Nat.le_of_lt_succ ((Nat.log2_lt h).mpr hSmall)

theorem toNat_sub_of_le (h : n ≤ 52) :
    ((n : Int) - 52).toNat = 0 ∧ (-((n : Int) - 52)).toNat = 52 - n := by
  omega

theorem roundDiv_one (n : Nat) : roundDiv n 1 = n := by
  simp [roundDiv, Nat.mod_one]

/-- The binary digits of a number, moved to the places of a significand. -/
theorem significand_bounds (h : n ≠ 0) (hSmall : n < 2 ^ 53) :
    fractionSize ≤ n * 2 ^ (52 - n.log2) ∧ n * 2 ^ (52 - n.log2) < 2 * fractionSize := by
  have hLog := log2_le_of_lt h hSmall
  have hSize : fractionSize = 2 ^ n.log2 * 2 ^ (52 - n.log2) := by
    rw [← Nat.pow_add, Nat.add_sub_cancel' hLog]
    rfl
  constructor
  · calc fractionSize = 2 ^ n.log2 * 2 ^ (52 - n.log2) := hSize
      _ ≤ n * 2 ^ (52 - n.log2) := Nat.mul_le_mul_right _ (Nat.log2_self_le h)
  · calc n * 2 ^ (52 - n.log2)
        < 2 ^ (n.log2 + 1) * 2 ^ (52 - n.log2) :=
          Nat.mul_lt_mul_of_pos_right Nat.lt_log2_self (Nat.two_pow_pos _)
      _ = 2 * fractionSize := by rw [hSize, Nat.pow_succ', Nat.mul_assoc]

theorem ofRatio_one (h : n ≠ 0) (hSmall : n < 2 ^ 53) :
    ofRatio negative n 1 = ofWord negative
      ((n.log2 + 1023) * fractionSize + (n * 2 ^ (52 - n.log2) - fractionSize)) := by
  obtain ⟨hLow, hHigh⟩ := significand_bounds h hSmall
  have hLog := log2_le_of_lt h hSmall
  have hExponent : max leastExponent (floorLog n 1 - 52) = (n.log2 : Int) - 52 := by
    rw [floorLog_one h, leastExponent]
    omega
  have hScaled : scaleDown n 1 ((n.log2 : Int) - 52) = (n * 2 ^ (52 - n.log2), 1) := by
    obtain ⟨hUp, hDown⟩ := toNat_sub_of_le hLog
    rw [scaleDown, hDown, hUp]
    rfl
  have hWord : ((n.log2 : Int) - 52 - leastExponent).toNat * fractionSize + n * 2 ^ (52 - n.log2) =
      (n.log2 + 1023) * fractionSize + (n * 2 ^ (52 - n.log2) - fractionSize) := by
    have hPlace : ((n.log2 : Int) - 52 - leastExponent).toNat = n.log2 + 1022 := by
      rw [leastExponent]
      omega
    rw [hPlace, Nat.succ_mul (n.log2 + 1022)]
    omega
  have hFinite : ¬ infinityWord ≤
      (n.log2 + 1023) * fractionSize + (n * 2 ^ (52 - n.log2) - fractionSize) := by
    rw [infinityWord]
    rw [fractionSize_eq] at hHigh ⊢
    omega
  simp only [ofRatio, hExponent, hScaled, roundDiv_one, hWord, h, hFinite, if_false]

theorem view_ofRatio_one (h : n ≠ 0) (hSmall : n < 2 ^ 53) :
    (ofRatio negative n 1).view =
      .finite negative (n * 2 ^ (52 - n.log2)) ((n.log2 : Int) - 52) := by
  obtain ⟨hLow, hHigh⟩ := significand_bounds h hSmall
  have hLog := log2_le_of_lt h hSmall
  have hFraction : n * 2 ^ (52 - n.log2) - fractionSize < fractionSize := by omega
  have hPlace : ((n.log2 + 1023 : Nat) : Int) - 1075 = (n.log2 : Int) - 52 := by omega
  rw [ofRatio_one h hSmall, view_ofWord (by omega) (by omega) hFraction, hPlace,
    Nat.add_sub_cancel' hLow]

end Small

theorem signed_natAbs (n : Int) : signed (decide (n < 0)) n.natAbs = n := by
  simp only [signed, decide_eq_true_eq]
  split <;> omega

theorem signed_mul (negative : Bool) (m n : Nat) :
    signed negative (m * n) = signed negative m * n := by
  cases negative
  · exact Int.natCast_mul m n
  · exact (congrArg Neg.neg (Int.natCast_mul m n)).trans (Int.neg_mul m n).symm

/-- Integers of at most 53 binary digits are converted exactly. -/
theorem exists_ofInt?_eq_some {n : Int} (h : n.natAbs < 2 ^ 53) :
    ∃ x, ofInt? n = some x ∧ x.isInt n = true := by
  by_cases hZero : n = 0
  · subst hZero
    refine ⟨ofWord false 0, by decide, ?_⟩
    rw [isInt, view_zero]
    simp [signed]
  · have hAbs := Int.natAbs_ne_zero.mpr hZero
    have hView : (ofRatio (decide (n < 0)) n.natAbs 1).view = _ := view_ofRatio_one hAbs h
    refine ⟨ofRatio (decide (n < 0)) n.natAbs 1, by simp only [ofInt?, hView], ?_⟩
    obtain ⟨hUp, hDown⟩ := toNat_sub_of_le (log2_le_of_lt hAbs h)
    simp only [isInt, hView, hDown, hUp, beq_iff_eq]
    calc signed (decide (n < 0)) (n.natAbs * 2 ^ (52 - n.natAbs.log2) * 1)
        = signed (decide (n < 0)) n.natAbs * (2 ^ (52 - n.natAbs.log2) : Nat) := by
          rw [Nat.mul_one, signed_mul]
      _ = n * Int.pow 2 (52 - n.natAbs.log2) := by
          rw [signed_natAbs, Int.natCast_pow]
          rfl

end Workflow.Binary64
