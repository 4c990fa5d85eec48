import Mathlib.Algebra.Order.Field.Power
import Mathlib.Data.Rat.Cast.Order
import Mathlib.Tactic.Ring
import Mathlib.Tactic.Positivity
import Mathlib.Tactic.GCongr
import Mathlib.Tactic.NormNum
import Workflow.Proofs.Number.Exact
import Workflow.Proofs.Number.Numeral

/-!
# The range of binary numbers

A ratio is rounded to infinity if it is at least halfway between the greatest finite number and the
power of two after it. So an integer has no binary number, and a decimal number only infinity,
exactly from there on.
-/

namespace Workflow.Binary64

section Scale

theorem zpow_mul_pow_toNat {base : ℚ} (h : base ≠ 0) (e : Int) :
    base ^ e * base ^ (-e).toNat = base ^ e.toNat := by
  rw [← zpow_natCast, ← zpow_natCast, ← zpow_add₀ h]
  congr 1
  omega

variable {num den : Nat} {exponent : Int}

/-- Scaling a ratio down is dividing it by a power of two. -/
theorem mul_le_scaleDown_iff (factor : Nat) :
    factor * (scaleDown num den exponent).2 ≤ (scaleDown num den exponent).1 ↔
      (factor : ℚ) * 2 ^ exponent * den ≤ num := by
  have hPos : (0 : ℚ) < 2 ^ (-exponent).toNat := by positivity
  have hLeft : ((factor * (scaleDown num den exponent).2 : Nat) : ℚ) =
      factor * 2 ^ exponent * den * 2 ^ (-exponent).toNat := by
    calc ((factor * (den * 2 ^ exponent.toNat) : Nat) : ℚ)
        = factor * (2 ^ exponent * 2 ^ (-exponent).toNat) * den := by
          rw [zpow_mul_pow_toNat (by norm_num)]
          push_cast
          ring
      _ = factor * 2 ^ exponent * den * 2 ^ (-exponent).toNat := by ring
  have hRight : ((scaleDown num den exponent).1 : ℚ) = num * 2 ^ (-exponent).toNat := by
    exact_mod_cast rfl
  rw [← Nat.cast_le (α := ℚ), hLeft, hRight, mul_le_mul_iff_left₀ hPos]

theorem scaleDown_lt_mul_iff (factor : Nat) :
    (scaleDown num den exponent).1 < factor * (scaleDown num den exponent).2 ↔
      (num : ℚ) < factor * 2 ^ exponent * den := by
  rw [← not_le, mul_le_scaleDown_iff, not_le]

theorem scaleDown_succ (num den k : Nat) :
    scaleDown num den ((k : Int) + 1) = (num, 2 * (den * 2 ^ k)) := by
  have hUp : ((k : Int) + 1).toNat = k + 1 := by omega
  have hDown : (-((k : Int) + 1)).toNat = 0 := by omega
  rw [scaleDown, hUp, hDown, ← Nat.mul_left_comm, ← Nat.pow_succ']
  exact Prod.ext (Nat.mul_one num) rfl

theorem scaleDown_snd_pos (h : 0 < den) : 0 < (scaleDown num den exponent).2 :=
  Nat.mul_pos h (Nat.two_pow_pos _)

end Scale

section Exponent

variable {num den : Nat}

theorem log2_bounds {n : Nat} (h : n ≠ 0) :
    (2 : ℚ) ^ (n.log2 : Int) ≤ n ∧ (n : ℚ) < 2 ^ ((n.log2 : Int) + 1) := by
  constructor
  · exact_mod_cast Nat.log2_self_le h
  · exact_mod_cast Nat.lt_log2_self (n := n)

theorem floorLog_bounds (hNum : num ≠ 0) (hDen : den ≠ 0) :
    (2 : ℚ) ^ floorLog num den * den ≤ num ∧ (num : ℚ) < 2 ^ (floorLog num den + 1) * den := by
  obtain ⟨hNumLow, hNumHigh⟩ := log2_bounds hNum
  obtain ⟨hDenLow, hDenHigh⟩ := log2_bounds hDen
  have hTwo : (2 : ℚ) ≠ 0 := by norm_num
  have hScaled := @mul_le_scaleDown_iff num den ((num.log2 : Int) - den.log2) 1
  rw [Nat.one_mul, Nat.cast_one, one_mul] at hScaled
  simp only [floorLog, hScaled]
  split
  · next hLow =>
    refine ⟨hLow, hNumHigh.trans_le ?_⟩
    calc (2 : ℚ) ^ ((num.log2 : Int) + 1)
        = 2 ^ ((num.log2 : Int) - den.log2 + 1) * 2 ^ (den.log2 : Int) := by
          rw [← zpow_add₀ hTwo]
          congr 1
          omega
      _ ≤ 2 ^ ((num.log2 : Int) - den.log2 + 1) * den := by gcongr
  · next hHigh =>
    rw [Int.sub_add_cancel]
    refine ⟨?_, not_le.mp hHigh⟩
    calc (2 : ℚ) ^ ((num.log2 : Int) - den.log2 - 1) * den
        ≤ 2 ^ ((num.log2 : Int) - den.log2 - 1) * 2 ^ ((den.log2 : Int) + 1) := by gcongr
      _ = 2 ^ (num.log2 : Int) := by
          rw [← zpow_add₀ hTwo]
          congr 1
          omega
      _ ≤ num := hNumLow

end Exponent

section Round

variable {n d m : Nat}

theorem roundDiv_cases (n d : Nat) :
    (roundDiv n d = n / d ∧ 2 * (n % d) ≤ d ∧ (2 * (n % d) = d → n / d % 2 = 0)) ∨
      (roundDiv n d = n / d + 1 ∧ d ≤ 2 * (n % d) ∧ (2 * (n % d) = d → n / d % 2 = 1)) := by
  unfold roundDiv
  dsimp only
  split
  · exact Or.inl ⟨rfl, by omega⟩
  · split
    · exact Or.inr ⟨rfl, by omega⟩
    · obtain hEven | hOdd := Nat.mod_two_eq_zero_or_one (n / d)
      · exact Or.inl ⟨by omega, by omega⟩
      · exact Or.inr ⟨by omega, by omega⟩

theorem roundDiv_le_of_lt (h : n < m * d) : roundDiv n d ≤ m := by
  have hQuotient : n / d < m := Nat.div_lt_of_lt_mul (by rwa [Nat.mul_comm])
  obtain ⟨hRound, -⟩ | ⟨hRound, -⟩ := roundDiv_cases n d
  · omega
  · omega

theorem le_roundDiv_of_le (hPos : 0 < d) (h : m * d ≤ n) : m ≤ roundDiv n d := by
  have hQuotient : m ≤ n / d := (Nat.le_div_iff_mul_le hPos).mpr h
  obtain ⟨hRound, -⟩ | ⟨hRound, -⟩ := roundDiv_cases n d
  · omega
  · omega

/-- A number halfway below an even integer is rounded up to it. -/
theorem even_le_roundDiv_iff (hPos : 0 < d) (hEven : m % 2 = 0) :
    m ≤ roundDiv n d ↔ 2 * (m * d) ≤ 2 * n + d := by
  have hParts : d * (n / d) + n % d = n := Nat.div_add_mod n d
  have hRest : n % d < d := Nat.mod_lt n hPos
  have hRound := roundDiv_cases n d
  obtain hBelow | hNext | hAbove : m ≤ n / d ∨ m = n / d + 1 ∨ n / d + 2 ≤ m := by omega
  · have hMul : m * d ≤ d * (n / d) := (Nat.mul_le_mul_right d hBelow).trans_eq (Nat.mul_comm _ _)
    exact iff_of_true (by omega) (by omega)
  · have hMul : m * d = d * (n / d) + d := by rw [hNext, Nat.succ_mul, Nat.mul_comm]
    omega
  · have hMul : d * (n / d) + 2 * d ≤ m * d := by
      rw [Nat.mul_comm d, ← Nat.add_mul]
      exact Nat.mul_le_mul_right d hAbove
    exact iff_of_false (by omega) (by omega)

end Round

/-- The least number that is rounded to infinity, `2 ^ 1024 - 2 ^ 970`. It is halfway between the
greatest finite number and the power of two after it. -/
def rangeEnd : Nat := (2 ^ 54 - 1) * 2 ^ 970

theorem rangeEnd_pos : 0 < rangeEnd := by
  have hPos : ∀ k, 0 < (2 ^ 54 - 1) * 2 ^ k := fun k => Nat.mul_pos (by decide) (Nat.two_pow_pos k)
  exact hPos 970

theorem cast_rangeEnd : (rangeEnd : ℚ) = (2 ^ 54 - 1) * 2 ^ (970 : Int) := by
  have hFront : ((2 ^ 54 - 1 : Nat) : ℚ) = 2 ^ 54 - 1 := by norm_num
  rw [rangeEnd, Nat.cast_mul, hFront, Nat.cast_pow, Nat.cast_ofNat, zpow_ofNat _ 970]

theorem pow_le_rangeEnd {exponent : Int} (h : exponent ≤ 1023) : (2 : ℚ) ^ exponent ≤ rangeEnd := by
  calc (2 : ℚ) ^ exponent
      ≤ 2 ^ (53 + 970 : Int) := zpow_le_zpow_right₀ (by norm_num) (by omega)
    _ = 2 ^ 53 * 2 ^ (970 : Int) := by rw [zpow_add₀ (by norm_num), zpow_ofNat _ 53]
    _ ≤ rangeEnd := by
      rw [cast_rangeEnd]
      gcongr
      norm_num

theorem rangeEnd_le_pow {exponent : Int} (h : 1024 ≤ exponent) : (rangeEnd : ℚ) ≤ 2 ^ exponent := by
  calc (rangeEnd : ℚ)
      ≤ 2 ^ 54 * 2 ^ (970 : Int) := by
        rw [cast_rangeEnd]
        gcongr
        norm_num
    _ = 2 ^ (54 + 970 : Int) := by rw [zpow_add₀ (by norm_num), zpow_ofNat _ 54]
    _ ≤ 2 ^ exponent := zpow_le_zpow_right₀ (by norm_num) (by omega)

def IsInfinite (x : Binary64) : Prop := ∃ negative, x.view = .infinite negative

section Words

variable {negative : Bool} {magnitude : Nat}

theorem isInfinite_infinity : (infinity negative).IsInfinite :=
  ⟨negative, by cases negative <;> decide⟩

theorem not_isInfinite_ofWord (h : magnitude < infinityWord) :
    ¬ (ofWord negative magnitude).IsInfinite := by
  have hSize : magnitude < signSize := h.trans (by decide)
  have hMagnitude : (ofWord negative magnitude).bits.toNat % signSize = magnitude := by
    rw [toNat_ofWord hSize]
    cases negative
    · simpa using Nat.mod_eq_of_lt hSize
    · simpa using Nat.mod_eq_of_lt hSize
  have hBiased : magnitude / fractionSize ≠ 2047 :=
    Nat.ne_of_lt (Nat.div_lt_of_lt_mul (by rwa [Nat.mul_comm]))
  rintro ⟨sign, hView⟩
  simp only [view, hMagnitude, hBiased, if_false] at hView
  split at hView <;> cases hView

end Words

section Bounds

variable {num den : Nat} {exponent : Int}

theorem bounds_of_exponent_le (hNum : num ≠ 0) (hDen : den ≠ 0) (h : exponent ≤ 970)
    (hExponent : floorLog num den - 52 ≤ exponent) :
    num < rangeEnd * den ∧
      (scaleDown num den exponent).1 < 2 ^ 53 * (scaleDown num den exponent).2 := by
  obtain ⟨-, hHigh⟩ := floorLog_bounds hNum hDen
  have hAbove : (num : ℚ) < 2 ^ (exponent + 53) * den :=
    hHigh.trans_le (mul_le_mul_of_nonneg_right
      (zpow_le_zpow_right₀ (by norm_num) (by omega)) den.cast_nonneg)
  constructor
  · have hEnd : (2 : ℚ) ^ (exponent + 53) * den ≤ rangeEnd * den :=
      mul_le_mul_of_nonneg_right (pow_le_rangeEnd (by omega)) den.cast_nonneg
    exact_mod_cast hAbove.trans_le hEnd
  · rw [scaleDown_lt_mul_iff, Nat.cast_pow, Nat.cast_ofNat, mul_comm (2 ^ 53 : ℚ)]
    rwa [zpow_add₀ (by norm_num), zpow_ofNat] at hAbove

theorem bounds_of_le_exponent (hNum : num ≠ 0) (hDen : den ≠ 0) (h : 972 ≤ exponent)
    (hExponent : exponent ≤ floorLog num den - 52) :
    rangeEnd * den ≤ num ∧
      2 ^ 52 * (scaleDown num den exponent).2 ≤ (scaleDown num den exponent).1 := by
  obtain ⟨hLow, -⟩ := floorLog_bounds hNum hDen
  have hBelow : (2 : ℚ) ^ (exponent + 52) * den ≤ num :=
    (mul_le_mul_of_nonneg_right
      (zpow_le_zpow_right₀ (by norm_num) (by omega)) den.cast_nonneg).trans hLow
  constructor
  · have hEnd : (rangeEnd : ℚ) * den ≤ 2 ^ (exponent + 52) * den :=
      mul_le_mul_of_nonneg_right (rangeEnd_le_pow (by omega)) den.cast_nonneg
    exact_mod_cast hEnd.trans hBelow
  · rw [mul_le_scaleDown_iff, Nat.cast_pow, Nat.cast_ofNat, mul_comm (2 ^ 52 : ℚ)]
    rwa [zpow_add₀ (by norm_num), zpow_ofNat] at hBelow

/-- A ratio is rounded to the word of infinity or one after it from the end of the range on. -/
theorem infinityWord_le_word_iff (hNum : num ≠ 0) (hDen : den ≠ 0)
    (hExponent : exponent = max leastExponent (floorLog num den - 52)) :
    infinityWord ≤ (exponent - leastExponent).toNat * fractionSize +
        roundDiv (scaleDown num den exponent).1 (scaleDown num den exponent).2 ↔
      rangeEnd * den ≤ num := by
  have hPos : 0 < (scaleDown num den exponent).2 := scaleDown_snd_pos (Nat.pos_of_ne_zero hDen)
  rw [leastExponent] at hExponent
  rw [infinityWord, fractionSize_eq, leastExponent]
  obtain hSmall | hLast | hLarge : exponent ≤ 970 ∨ exponent = 971 ∨ 972 ≤ exponent := by omega
  · obtain ⟨hRange, hScaled⟩ := bounds_of_exponent_le hNum hDen hSmall (by omega)
    have hRound := roundDiv_le_of_lt hScaled
    exact iff_of_false (by omega) (not_le.mpr hRange)
  · -- the numbers around the end of the range have this exponent
    have hScaled : scaleDown num den exponent = (num, 2 * (den * 2 ^ 970)) := by
      rw [← scaleDown_succ num den 970, hLast]
      rfl
    have hEven : 2 ^ 53 % 2 = 0 := by decide
    have hRound := @even_le_roundDiv_iff (scaleDown num den exponent).1 _ _ hPos hEven
    have hEnd : rangeEnd * den = (2 ^ 54 - 1) * (den * 2 ^ 970) := by
      rw [rangeEnd, Nat.mul_assoc, Nat.mul_comm den]
    rw [hEnd]
    rw [hScaled] at hRound ⊢
    generalize den * 2 ^ 970 = unit at hRound ⊢
    omega
  · obtain ⟨hRange, hScaled⟩ := bounds_of_le_exponent hNum hDen hLarge (by omega)
    have hRound := le_roundDiv_of_le hPos hScaled
    exact iff_of_true (by omega) hRange

end Bounds

theorem isInfinite_ofRatio_iff {negative : Bool} {num den : Nat} (h : den ≠ 0) :
    (ofRatio negative num den).IsInfinite ↔ rangeEnd * den ≤ num := by
  by_cases hNum : num = 0
  · have hEnd : 0 < rangeEnd * den := Nat.mul_pos rangeEnd_pos (Nat.pos_of_ne_zero h)
    rw [ofRatio, if_pos hNum, hNum]
    exact iff_of_false (not_isInfinite_ofWord (by decide)) (not_le.mpr hEnd)
  · have hWord := infinityWord_le_word_iff hNum h rfl
    simp only [ofRatio, hNum, if_false]
    split
    · next hLarge => exact iff_of_true isInfinite_infinity (hWord.mp hLarge)
    · next hSmall =>
      exact iff_of_false (not_isInfinite_ofWord (not_le.mp hSmall)) (mt hWord.mpr hSmall)

/-- An integer has no binary number from the end of the range on. -/
theorem ofInt?_eq_none_iff {n : Int} : ofInt? n = none ↔ rangeEnd ≤ n.natAbs := by
  have hRatio : (ofRatio (decide (n < 0)) n.natAbs 1).IsInfinite ↔ rangeEnd * 1 ≤ n.natAbs :=
    isInfinite_ofRatio_iff Nat.one_ne_zero
  rw [Nat.mul_one] at hRatio
  rw [← hRatio, ofInt?, IsInfinite]
  cases (ofRatio (decide (n < 0)) n.natAbs 1).view <;> simp

end Workflow.Binary64

namespace Workflow.Number

open Workflow.Binary64

section Decimal

variable {negative : Bool} {significand : Nat} {power : Int}

theorem exists_digits (h : significand ≠ 0) :
    ∃ k, (Nat.toDigits 10 significand).length = k + 1 ∧ 10 ^ k ≤ significand ∧
      significand < 10 ^ (k + 1) := by
  obtain ⟨k, hk⟩ := Nat.exists_eq_add_one.mpr (@Nat.length_toDigits_pos 10 significand)
  refine ⟨k, hk, ?_, (Nat.length_toDigits_le_iff (by decide) k.succ_pos).mp hk.le⟩
  obtain rfl | hSome := Nat.eq_zero_or_pos k
  · exact Nat.one_le_iff_ne_zero.mpr h
  · rw [← not_lt, ← Nat.length_toDigits_le_iff (by decide) hSome]
    omega

theorem rangeEnd_le_ten_pow (h : 400 ≤ power) : (rangeEnd : ℚ) ≤ 10 ^ power := by
  calc (rangeEnd : ℚ)
      ≤ 2 ^ (3 * 400 : Int) := rangeEnd_le_pow (by norm_num)
    _ = 8 ^ (400 : Int) := by rw [zpow_mul]; norm_num
    _ ≤ 10 ^ (400 : Int) := zpow_le_zpow_left₀ (by norm_num) (by norm_num) (by norm_num)
    _ ≤ 10 ^ power := zpow_le_zpow_right₀ (by norm_num) h

theorem mul_pow_le_mul_pow_iff {bound : Nat} :
    bound * 10 ^ (-power).toNat ≤ significand * 10 ^ power.toNat ↔
      (bound : ℚ) ≤ significand * 10 ^ power := by
  have hPos : (0 : ℚ) < 10 ^ (-power).toNat := by positivity
  rw [← mul_le_mul_iff_left₀ hPos, mul_assoc, zpow_mul_pow_toNat (by norm_num)]
  exact_mod_cast Iff.rfl

/-- A decimal number is infinite from the end of the range on. -/
theorem isInfinite_decimal_iff :
    (decimal negative significand power).IsInfinite ↔
      (rangeEnd : ℚ) ≤ significand * 10 ^ power := by
  by_cases hZero : significand = 0
  · have hEnd : (0 : ℚ) < rangeEnd := Nat.cast_pos.mpr rangeEnd_pos
    rw [decimal, if_pos hZero, hZero, Nat.cast_zero, zero_mul]
    exact iff_of_false (not_isInfinite_ofWord (by decide)) (not_le.mpr hEnd)
  · obtain ⟨k, hLength, hLow, hHigh⟩ := exists_digits hZero
    have hTen : (10 : ℚ) ≠ 0 := by norm_num
    simp only [decimal, hZero, if_false, hLength]
    split
    · next hLong =>
      refine iff_of_true isInfinite_infinity ?_
      calc (rangeEnd : ℚ)
          ≤ 10 ^ ((k : Int) + power) := rangeEnd_le_ten_pow (by omega)
        _ = (10 ^ k : Nat) * 10 ^ power := by rw [zpow_add₀ hTen, zpow_natCast, Nat.cast_pow]; rfl
        _ ≤ significand * 10 ^ power := by gcongr
    · split
      · next hShort =>
        refine iff_of_false (not_isInfinite_ofWord (by decide)) (not_le.mpr ?_)
        calc (significand : ℚ) * 10 ^ power
            < (10 ^ (k + 1) : Nat) * 10 ^ power := by gcongr
          _ = 10 ^ ((k + 1 : Nat) + power) := by
            rw [zpow_add₀ hTen, zpow_natCast, Nat.cast_pow]; rfl
          _ ≤ 10 ^ (0 : Int) := zpow_le_zpow_right₀ (by norm_num) (by omega)
          _ ≤ rangeEnd := by exact_mod_cast rangeEnd_pos
      · have hDen : (10 : Nat).pow (-power).toNat ≠ 0 := (Nat.pow_pos (by decide)).ne'
        rw [isInfinite_ofRatio_iff hDen]
        exact mul_pow_le_mul_pow_iff

theorem ofPointed_eq {cs whole fraction : List Char}
    (hSign : splitSign cs = (negative, whole ++ '.' :: fraction))
    (hWhole : ∀ c ∈ whole, c.isDigit = true) :
    ofPointed cs = decimal negative (ofDigits (whole ++ fraction)) (-fraction.length) := by
  have hPoint : Char.isDigit '.' = false := by decide
  rw [ofPointed, hSign, List.span_eq_takeWhile_dropWhile, List.takeWhile_append_of_pos hWhole,
    List.dropWhile_append_of_pos hWhole, List.takeWhile_cons, List.dropWhile_cons, hPoint]
  simp

/-- A literal with a point is infinite if the number that it spells is beyond the range. -/
theorem isInfinite_ofPointed_iff {cs whole fraction : List Char}
    (hSign : splitSign cs = (negative, whole ++ '.' :: fraction))
    (hWhole : ∀ c ∈ whole, c.isDigit = true) :
    (ofPointed cs).IsInfinite ↔ rangeEnd * 10 ^ fraction.length ≤ ofDigits (whole ++ fraction) := by
  have hDown : (-(-(fraction.length : Int))).toNat = fraction.length := by omega
  have hUp : (-(fraction.length : Int)).toNat = 0 := by omega
  rw [ofPointed_eq hSign hWhole, isInfinite_decimal_iff, ← mul_pow_le_mul_pow_iff, hDown, hUp,
    Nat.pow_zero, Nat.mul_one]

end Decimal

end Workflow.Number
