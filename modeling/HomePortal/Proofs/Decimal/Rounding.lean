import HomePortal.Decimal.Double
import Mathlib.Algebra.Order.Field.Power
import Mathlib.Data.Rat.Cast.Order
import Mathlib.Tactic.NormNum
import Mathlib.Tactic.Positivity
import Mathlib.Tactic.Ring
/-!
Rounding to a floating-point number: a ratio below half the range is rounded to a finite number.
-/

namespace HomePortal

namespace Double

variable {num den : Nat}

theorem roundHalfEven_le : roundHalfEven num den ≤ num / den + 1 := by
  unfold roundHalfEven
  dsimp only
  split_ifs <;> omega

theorem cast_pow (n : Nat) : ((Nat.pow 2 n : Nat) : ℚ) = 2 ^ (n : Int) := by
  simp

theorem cast_pow_toNat {q : Int} (h : 0 ≤ q) : ((Nat.pow 2 q.toNat : Nat) : ℚ) = 2 ^ q := by
  obtain ⟨n, rfl⟩ := Int.eq_ofNat_of_zero_le h
  exact cast_pow n

/-- A power of two is at or below a ratio, said of the ratio's two sides. -/
theorem reached_iff (hden : den ≠ 0) (q : Int) :
    (if 0 ≤ q then den * Nat.pow 2 q.toNat ≤ num else den ≤ num * Nat.pow 2 (-q).toNat) ↔
      (2 : ℚ) ^ q ≤ num / den := by
  have hpos : (0 : ℚ) < den := by exact_mod_cast Nat.pos_of_ne_zero hden
  rw [le_div_iff₀ hpos]
  split
  · rename_i hq
    rw [← Nat.cast_le (α := ℚ), Nat.cast_mul, cast_pow_toNat hq, mul_comm]
  · rename_i hq
    have hpower : (0 : ℚ) < 2 ^ q := by positivity
    rw [← Nat.cast_le (α := ℚ), Nat.cast_mul, cast_pow_toNat (by omega), zpow_neg,
      ← div_eq_mul_inv, le_div_iff₀ hpower, mul_comm]

/-- The logarithms of the two sides place a ratio between two powers of two. -/
theorem ratio_bounds (hnum : num ≠ 0) (hden : den ≠ 0) :
    (2 : ℚ) ^ ((num.log2 : Int) - den.log2 - 1) ≤ num / den ∧
      (num / den : ℚ) < 2 ^ ((num.log2 : Int) - den.log2 + 1) := by
  have hpos : (0 : ℚ) < den := by exact_mod_cast Nat.pos_of_ne_zero hden
  have hnumLow : (2 : ℚ) ^ (num.log2 : Int) ≤ num := by
    exact_mod_cast Nat.log2_self_le hnum
  have hnumHigh : (num : ℚ) < 2 ^ ((num.log2 : Int) + 1) := by
    exact_mod_cast Nat.lt_log2_self (n := num)
  have hdenLow : (2 : ℚ) ^ (den.log2 : Int) ≤ den := by
    exact_mod_cast Nat.log2_self_le hden
  have hdenHigh : (den : ℚ) ≤ 2 ^ ((den.log2 : Int) + 1) := by
    exact_mod_cast (Nat.lt_log2_self (n := den)).le
  constructor
  · rw [le_div_iff₀ hpos]
    calc (2 : ℚ) ^ ((num.log2 : Int) - den.log2 - 1) * den
        ≤ 2 ^ ((num.log2 : Int) - den.log2 - 1) * 2 ^ ((den.log2 : Int) + 1) := by gcongr
      _ = 2 ^ (num.log2 : Int) := by rw [← zpow_add₀ two_ne_zero]; congr 1; ring
      _ ≤ num := hnumLow
  · rw [div_lt_iff₀ hpos]
    calc (num : ℚ) < 2 ^ ((num.log2 : Int) + 1) := hnumHigh
      _ = 2 ^ ((num.log2 : Int) - den.log2 + 1) * 2 ^ (den.log2 : Int) := by
        rw [← zpow_add₀ two_ne_zero]; congr 1; ring
      _ ≤ 2 ^ ((num.log2 : Int) - den.log2 + 1) * den := by gcongr

/-- The binary exponent of a ratio is that of the power of two at or just below it. -/
theorem binaryExponent_spec (hnum : num ≠ 0) (hden : den ≠ 0) :
    (2 : ℚ) ^ binaryExponent num den ≤ num / den ∧
      (num / den : ℚ) < 2 ^ (binaryExponent num den + 1) := by
  obtain ⟨hlow, hhigh⟩ := ratio_bounds hnum hden
  unfold binaryExponent
  dsimp only
  simp only [reached_iff hden]
  split
  · rename_i hreached
    exact ⟨hreached, hhigh⟩
  · rename_i hmissed
    rw [sub_add_cancel]
    exact ⟨hlow, not_le.1 hmissed⟩

theorem cast_span : ((2 * fractionSpan : Nat) : ℚ) = 2 ^ (53 : Int) := by
  exact_mod_cast (by decide : 2 * fractionSpan = 2 ^ 53)

/-- Counted in units of `2 ^ q`, a ratio below `2 ^ (q + 53)` rounds to 54 bits at most. -/
theorem rounded_le {q : Int} (hden : den ≠ 0) (h : (num / den : ℚ) < 2 ^ (q + 53)) :
    (if 0 ≤ q then roundHalfEven num (den * Nat.pow 2 q.toNat)
      else roundHalfEven (num * Nat.pow 2 (-q).toNat) den) ≤ 2 * fractionSpan := by
  have hpos : (0 : ℚ) < den := by exact_mod_cast Nat.pos_of_ne_zero hden
  have hpower : (0 : ℚ) < 2 ^ q := by positivity
  rw [div_lt_iff₀ hpos, zpow_add₀ two_ne_zero, ← cast_span] at h
  split
  · rename_i hq
    have hlt : num < den * Nat.pow 2 q.toNat * (2 * fractionSpan) := by
      rw [← Nat.cast_lt (α := ℚ), Nat.cast_mul, Nat.cast_mul, cast_pow_toNat hq]
      calc (num : ℚ) < 2 ^ q * (2 * fractionSpan : Nat) * den := h
        _ = den * 2 ^ q * (2 * fractionSpan : Nat) := by ring
    exact roundHalfEven_le.trans (Nat.div_lt_of_lt_mul hlt)
  · rename_i hq
    have hlt : num * Nat.pow 2 (-q).toNat < den * (2 * fractionSpan) := by
      rw [← Nat.cast_lt (α := ℚ), Nat.cast_mul, Nat.cast_mul den, cast_pow_toNat (by omega),
        zpow_neg, ← div_eq_mul_inv, div_lt_iff₀ hpower]
      calc (num : ℚ) < 2 ^ q * (2 * fractionSpan : Nat) * den := h
        _ = den * (2 * fractionSpan : Nat) * 2 ^ q := by ring
    exact roundHalfEven_le.trans (Nat.div_lt_of_lt_mul hlt)

/-- A ratio below `2 ^ 1023` is not rounded up to infinity. -/
theorem nearestBits_lt (hden : den ≠ 0) (h : (num / den : ℚ) < 2 ^ (1023 : Int)) :
    nearestBits num den < 2047 * fractionSpan := by
  unfold nearestBits
  split
  · decide
  · rename_i hnum
    obtain ⟨hlow, hhigh⟩ := binaryExponent_spec hnum hden
    have hexponent : binaryExponent num den < 1023 :=
      (zpow_lt_zpow_iff_right₀ one_lt_two).1 (hlow.trans_lt h)
    dsimp only
    generalize hq : max (binaryExponent num den - 52) (-1074) = q
    have hrounded := rounded_le (q := q) hden
      (hhigh.trans_le (zpow_le_zpow_right₀ one_le_two (by omega)))
    have hspan : fractionSpan = 4503599627370496 := rfl
    rw [hspan] at hrounded ⊢
    refine (Nat.min_le_left _ _).trans_lt ?_
    have hshift : (q + 1074).toNat ≤ 2044 := by omega
    omega

theorem isFinite_ofRatio (negative : Bool) (h : nearestBits num den < 2047 * fractionSpan) :
    (ofRatio negative num den).isFinite = true := by
  have hspan : fractionSpan = 4503599627370496 := rfl
  have hweight : signWeight = 9223372036854775808 := rfl
  rw [hspan] at h
  simp only [isFinite, exponentField, ofRatio, bne_iff_ne, hspan, hweight, UInt64.toNat_ofNat']
  cases negative
  · simp only [Bool.false_eq_true, if_false]
    omega
  · simp only [if_true]
    omega

/-- The sides of a scaled number are those of its value. -/
theorem scaled_spec (m : Nat) (q : Int) :
    (scaled m q).2 ≠ 0 ∧ ((scaled m q).1 / (scaled m q).2 : ℚ) = m * 2 ^ q := by
  unfold scaled
  split
  · rename_i hq
    rw [Nat.cast_mul, cast_pow_toNat hq, Nat.cast_one, div_one]
    exact ⟨one_ne_zero, rfl⟩
  · rename_i hq
    rw [cast_pow_toNat (by omega), zpow_neg, div_inv_eq_mul]
    exact ⟨(Nat.two_pow_pos _).ne', rfl⟩

theorem significand_lt (x : Double) : x.significand < 2 * fractionSpan := by
  have hfraction : x.fraction < fractionSpan := Nat.mod_lt _ (by decide)
  unfold significand
  split <;> omega

theorem scale_le {x : Double} (h : x.isFinite = true) : x.scale ≤ 971 := by
  have hlast : x.exponentField ≠ 2047 := by simpa [isFinite] using h
  have hfield : x.exponentField < 2048 := Nat.mod_lt _ (by decide)
  unfold scale
  omega

/-- A finite number is below `2 ^ 1024`. -/
theorem magnitude_lt {x : Double} (h : x.isFinite = true) :
    (x.significand * 2 ^ x.scale : ℚ) < 2 ^ (1024 : Int) := by
  have hsignificand : (x.significand : ℚ) < 2 ^ (53 : Int) := by
    rw [← cast_span, Nat.cast_lt]
    exact significand_lt x
  calc (x.significand * 2 ^ x.scale : ℚ)
      < 2 ^ (53 : Int) * 2 ^ x.scale := by gcongr
    _ ≤ 2 ^ (53 : Int) * 2 ^ (971 : Int) := by
      gcongr
      · exact one_le_two
      · exact scale_le h
    _ = 2 ^ (1024 : Int) := by rw [← zpow_add₀ two_ne_zero]; rfl

theorem hundredth_lt {r : ℚ} (h : r < 2 ^ (1024 : Int)) : r / (100 : Nat) < 2 ^ (1023 : Int) := by
  rw [div_lt_iff₀ (by norm_num)]
  calc r < 2 ^ (1024 : Int) := h
    _ = 2 ^ (1023 : Int) * 2 := by rw [← zpow_add_one₀ two_ne_zero]; rfl
    _ ≤ 2 ^ (1023 : Int) * (100 : Nat) := by
      gcongr
      norm_num

theorem isFinite_divNat_hundred {x : Double} (h : x.isFinite = true) :
    (x.divNat 100).isFinite = true := by
  obtain ⟨hden, hvalue⟩ := scaled_spec x.significand x.scale
  refine isFinite_ofRatio _ (nearestBits_lt (Nat.mul_ne_zero hden (by decide)) ?_)
  rw [Nat.cast_mul, ← div_div, hvalue]
  exact hundredth_lt (magnitude_lt h)

end Double

end HomePortal
