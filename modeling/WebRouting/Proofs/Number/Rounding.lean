import Mathlib.Algebra.Order.Field.Power
import Mathlib.Data.Int.Log
import Mathlib.Data.Rat.Floor
import Mathlib.Tactic.Positivity
import Mathlib.Tactic.Ring
import WebRouting.Number.Double

/-! # Rounding to doubles

A ratio of natural numbers is rounded by its value alone, however it is written (`ofRatio_congr`), and
the value of a double is rounded to the double itself (`ofRatio_numerator`). Both follow from the
exponent of the last bit kept, which the logarithm of the ratio determines (`lastBit_eq`). -/

namespace WebRouting.Double

variable {num den num' den' : Nat}

/-! ## Powers of two -/

/-- A power with an integer exponent as a ratio of powers with natural exponents. -/
theorem zpow_eq_div (a : ℚ) (e : Int) : a ^ e = a ^ e.toNat / a ^ (-e).toNat := by
  rcases le_total 0 e with h | h
  · obtain ⟨n, rfl⟩ := Int.eq_ofNat_of_zero_le h
    simp
  · obtain ⟨n, hn⟩ := Int.eq_ofNat_of_zero_le (Int.neg_nonneg.mpr h)
    obtain rfl : e = -(n : Int) := by omega
    simp

theorem belowPower_iff (hden : 0 < den) (e : Int) :
    belowPower num den e = true ↔ (num : ℚ) / den < 2 ^ e := by
  have hden' : (0 : ℚ) < den := by exact_mod_cast hden
  rw [belowPower, decide_eq_true_iff, Nat.pow_eq, Nat.pow_eq, zpow_eq_div,
    div_lt_div_iff₀ hden' (by positivity), mul_comm den]
  exact_mod_cast Iff.rfl

theorem lt_two_zpow_iff {q : ℚ} (hq : 0 < q) (e : Int) : q < 2 ^ e ↔ Int.log 2 q < e := by
  have h := Int.lt_zpow_iff_log_lt (b := 2) (x := e) (by decide) hq
  rwa [Nat.cast_ofNat] at h

theorem two_zpow_le_iff {q : ℚ} (hq : 0 < q) (e : Int) : 2 ^ e ≤ q ↔ e ≤ Int.log 2 q := by
  rw [← not_lt, lt_two_zpow_iff hq, not_lt]

theorem ratio_pos (hnum : 0 < num) (hden : 0 < den) : 0 < (num : ℚ) / den :=
  div_pos (by exact_mod_cast hnum) (by exact_mod_cast hden)

/-- A ratio is close to the power of two whose exponent is the difference of the logarithms. -/
theorem log_ratio_bounds (hnum : 0 < num) (hden : 0 < den) :
    (num.log2 : Int) - den.log2 - 1 ≤ Int.log 2 ((num : ℚ) / den) ∧
      Int.log 2 ((num : ℚ) / den) < (num.log2 : Int) - den.log2 + 1 := by
  have hden' : (0 : ℚ) < den := by exact_mod_cast hden
  have hnumLe : (2 : ℚ) ^ (num.log2 : Int) ≤ num := by
    exact_mod_cast Nat.log2_self_le hnum.ne'
  have hnumLt : (num : ℚ) < 2 ^ ((num.log2 : Int) + 1) := by
    exact_mod_cast Nat.lt_log2_self
  have hdenLe : (2 : ℚ) ^ (den.log2 : Int) ≤ den := by
    exact_mod_cast Nat.log2_self_le hden.ne'
  have hdenLt : (den : ℚ) < 2 ^ ((den.log2 : Int) + 1) := by
    exact_mod_cast Nat.lt_log2_self
  constructor
  · rw [← two_zpow_le_iff (ratio_pos hnum hden), le_div_iff₀ hden']
    -- the numerator from below, the denominator from above
    calc (2 : ℚ) ^ ((num.log2 : Int) - den.log2 - 1) * den
        ≤ 2 ^ ((num.log2 : Int) - den.log2 - 1) * 2 ^ ((den.log2 : Int) + 1) := by gcongr
      _ = 2 ^ (num.log2 : Int) := by rw [← zpow_add₀ (by norm_num)]; congr 1; omega
      _ ≤ num := hnumLe
  · rw [← lt_two_zpow_iff (ratio_pos hnum hden), div_lt_iff₀ hden']
    -- the numerator from above, the denominator from below
    calc (num : ℚ) < 2 ^ ((num.log2 : Int) + 1) := hnumLt
      _ = 2 ^ ((num.log2 : Int) - den.log2 + 1) * 2 ^ (den.log2 : Int) := by
        rw [← zpow_add₀ (by norm_num)]; congr 1; omega
      _ ≤ 2 ^ ((num.log2 : Int) - den.log2 + 1) * den := by gcongr

/-- The exponent of the last bit kept comes from the logarithm of the ratio. -/
theorem lastBit_eq (hnum : 0 < num) (hden : 0 < den) :
    lastBit num den = max (Int.log 2 ((num : ℚ) / den) - 52) (-1074) := by
  have hratio := ratio_pos hnum hden
  obtain ⟨hle, hlt⟩ := log_ratio_bounds hnum hden
  simp only [lastBit, belowPower_iff hden, lt_two_zpow_iff hratio]
  split <;> omega

/-! ## Equal ratios -/

theorem divideToEven_mul_left {k : Nat} (hk : 0 < k) (num den : Nat) :
    divideToEven (k * num) (k * den) = divideToEven num den := by
  simp only [divideToEven, Nat.mul_div_mul_left _ _ hk, Nat.mul_mod_mul_left,
    Nat.mul_left_comm 2 k, Nat.mul_lt_mul_left hk]

theorem divideToEven_congr (hden : 0 < den) (hden' : 0 < den') (h : num * den' = num' * den) :
    divideToEven num den = divideToEven num' den' := by
  rw [← divideToEven_mul_left hden' num den, ← divideToEven_mul_left hden num' den',
    Nat.mul_comm den' num, h, Nat.mul_comm num' den, Nat.mul_comm den' den]

theorem lastBit_congr (hnum : 0 < num) (hnum' : 0 < num') (hden : 0 < den) (hden' : 0 < den')
    (h : num * den' = num' * den) : lastBit num den = lastBit num' den' := by
  have hratio : (num : ℚ) / den = num' / den' := by
    rw [div_eq_div_iff (by exact_mod_cast hden.ne') (by exact_mod_cast hden'.ne')]
    exact_mod_cast h
  rw [lastBit_eq hnum hden, lastBit_eq hnum' hden', hratio]

theorem ofRatio_of_ne_zero (negative : Bool) (hnum : num ≠ 0) :
    ofRatio negative num den = ofRounded negative
      (divideToEven (num * 2 ^ (-lastBit num den).toNat) (den * 2 ^ (lastBit num den).toNat))
      (lastBit num den) :=
  if_neg hnum

/-- Equal ratios are rounded to the same double. -/
theorem ofRatio_congr (negative : Bool) (hden : 0 < den) (hden' : 0 < den')
    (h : num * den' = num' * den) : ofRatio negative num den = ofRatio negative num' den' := by
  by_cases hnum : num = 0
  · have hnum' : num' = 0 := by
      rw [hnum, Nat.zero_mul] at h
      exact (Nat.mul_eq_zero.mp h.symm).resolve_right hden.ne'
    rw [ofRatio, ofRatio, if_pos hnum, if_pos hnum']
  · have hnum' : num' ≠ 0 := by
      rintro rfl
      rw [Nat.zero_mul] at h
      exact hnum ((Nat.mul_eq_zero.mp h).resolve_right hden'.ne')
    have hlast := lastBit_congr (Nat.pos_of_ne_zero hnum) (Nat.pos_of_ne_zero hnum') hden hden' h
    rw [ofRatio_of_ne_zero _ hnum, ofRatio_of_ne_zero _ hnum', hlast]
    refine congrArg (ofRounded negative · _) (divideToEven_congr (by positivity) (by positivity) ?_)
    rw [Nat.mul_mul_mul_comm, h, Nat.mul_mul_mul_comm]

/-! ## Values of doubles -/

theorem numerator_eq (m : Nat) (e : Int) : numerator m e = m * 2 ^ e.toNat := rfl

theorem denominator_eq (e : Int) : denominator e = 2 ^ (-e).toNat := rfl

theorem numerator_pos {m : Nat} (hm : m ≠ 0) (e : Int) : 0 < numerator m e := by
  rw [numerator_eq]
  positivity

theorem denominator_pos (e : Int) : 0 < denominator e := by
  rw [denominator_eq]
  positivity

theorem divideToEven_mul_self (hden : 0 < den) (m : Nat) : divideToEven (m * den) den = m := by
  simp [divideToEven, Nat.mul_div_cancel _ hden, hden]

theorem numerator_div_denominator (m : Nat) (e : Int) :
    (numerator m e : ℚ) / denominator e = m * 2 ^ e := by
  rw [numerator_eq, denominator_eq, zpow_eq_div]
  push_cast
  ring

/-- All bits of a double are kept. -/
theorem lastBit_numerator {m : Nat} {e : Int} (hm : 0 < m) (h : Canonical m e) :
    lastBit (numerator m e) (denominator e) = e := by
  have hnum := numerator_pos hm.ne' e
  have hden := denominator_pos e
  have hratio := ratio_pos hnum hden
  rw [lastBit_eq hnum hden]
  rw [numerator_div_denominator] at hratio ⊢
  obtain ⟨hlt, hleast, -, hfull⟩ := h
  -- the significand has at most 53 bits, and exactly 53 above the least exponent
  have hbelow : Int.log 2 ((m : ℚ) * 2 ^ e) < 53 + e := by
    rw [← lt_two_zpow_iff hratio, zpow_add₀ (by norm_num)]
    gcongr
    exact_mod_cast hlt
  rcases hfull with hfull | hfull
  · have habove : 52 + e ≤ Int.log 2 ((m : ℚ) * 2 ^ e) := by
      rw [← two_zpow_le_iff hratio, zpow_add₀ (by norm_num)]
      gcongr
      exact_mod_cast hfull
    omega
  · omega

/-- The value of a double is rounded to the double. -/
theorem ofRatio_numerator (negative : Bool) {m : Nat} {e : Int} (h : Canonical m e) :
    ofRatio negative (numerator m e) (denominator e) = .finite negative m e h := by
  rcases Nat.eq_zero_or_pos m with rfl | hm
  · obtain rfl : e = -1074 := h.2.2.2.resolve_left (by decide)
    rw [ofRatio, if_pos (by rw [numerator, Nat.zero_mul])]
    rfl
  · have hnum := (numerator_pos hm.ne' e).ne'
    rw [ofRatio_of_ne_zero _ hnum, lastBit_numerator hm h]
    -- scaled to its last bit, the ratio is the significand itself
    have hquotient : divideToEven (numerator m e * 2 ^ (-e).toNat) (denominator e * 2 ^ e.toNat) =
        m := by
      rw [numerator_eq, denominator_eq, Nat.mul_assoc, Nat.mul_comm (2 ^ e.toNat)]
      exact divideToEven_mul_self (by positivity) m
    rw [hquotient, ofRounded, dif_pos h]

/-- The sign takes no part in rounding. -/
theorem ofRatio_eq_finite {negative sign : Bool} {m : Nat} {e : Int} {h : Canonical m e}
    (hratio : ofRatio negative num den = .finite sign m e h) (negative' : Bool) :
    ofRatio negative' num den = .finite negative' m e h := by
  by_cases hnum : num = 0
  · rw [ofRatio, if_pos hnum] at hratio ⊢
    cases hratio
    rfl
  · rw [ofRatio_of_ne_zero _ hnum, ofRounded] at hratio ⊢
    split at hratio
    · next hfits => cases hratio; rw [dif_pos hfits]
    · next hfits =>
      rw [dif_neg hfits]
      split at hratio
      · next hcarry => cases hratio; rw [dif_pos hcarry]
      · cases hratio

end WebRouting.Double
