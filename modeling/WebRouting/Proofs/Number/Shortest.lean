import WebRouting.Number.Shortest
import WebRouting.Proofs.Number.Rounding

/-! # The shortest decimals of doubles

The decimal chosen for a finite double reads back as the double (`ofDecimal_shortest`): it was tested,
or it is the exact value. For a whole number it has no digits after the point
(`exponent_shortest_nonneg`), for the number itself is among the candidates before any fraction is. -/

namespace WebRouting

/-! ## Values of decimals -/

namespace Decimal

/-- The value of a decimal. -/
def value (d : Decimal) : ℚ := d.digits * 10 ^ d.exponent

/-- Moving zeros into the exponent keeps the value. -/
theorem value_trim (d : Decimal) : d.trim.value = d.value := by
  induction d using Decimal.trim.induct with
  | case1 d hzero => rw [trim, if_pos hzero]
  | case2 d hzero hten ih =>
    rw [trim, if_neg hzero, if_pos hten, ih]
    -- the zero that moves is a factor of ten
    have hdigits : (d.digits : ℚ) = (d.digits / 10 : Nat) * 10 := by
      exact_mod_cast (Nat.div_mul_cancel (Nat.dvd_of_mod_eq_zero hten)).symm
    rw [value, value, hdigits, zpow_add_one₀ (by norm_num)]
    ring
  | case3 d hzero hten => rw [trim, if_neg hzero, if_neg hten]

/-- Moving zeros into the exponent does not lower it. -/
theorem exponent_le_trim (d : Decimal) : d.exponent ≤ d.trim.exponent := by
  induction d using Decimal.trim.induct with
  | case1 d hzero => rw [trim, if_pos hzero]
  | case2 d hzero hten ih =>
    rw [trim, if_neg hzero, if_pos hten]
    exact Int.le_trans (Int.le_add_one (Int.le_refl _)) ih
  | case3 d hzero hten => rw [trim, if_neg hzero, if_neg hten]

end Decimal

namespace Double

variable {m : Nat} {e : Int}

theorem ofDecimal_eq (negative : Bool) (digits : Nat) (exponent : Int) :
    ofDecimal negative digits exponent =
      ofRatio negative (digits * 10 ^ exponent.toNat) (10 ^ (-exponent).toNat) := rfl

/-- A decimal with the value of a double is rounded to the double. -/
theorem ofDecimal_of_value {d : Decimal} (hcanonical : Canonical m e)
    (h : d.value = m * 2 ^ e) (negative : Bool) :
    ofDecimal negative d.digits d.exponent = .finite negative m e hcanonical := by
  rw [← ofRatio_numerator negative hcanonical, ofDecimal_eq]
  refine ofRatio_congr negative (by positivity) (denominator_pos e) ?_
  have hden : (denominator e : ℚ) ≠ 0 := by exact_mod_cast (denominator_pos e).ne'
  rw [← numerator_div_denominator, Decimal.value, zpow_eq_div, ← mul_div_assoc,
    div_eq_div_iff (by positivity) hden] at h
  exact_mod_cast h

/-- Decimals of one value are rounded to the same double. -/
theorem ofDecimal_congr {d d' : Decimal} (h : d.value = d'.value) (negative : Bool) :
    ofDecimal negative d.digits d.exponent = ofDecimal negative d'.digits d'.exponent := by
  rw [ofDecimal_eq, ofDecimal_eq]
  refine ofRatio_congr negative (by positivity) (by positivity) ?_
  rw [Decimal.value, Decimal.value, zpow_eq_div, zpow_eq_div, ← mul_div_assoc, ← mul_div_assoc,
    div_eq_div_iff (by positivity) (by positivity)] at h
  exact_mod_cast h

theorem value_exactDecimal (m : Nat) (e : Int) : (exactDecimal m e).value = m * 2 ^ e := by
  rw [Decimal.value, exactDecimal, Nat.pow_eq, Nat.pow_eq]
  rcases le_total 0 e with h | h
  · obtain ⟨n, rfl⟩ := Int.eq_ofNat_of_zero_le h
    simp
  · obtain ⟨n, hn⟩ := Int.eq_ofNat_of_zero_le (Int.neg_nonneg.mpr h)
    obtain rfl : e = -(n : Int) := by omega
    have hten : (10 : ℚ) ^ n = 5 ^ n * 2 ^ n := by rw [← mul_pow]; norm_num
    simp only [min_eq_left h, Int.neg_neg, Int.toNat_natCast, Int.toNat_neg_natCast, zpow_neg,
      zpow_natCast, hten]
    push_cast
    field_simp

/-! ## What reads back -/

/-- Whether a decimal reads back as the double with a significand and an exponent. -/
def readsBack (m : Nat) (e : Int) (d : Decimal) : Bool :=
  match ofDecimal false d.digits d.exponent with
  | .finite _ m' e' _ => m' == m && e' == e
  | _ => false

theorem ofDecimal_of_readsBack {d : Decimal} (hcanonical : Canonical m e)
    (h : readsBack m e d = true) (negative : Bool) :
    ofDecimal negative d.digits d.exponent = .finite negative m e hcanonical := by
  rw [readsBack] at h
  split at h
  · next sign m' e' hcanonical' hdecimal =>
    obtain ⟨hm, he⟩ := Bool.and_eq_true_iff.mp h
    cases eq_of_beq hm
    cases eq_of_beq he
    exact ofRatio_eq_finite hdecimal negative
  · cases h

theorem readsBack_of_value {d : Decimal} (hcanonical : Canonical m e)
    (h : d.value = m * 2 ^ e) : readsBack m e d = true := by
  rw [readsBack, ofDecimal_of_value hcanonical h]
  simp

/-- The candidates for the decimal of a double, those with fewer digits first. -/
def candidates (tie : Tie) (m : Nat) (e : Int) (count : Nat) : List Decimal :=
  (List.range count).flatMap fun i =>
    (neighbours tie (numerator m e) (denominator e)
      (decimalMagnitude (numerator m e) (denominator e) - (i + 1 : Nat))).map Decimal.trim

theorem shortest_of_ne_zero (tie : Tie) (hm : m ≠ 0) (e : Int) :
    shortest tie m e = ((candidates tie m e 17).find? (readsBack m e)).getD (exactDecimal m e) :=
  if_neg hm

/-- The shortest decimal of a finite double reads back as the double. -/
theorem ofDecimal_shortest (tie : Tie) (hcanonical : Canonical m e) (negative : Bool) :
    ofDecimal negative (shortest tie m e).digits (shortest tie m e).exponent =
      .finite negative m e hcanonical := by
  by_cases hm : m = 0
  · refine ofDecimal_of_value hcanonical ?_ negative
    rw [shortest, if_pos hm, hm, Decimal.value]
    simp
  · rw [shortest_of_ne_zero tie hm]
    cases hfind : (candidates tie m e 17).find? (readsBack m e) with
    | some d => exact ofDecimal_of_readsBack hcanonical (List.find?_some hfind) negative
    | none => exact ofDecimal_of_value hcanonical (value_exactDecimal m e) negative

/-! ## Whole numbers -/

theorem exponent_of_mem_neighbours {tie : Tie} {num den : Nat} {exponent : Int} {d : Decimal}
    (h : d ∈ neighbours tie num den exponent) : d.exponent = exponent := by
  simp only [neighbours] at h
  split at h <;> rcases List.mem_pair.mp h with rfl | rfl <;> rfl

/-- The candidates with fewer digits have greater exponents. -/
theorem exponent_of_mem_candidates {tie : Tie} {count : Nat} {d : Decimal}
    (h : d ∈ candidates tie m e count) :
    decimalMagnitude (numerator m e) (denominator e) - count ≤ d.exponent := by
  obtain ⟨i, hi, h⟩ := List.mem_flatMap.mp h
  obtain ⟨d, hd, rfl⟩ := List.mem_map.mp h
  have hi := List.mem_range.mp hi
  have htrim := d.exponent_le_trim
  rw [exponent_of_mem_neighbours hd] at htrim
  omega

theorem candidates_add (tie : Tie) (m : Nat) (e : Int) (count more : Nat) :
    ∃ others, candidates tie m e (count + more) = candidates tie m e count ++ others := by
  rw [candidates, List.range_add, List.flatMap_append]
  exact ⟨_, rfl⟩

/-- The digits of the integer part of a double. -/
def wholeLength (m : Nat) (e : Int) : Nat :=
  (Numeral.writeNat (numerator m e / denominator e)).length

theorem wholeLength_pos (m : Nat) (e : Int) : 0 < wholeLength m e := Nat.length_toDigits_pos

theorem decimalMagnitude_of_whole (hm : m ≠ 0) (hwhole : numerator m e % denominator e = 0) :
    decimalMagnitude (numerator m e) (denominator e) = wholeLength m e :=
  if_pos (Nat.le_of_dvd (numerator_pos hm e) (Nat.dvd_of_mod_eq_zero hwhole))

/-- A double that is a whole number of many digits has a positive exponent of two. -/
theorem wholeLength_le (hcanonical : Canonical m e) (he : e < 0) : wholeLength m e ≤ 17 := by
  have hnum : numerator m e = m := by
    rw [numerator_eq, Int.toNat_of_nonpos (Int.le_of_lt he), Nat.pow_zero, Nat.mul_one]
  refine (Nat.length_toDigits_le_iff (by decide) (by decide)).mpr ?_
  calc numerator m e / denominator e ≤ numerator m e := Nat.div_le_self _ _
    _ = m := hnum
    _ < 2 ^ 53 := hcanonical.1
    _ ≤ 10 ^ 17 := by decide

/-- A multiple of the denominator is its own neighbour on the grid of whole numbers. -/
theorem mem_neighbours_zero (tie : Tie) {num den : Nat} (hden : 0 < den) (h : num % den = 0) :
    ⟨num / den, 0⟩ ∈ neighbours tie num den 0 := by
  simp [neighbours, h, hden.ne']

/-- A whole number is a candidate once there are enough digits. -/
theorem mem_candidates_whole (tie : Tie) (hm : m ≠ 0)
    (hwhole : numerator m e % denominator e = 0) :
    Decimal.trim ⟨numerator m e / denominator e, 0⟩ ∈ candidates tie m e (wholeLength m e) := by
  have hpos := wholeLength_pos m e
  have hgrid : decimalMagnitude (numerator m e) (denominator e) -
      (wholeLength m e - 1 + 1 : Nat) = 0 := by
    rw [decimalMagnitude_of_whole hm hwhole]
    omega
  refine List.mem_flatMap.mpr ⟨wholeLength m e - 1, List.mem_range.mpr (by omega), ?_⟩
  rw [hgrid]
  exact List.mem_map_of_mem (mem_neighbours_zero tie (denominator_pos e) hwhole)

theorem readsBack_whole (hcanonical : Canonical m e) (hwhole : numerator m e % denominator e = 0) :
    readsBack m e (Decimal.trim ⟨numerator m e / denominator e, 0⟩) = true := by
  refine readsBack_of_value hcanonical ?_
  rw [Decimal.value_trim, Decimal.value, zpow_zero, mul_one, ← numerator_div_denominator,
    eq_div_iff (by exact_mod_cast (denominator_pos e).ne')]
  exact_mod_cast Nat.div_mul_cancel (Nat.dvd_of_mod_eq_zero hwhole)

/-- The shortest decimal of a whole number is a whole number. -/
theorem exponent_shortest_nonneg (tie : Tie) (hcanonical : Canonical m e)
    (hwhole : numerator m e % denominator e = 0) : 0 ≤ (shortest tie m e).exponent := by
  by_cases hm : m = 0
  · rw [shortest, if_pos hm]
  have hmagnitude := decimalMagnitude_of_whole hm hwhole
  rw [shortest_of_ne_zero tie hm]
  -- a number of many digits has candidates on coarse grids only
  rcases Nat.lt_or_ge 17 (wholeLength m e) with hlong | hshort
  · cases hfind : (candidates tie m e 17).find? (readsBack m e) with
    | some d =>
      have hexponent := exponent_of_mem_candidates (List.mem_of_find?_eq_some hfind)
      rw [Option.getD_some]
      omega
    | none =>
      have he : 0 ≤ e := by
        by_contra he
        have hlength := wholeLength_le hcanonical (Int.not_le.mp he)
        omega
      exact le_min he (Int.le_refl 0)
  -- a shorter one is a candidate itself, before any fraction
  · obtain ⟨others, hothers⟩ := candidates_add tie m e (wholeLength m e) (17 - wholeLength m e)
    have hsome := List.find?_isSome.mpr
      ⟨_, mem_candidates_whole tie hm hwhole, readsBack_whole hcanonical hwhole⟩
    obtain ⟨d, hd⟩ := Option.isSome_iff_exists.mp hsome
    have hexponent := exponent_of_mem_candidates (List.mem_of_find?_eq_some hd)
    rw [Nat.add_sub_cancel' hshort] at hothers
    rw [hothers, List.find?_append, hd, Option.some_or, Option.getD_some]
    omega

end Double

end WebRouting
