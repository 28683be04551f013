import WebRouting.Proofs.Number.PlainText

/-! # Whole numbers among doubles

What a whole number is rounded to is a whole number (`isIntegral_of_ofRatio_one`), and it is finite for
an integer of 64 bits (`isFinite_ofInt`). So a decimal without a fraction never stands for a double that
has one (`exponent_shortest_neg`), and the plain text of a finite double has digits on both sides of one
point, whole or not (`isPlainDecimal_plainText`). -/

namespace WebRouting.Double

open Numeral

variable {num den n m : Nat} {e : Int}

/-! ## Rounded whole numbers -/

theorem divideToEven_one (n : Nat) : divideToEven n 1 = n := by
  simp [divideToEven, Nat.mod_one]

theorem le_divideToEven (num den : Nat) : num / den ≤ divideToEven num den := by
  unfold divideToEven
  dsimp only
  split_ifs <;> omega

theorem divideToEven_le (num den : Nat) : divideToEven num den ≤ num / den + 1 := by
  unfold divideToEven
  dsimp only
  split_ifs <;> omega

/-- A double whose significand has the denominator as a factor is a whole number. -/
theorem mod_denominator_of_eq (hm : m = n * denominator e) :
    numerator m e % denominator e = 0 := by
  rw [hm, numerator_eq, Nat.mul_right_comm]
  exact Nat.mul_mod_left _ _

theorem mod_denominator_of_nonneg (he : 0 ≤ e) : numerator m e % denominator e = 0 := by
  have hden : denominator e = 1 := by
    rw [denominator_eq, Int.toNat_of_nonpos (Int.neg_nonpos_of_nonneg he), Nat.pow_zero]
  rw [hden, Nat.mod_one]

/-- A whole number is rounded to a whole number: a negative exponent means that no bit was dropped. -/
theorem isIntegral_of_ofRatio_one {negative sign : Bool} {h : Canonical m e}
    (hround : ofRatio negative n 1 = .finite sign m e h) :
    numerator m e % denominator e = 0 := by
  by_cases hn : n = 0
  · rw [ofRatio, if_pos hn] at hround
    cases hround
    rw [numerator_eq, Nat.zero_mul, Nat.zero_mod]
  by_cases he : 0 ≤ e
  · exact mod_denominator_of_nonneg he
  rw [ofRatio_of_ne_zero _ hn] at hround
  generalize lastBit n 1 = last at hround
  have hexact (hlast : last < 0) :
      divideToEven (n * 2 ^ (-last).toNat) (1 * 2 ^ last.toNat) = n * 2 ^ (-last).toNat := by
    rw [Int.toNat_of_nonpos (Int.le_of_lt hlast), Nat.pow_zero, Nat.mul_one, divideToEven_one]
  rw [ofRounded] at hround
  split at hround
  · cases hround
    exact mod_denominator_of_eq (hexact (Int.not_le.mp he))
  · split at hround
    · -- a significand that is halved has one bit more than the denominator
      injection hround with _ hm he'
      subst he'
      refine mod_denominator_of_eq (n := n) ?_
      have hshift : (-last).toNat = (-(last + 1)).toNat + 1 := by omega
      rw [← hm, hexact (by omega), denominator_eq, hshift, Nat.pow_succ, ← Nat.mul_assoc,
        Nat.mul_div_cancel _ (by decide)]
    · cases hround

/-! ## Integers of 64 bits -/

/-- A significand of 53 bits, or carried to one more, gives a finite double unless the exponent is too
large. -/
theorem isFinite_ofRounded (negative : Bool) (hleast : 2 ^ 52 ≤ m) (hmost : m ≤ 2 ^ 53)
    (hlow : -1074 ≤ e) (hhigh : e ≤ 970) : (ofRounded negative m e).isFinite = true := by
  rw [ofRounded]
  by_cases hcarry : m = 2 ^ 53
  · have hnot : ¬ Canonical m e := fun h => absurd h.1 (by rw [hcarry]; decide)
    have hhalf : Canonical (m / 2) (e + 1) := by
      rw [hcarry]
      exact ⟨by decide, by omega, by omega, .inl (by decide)⟩
    rw [dif_neg hnot, dif_pos hhalf]
    rfl
  · have hbits : m < 2 ^ 53 := Nat.lt_of_le_of_ne hmost hcarry
    rw [dif_pos ⟨hbits, hlow, by omega, .inl hleast⟩]
    rfl

theorem lastBit_one (hn : 0 < n) : lastBit n 1 = (Nat.log 2 n : Int) - 52 := by
  rw [lastBit_eq hn Nat.one_pos, Nat.cast_one, div_one, Int.log_natCast]
  omega

/-- Scaled to the last bit kept, a whole number has 53 bits. -/
theorem scaled_bounds (hn : n ≠ 0) :
    2 ^ 52 ≤ n * 2 ^ (-((Nat.log 2 n : Int) - 52)).toNat / 2 ^ ((Nat.log 2 n : Int) - 52).toNat ∧
      n * 2 ^ (-((Nat.log 2 n : Int) - 52)).toNat / 2 ^ ((Nat.log 2 n : Int) - 52).toNat < 2 ^ 53 := by
  have hle : 2 ^ Nat.log 2 n ≤ n := Nat.pow_log_le_self 2 hn
  have hlt : n < 2 ^ (Nat.log 2 n + 1) := Nat.lt_pow_succ_log_self (by decide) n
  generalize Nat.log 2 n = bits at hle hlt
  rcases Nat.le_total bits 52 with hfew | hmany
  · have hup : (-((bits : Int) - 52)).toNat = 52 - bits := by omega
    have hdown : ((bits : Int) - 52).toNat = 0 := by omega
    rw [hup, hdown, Nat.pow_zero, Nat.div_one]
    have hleast : 2 ^ bits * 2 ^ (52 - bits) = 2 ^ 52 := by rw [← Nat.pow_add]; congr 1; omega
    have hmost : 2 ^ (bits + 1) * 2 ^ (52 - bits) = 2 ^ 53 := by
      rw [← Nat.pow_add]; congr 1; omega
    exact ⟨hleast ▸ Nat.mul_le_mul_right _ hle,
      hmost ▸ Nat.mul_lt_mul_of_pos_right hlt (Nat.two_pow_pos _)⟩
  · have hup : (-((bits : Int) - 52)).toNat = 0 := by omega
    have hdown : ((bits : Int) - 52).toNat = bits - 52 := by omega
    rw [hup, hdown, Nat.pow_zero, Nat.mul_one, Nat.le_div_iff_mul_le (Nat.two_pow_pos _),
      Nat.div_lt_iff_lt_mul (Nat.two_pow_pos _), ← Nat.pow_add, ← Nat.pow_add]
    have hleast : 52 + (bits - 52) = bits := by omega
    have hmost : 53 + (bits - 52) = bits + 1 := by omega
    rw [hleast, hmost]
    exact ⟨hle, hlt⟩

/-- A whole number of at most 64 bits is rounded to a finite double. -/
theorem isFinite_ofRatio_one (negative : Bool) (h : n < 2 ^ 64) :
    (ofRatio negative n 1).isFinite = true := by
  by_cases hn : n = 0
  · rw [ofRatio, if_pos hn]
    rfl
  have hlog : Nat.log 2 n < 64 := (Nat.log_lt_iff_lt_pow (by decide) hn).mpr h
  obtain ⟨hleast, hmost⟩ := scaled_bounds hn
  rw [ofRatio_of_ne_zero _ hn, lastBit_one (Nat.pos_of_ne_zero hn), Nat.one_mul]
  refine isFinite_ofRounded negative (hleast.trans (le_divideToEven _ _))
    ((divideToEven_le _ _).trans hmost) ?_ ?_
  · omega
  · omega

/-- The double nearest to an integer of 64 bits is finite. -/
theorem isFinite_ofInt (n : Int64) : (ofInt n.toInt).isFinite = true := by
  have hleast : -2 ^ 63 ≤ n.toInt := n.le_toInt
  have hmost : n.toInt < 2 ^ 63 := n.toInt_lt
  have hbits : n.toInt.natAbs < 2 ^ 64 := by omega
  exact isFinite_ofRatio_one _ hbits

/-! ## Plain decimals -/

/-- The shortest decimal of a double that is no whole number has digits after the point. -/
theorem exponent_shortest_neg (tie : Tie) (hcanonical : Canonical m e)
    (hfraction : numerator m e % denominator e ≠ 0) : (shortest tie m e).exponent < 0 := by
  by_contra hexponent
  have hread := ofDecimal_shortest tie hcanonical false
  have hden : (-(shortest tie m e).exponent).toNat = 0 := by omega
  rw [ofDecimal_eq, hden, Nat.pow_zero] at hread
  exact hfraction (isIntegral_of_ofRatio_one hread)

/-- Text in plain decimal: digits, one point and digits, after a minus or nothing. -/
def IsPlainDecimal (cs : List Char) : Prop :=
  ∃ negative whole fraction, cs = signText negative ++ whole ++ '.' :: fraction ∧
    (whole ≠ [] ∧ ∀ c ∈ whole, c.isDigit = true) ∧
    (fraction ≠ [] ∧ ∀ c ∈ fraction, c.isDigit = true)

/-- The plain text of a finite double is in plain decimal. -/
theorem isPlainDecimal_plainText {x : Double} (h : x.isFinite = true) :
    IsPlainDecimal x.plainText := by
  cases x with
  | nan => cases h
  | infinite negative => cases h
  | finite negative m e hcanonical =>
    rw [plainText]
    by_cases hwhole : (Double.finite negative m e hcanonical).isIntegral = true
    · -- the point comes with the zero behind a whole number
      have hexponent := exponent_shortest_nonneg .up hcanonical (beq_iff_eq.mp hwhole)
      rw [if_pos hwhole]
      exact ⟨negative, _, ['0'], rfl,
        ⟨positional_ne_nil hexponent, isDigit_of_mem_positional hexponent⟩,
        List.cons_ne_nil _ _, List.forall_mem_singleton.mpr rfl⟩
    · have hfraction : numerator m e % denominator e ≠ 0 := fun hzero => hwhole (beq_iff_eq.mpr hzero)
      have hexponent := exponent_shortest_neg .up hcanonical hfraction
      obtain ⟨whole, fraction, hpositional, hne, hdigits, hdigits', -, hlength⟩ :=
        digits_of_neg hexponent
      have hne' : fraction ≠ [] := by
        rintro rfl
        rw [List.length_nil, Nat.cast_zero] at hlength
        omega
      rw [if_neg hwhole, List.append_nil, hpositional, ← List.append_assoc]
      exact ⟨negative, whole, fraction, rfl, ⟨hne, hdigits⟩, hne', hdigits'⟩

end WebRouting.Double
