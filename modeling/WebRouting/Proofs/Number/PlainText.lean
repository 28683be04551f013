import Mathlib.Data.List.TakeWhile
import WebRouting.Proofs.Number.Numeral
import WebRouting.Proofs.Number.Shortest

/-! # Plain text of doubles

A finite double is read back from its plain text (`read?_plainText`). The text is an optional sign
before digits with at most one point among them; reading it takes all digits as one number and the
digits after the point as the exponent, and that decimal has the value of the shortest one. -/

namespace WebRouting

open Numeral

namespace Double

variable {whole fraction : List Char}

/-! ## Reading digits with a point -/

/-- Digits and points hold no exponent. -/
theorem splitExponent_eq {cs : List Char} (h : ∀ c ∈ cs, c.isDigit = true ∨ c = '.') :
    splitExponent cs = (cs, none) := by
  have hplain : ∀ c ∈ cs, (c ≠ 'e' && c ≠ 'E') = true := by
    intro c hc
    rcases h c hc with hdigit | rfl
    · simp [ne_of_isDigit hdigit (d := 'e') (by decide), ne_of_isDigit hdigit (d := 'E') (by decide)]
    · decide
  rw [splitExponent, List.span_eq_takeWhile_dropWhile, List.takeWhile_eq_self_iff.mpr hplain,
    List.dropWhile_eq_nil_iff.mpr hplain]

theorem ne_point (h : ∀ c ∈ whole, c.isDigit = true) : ∀ c ∈ whole, decide (c ≠ '.') = true :=
  fun c hc => decide_eq_true (ne_of_isDigit (h c hc) (by decide))

theorem splitPoint_append (h : ∀ c ∈ whole, c.isDigit = true) (fraction : List Char) :
    splitPoint (whole ++ '.' :: fraction) = (whole, fraction) := by
  rw [splitPoint, List.span_eq_takeWhile_dropWhile, List.takeWhile_append_of_pos (ne_point h),
    List.dropWhile_append_of_pos (ne_point h)]
  simp

theorem splitPoint_of_isDigit (h : ∀ c ∈ whole, c.isDigit = true) :
    splitPoint whole = (whole, []) := by
  rw [splitPoint, List.span_eq_takeWhile_dropWhile, List.takeWhile_eq_self_iff.mpr (ne_point h),
    List.dropWhile_eq_nil_iff.mpr (ne_point h)]

theorem clamp_zero (count : Nat) : max (-exponentLimit count) (min (exponentLimit count) 0) = 0 := by
  rw [exponentLimit]
  omega

/-- Digits with a point among them are read as a number with an exponent. -/
theorem readUnsigned?_point (negative : Bool) (hwhole : ∀ c ∈ whole, c.isDigit = true)
    (hfraction : ∀ c ∈ fraction, c.isDigit = true) (hne : whole ≠ []) :
    readUnsigned? negative (whole ++ '.' :: fraction) =
      some (ofDecimal negative (Nat.ofDigitChars 10 (whole ++ fraction) 0) (-fraction.length)) := by
  have hchars : ∀ c ∈ whole ++ '.' :: fraction, c.isDigit = true ∨ c = '.' := by
    intro c hc
    rcases List.mem_append.mp hc with hc | hc
    · exact .inl (hwhole c hc)
    · exact (List.mem_cons.mp hc).symm.imp_left (hfraction c)
  have hdigits : ∀ c ∈ whole ++ fraction, c.isDigit = true :=
    List.forall_mem_append.mpr ⟨hwhole, hfraction⟩
  rw [readUnsigned?, splitExponent_eq hchars]
  simp only [splitPoint_append hwhole]
  rw [readDigits?_eq (List.append_ne_nil_of_left_ne_nil hne _) hdigits]
  simp only [Option.bind_eq_bind, Option.bind_some, clamp_zero, Int.zero_sub]
  rfl

/-- Digits without a point are read as a number. -/
theorem readUnsigned?_digits (negative : Bool) (hwhole : ∀ c ∈ whole, c.isDigit = true)
    (hne : whole ≠ []) : readUnsigned? negative whole =
      some (ofDecimal negative (Nat.ofDigitChars 10 whole 0) 0) := by
  rw [readUnsigned?, splitExponent_eq fun c hc => .inl (hwhole c hc)]
  simp only [splitPoint_of_isDigit hwhole, List.append_nil]
  rw [readDigits?_eq hne hwhole]
  simp only [Option.bind_eq_bind, Option.bind_some, clamp_zero]
  rfl

/-! ## Signs -/

theorem toLower_of_isDigit {c : Char} (hc : c.isDigit = true) : c.toLower = c := by
  have hle : c.val ≤ '9'.val := by
    rw [Char.isDigit, Bool.and_eq_true_iff, decide_eq_true_iff, decide_eq_true_iff] at hc
    exact hc.2
  refine dif_neg fun h => ?_
  exact absurd (UInt32.le_trans h.1 hle) (by decide)

/-- A number is read after its sign if it starts with a digit. -/
theorem read?_signText (negative : Bool) {c : Char} {cs : List Char} (hc : c.isDigit = true) :
    read? (signText negative ++ c :: cs) = readUnsigned? negative (c :: cs) := by
  have hsign : splitSign (signText negative ++ c :: cs) = (negative, c :: cs) := by
    cases negative with
    | true => rfl
    | false => exact splitSign_of_isDigit hc cs
  -- the names of numbers start with letters
  have hname {x : Char} {name : List Char} (hx : x.isDigit = false) :
      c.toLower :: cs.map Char.toLower ≠ x :: name := fun h =>
    ne_of_isDigit hc hx ((toLower_of_isDigit hc).symm.trans (List.cons.inj h).1)
  have hinf : c.toLower :: cs.map Char.toLower ≠ "inf".toList := hname (x := 'i') (by decide)
  have hinfinity : c.toLower :: cs.map Char.toLower ≠ "infinity".toList :=
    hname (x := 'i') (by decide)
  have hnan : c.toLower :: cs.map Char.toLower ≠ "nan".toList := hname (x := 'n') (by decide)
  rw [read?, hsign]
  simp only [List.map_cons]
  rw [if_neg (not_or.mpr ⟨hinf, hinfinity⟩), if_neg hnan]

/-! ## Layouts -/

/-- A decimal without a fraction is written without a point. -/
theorem positional_of_nonneg {d : Decimal} (h : 0 ≤ d.exponent) :
    positional d = writeNat d.digits ++ List.replicate d.exponent.toNat '0' :=
  if_pos h

/-- A decimal with a fraction is written with a point among its digits. -/
theorem positional_of_neg {d : Decimal} (h : d.exponent < 0) :
    ∃ whole fraction zeros, positional d = whole ++ '.' :: fraction ∧ whole ≠ [] ∧
      whole ++ fraction = List.replicate zeros '0' ++ writeNat d.digits ∧
      (fraction.length : Int) = -d.exponent := by
  rw [positional, if_neg (Int.not_le.mpr h)]
  simp only
  generalize hplaces : (-d.exponent).toNat = places
  -- there is a digit before the point, for zeros fill the text up
  generalize hpadded : List.replicate (places + 1 - (writeNat d.digits).length) '0' ++
    writeNat d.digits = padded
  have hlength : places + 1 ≤ padded.length := by
    rw [← hpadded, List.length_append, List.length_replicate]
    omega
  refine ⟨_, _, places + 1 - (writeNat d.digits).length, rfl, ?_, ?_, ?_⟩
  · rw [← List.length_pos_iff, List.length_take]
    omega
  · rw [List.take_append_drop, hpadded]
  · rw [List.length_drop]
    omega

theorem isDigit_of_mem_zeros {zeros : Nat} {c : Char} (h : c ∈ List.replicate zeros '0') :
    c.isDigit = true := by
  rw [List.eq_of_mem_replicate h]
  decide

theorem isDigit_of_mem_positional {d : Decimal} (h : 0 ≤ d.exponent) :
    ∀ c ∈ positional d, c.isDigit = true := by
  rw [positional_of_nonneg h]
  exact List.forall_mem_append.mpr
    ⟨fun _ => isDigit_of_mem_writeNat, fun _ => isDigit_of_mem_zeros⟩

theorem positional_ne_nil {d : Decimal} (h : 0 ≤ d.exponent) : positional d ≠ [] := by
  rw [positional_of_nonneg h]
  exact List.append_ne_nil_of_left_ne_nil (writeNat_ne_nil d.digits) _

theorem ofDigitChars_positional {d : Decimal} (h : 0 ≤ d.exponent) :
    Nat.ofDigitChars 10 (positional d) 0 = 10 ^ d.exponent.toNat * d.digits := by
  rw [positional_of_nonneg h, Nat.ofDigitChars_append, Nat.ofDigitChars_replicate_zero,
    ofDigitChars_writeNat]

/-- A decimal with a fraction is written as digits, a point and digits. -/
theorem digits_of_neg {d : Decimal} (h : d.exponent < 0) :
    ∃ whole fraction, positional d = whole ++ '.' :: fraction ∧ whole ≠ [] ∧
      (∀ c ∈ whole, c.isDigit = true) ∧ (∀ c ∈ fraction, c.isDigit = true) ∧
      Nat.ofDigitChars 10 (whole ++ fraction) 0 = d.digits ∧
      (fraction.length : Int) = -d.exponent := by
  obtain ⟨whole, fraction, zeros, hpositional, hne, hdigits, hlength⟩ := positional_of_neg h
  have hall : ∀ c ∈ whole ++ fraction, c.isDigit = true := by
    rw [hdigits]
    exact List.forall_mem_append.mpr
      ⟨fun _ => isDigit_of_mem_zeros, fun _ => isDigit_of_mem_writeNat⟩
  obtain ⟨hwhole, hfraction⟩ := List.forall_mem_append.mp hall
  refine ⟨whole, fraction, hpositional, hne, hwhole, hfraction, ?_, hlength⟩
  rw [hdigits, Nat.ofDigitChars_append, Nat.ofDigitChars_replicate_zero, Nat.mul_zero,
    ofDigitChars_writeNat]

/-- The text of a decimal starts with a digit. -/
theorem exists_positional_eq_cons (d : Decimal) :
    ∃ c cs, positional d = c :: cs ∧ c.isDigit = true := by
  rcases Int.lt_or_le d.exponent 0 with h | h
  · obtain ⟨whole, fraction, hpositional, hne, hwhole, -⟩ := digits_of_neg h
    obtain ⟨c, cs, rfl⟩ := List.exists_cons_of_ne_nil hne
    exact ⟨c, _, hpositional, hwhole c List.mem_cons_self⟩
  · obtain ⟨c, cs, hcs⟩ := List.exists_cons_of_ne_nil (positional_ne_nil h)
    exact ⟨c, cs, hcs, isDigit_of_mem_positional h c (hcs ▸ List.mem_cons_self)⟩

theorem value_of_nonneg {d : Decimal} (h : 0 ≤ d.exponent) :
    d.value = d.digits * 10 ^ d.exponent.toNat := by
  rw [Decimal.value, ← zpow_natCast, Int.toNat_of_nonneg h]

/-- A decimal is read from its text. -/
theorem readUnsigned?_positional (negative : Bool) (d : Decimal) :
    readUnsigned? negative (positional d) = some (ofDecimal negative d.digits d.exponent) := by
  rcases Int.lt_or_le d.exponent 0 with h | h
  · obtain ⟨whole, fraction, hpositional, hne, hwhole, hfraction, hdigits, hlength⟩ :=
      digits_of_neg h
    rw [hpositional, readUnsigned?_point negative hwhole hfraction hne, hdigits, hlength,
      Int.neg_neg]
  · rw [readUnsigned?_digits negative (isDigit_of_mem_positional h) (positional_ne_nil h),
      ofDigitChars_positional h]
    refine congrArg some (ofDecimal_congr (d := ⟨_, 0⟩) ?_ negative)
    rw [value_of_nonneg h, Decimal.value]
    push_cast
    ring

/-- A decimal without a fraction is read from its text with a zero after a point. -/
theorem readUnsigned?_positional_zero (negative : Bool) {d : Decimal} (h : 0 ≤ d.exponent) :
    readUnsigned? negative (positional d ++ ".0".toList) =
      some (ofDecimal negative d.digits d.exponent) := by
  have hzero : ∀ c ∈ ['0'], c.isDigit = true := List.forall_mem_singleton.mpr rfl
  have hshift : Nat.ofDigitChars 10 (positional d ++ ['0']) 0 =
      10 * (10 ^ d.exponent.toNat * d.digits) := by
    rw [Nat.ofDigitChars_append, ofDigitChars_positional h]
    rfl
  have hread := readUnsigned?_point negative (isDigit_of_mem_positional h) hzero
    (positional_ne_nil h)
  rw [hshift] at hread
  refine hread.trans (congrArg some (ofDecimal_congr (d := ⟨_, -1⟩) ?_ negative))
  rw [value_of_nonneg h, Decimal.value]
  push_cast
  ring

/-- A finite double is read back from its plain text. -/
theorem read?_plainText {x : Double} (h : x.isFinite = true) : read? x.plainText = some x := by
  cases x with
  | nan => cases h
  | infinite negative => cases h
  | finite negative m e hcanonical =>
    obtain ⟨c, cs, hcs, hc⟩ := exists_positional_eq_cons (shortest .up m e)
    -- the sign, then digits, then the zero of a whole number if it is one
    rw [plainText, List.append_assoc, hcs, List.cons_append, read?_signText negative hc,
      ← List.cons_append, ← hcs]
    by_cases hwhole : (Double.finite negative m e hcanonical).isIntegral = true
    · have hexponent := exponent_shortest_nonneg .up hcanonical (beq_iff_eq.mp hwhole)
      rw [if_pos hwhole, readUnsigned?_positional_zero negative hexponent,
        ofDecimal_shortest .up hcanonical]
    · rw [if_neg hwhole, List.append_nil, readUnsigned?_positional,
        ofDecimal_shortest .up hcanonical]

/-! ## Characters -/

theorem isDigit_or_eq_point_of_mem_positional {d : Decimal} {c : Char} (hc : c ∈ positional d) :
    c.isDigit = true ∨ c = '.' := by
  rcases Int.lt_or_le d.exponent 0 with h | h
  · obtain ⟨whole, fraction, hpositional, -, hwhole, hfraction, -⟩ := digits_of_neg h
    rw [hpositional] at hc
    rcases List.mem_append.mp hc with hc | hc
    · exact .inl (hwhole c hc)
    · exact (List.mem_cons.mp hc).symm.imp_left (hfraction c)
  · exact .inl (isDigit_of_mem_positional h c hc)

/-- The plain text of a finite double has digits and points only after its sign, and at least one of
them. -/
theorem exists_plainText_eq {x : Double} (h : x.isFinite = true) :
    ∃ negative body, x.plainText = signText negative ++ body ∧ body ≠ [] ∧
      ∀ c ∈ body, c.isDigit = true ∨ c = '.' := by
  cases x with
  | nan => cases h
  | infinite negative => cases h
  | finite negative m e hcanonical =>
    obtain ⟨c, cs, hcs, -⟩ := exists_positional_eq_cons (shortest .up m e)
    have hzero : ∀ c ∈ ['.', '0'], c.isDigit = true ∨ c = '.' :=
      List.forall_mem_cons.mpr ⟨.inr rfl, List.forall_mem_singleton.mpr (.inl rfl)⟩
    refine ⟨negative, _, List.append_assoc .., ?_, List.forall_mem_append.mpr
      ⟨fun _ => isDigit_or_eq_point_of_mem_positional, ?_⟩⟩
    · rw [hcs]
      exact List.cons_ne_nil c _
    · split
      · exact hzero
      · exact fun c hc => absurd hc List.not_mem_nil

end Double

end WebRouting
